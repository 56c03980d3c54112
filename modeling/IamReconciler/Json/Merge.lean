import IamReconciler.Json.Basic

/-!
# Merge patches

A merge patch that is an object changes the fields it names: a null removes a field, an object is
merged into the field's value, and any other value replaces it.  A patch that is no object replaces
the whole target.
-/

namespace IamReconciler

namespace Json

mutual

/-- The target after a merge patch. -/
def merge (target : Json) : Json → Json
  | .obj patch => .obj (mergeFields target.fields patch)
  | .null => .null
  | .bool b => .bool b
  | .int i => .int i
  | .double x => .double x
  | .str s => .str s
  | .arr items => .arr items
termination_by structural patch => patch

/-- The fields of the target after the fields of a patch, in their order. -/
def mergeFields (target : List (String × Json)) : List (String × Json) → List (String × Json)
  | [] => target
  | entry :: rest => mergeFields (mergeField target entry) rest
termination_by structural patch => patch

/-- The fields of the target after one field of a patch. -/
def mergeField (target : List (String × Json)) : String × Json → List (String × Json)
  | (name, patch) =>
    if patch.isNull then Entries.erase name target
    else Entries.insert name (merge ((Entries.get? name target).getD .null) patch) target
termination_by structural patch => patch

end

end Json

end IamReconciler
