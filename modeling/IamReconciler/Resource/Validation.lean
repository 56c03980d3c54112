import IamReconciler.Error
import IamReconciler.Text.Blank

/-!
# Rules of validity

A spec is well formed when it breaks none of a list of rules.  The rules are checked in order, and
the first one that is broken is reported with the field it concerns.
-/

namespace IamReconciler

/-- A rule that a spec may break: whether it is broken, the field it concerns, and what it
demands. -/
structure Rule where
  broken : Bool
  field : String
  demand : String

namespace Rule

/-- The error that reports a broken rule. -/
def error (rule : Rule) : Error :=
  .validation rule.field rule.demand

/-- The first broken rule is an error. -/
def check (rules : List Rule) : Except Error Unit :=
  match rules.find? Rule.broken with
  | some rule => .error rule.error
  | none => .ok ()

/-- The rule that no entry of a list is blank. -/
def noBlankEntries (field : String) (values : List String) : Rule :=
  ⟨values.any Text.isBlank, field, "entries must not be empty"⟩

end Rule

end IamReconciler
