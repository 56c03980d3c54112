import IamReconciler.Json.Double
import IamReconciler.NameMap

/-!
# JSON values

The tree of a JSON document.  Whole numbers of at most 64 bits are integers and all other numbers
have double precision; the fields of an object are entries in the order of their names.

The second section reads values leniently: each reader gives a default where a value is missing or
is of another form.  Strict reading is the matter of formats.
-/

namespace IamReconciler

/-- A JSON value. -/
inductive Json where
  | null
  | bool (value : Bool)
  | int (value : Int)
  | double (value : Double)
  | str (value : String)
  | arr (items : List Json)
  | obj (fields : List (String × Json))
  deriving Inhabited, Repr, BEq

namespace Json

/-- The object of a list of bindings, in which a later binding of a name replaces an earlier one. -/
def object (bindings : List (String × Json)) : Json :=
  .obj (Entries.ofList bindings)

/-- The number of a count. -/
def nat (n : Nat) : Json :=
  .int n

/-- The list of texts. -/
def strs (values : List String) : Json :=
  .arr (values.map .str)

/-- The value, or null for none. -/
def ofOption {α : Type} (f : α → Json) : Option α → Json
  | none => .null
  | some a => f a

/-- A text, or null for none. -/
def ofStr? : Option String → Json :=
  ofOption .str

/-! ## Lenient reading -/

/-- The fields of an object; any other value has none. -/
def fields : Json → List (String × Json)
  | .obj fields => fields
  | _ => []

/-- The items of a list; any other value has none. -/
def items : Json → List Json
  | .arr items => items
  | _ => []

/-- The value of a field. -/
def field? (json : Json) (name : String) : Option Json :=
  Entries.get? name json.fields

/-- The value of a field, where a null counts as missing. -/
def given? (json : Json) (name : String) : Option Json :=
  match json.field? name with
  | some .null => none
  | found => found

/-- The value of a field, null when it is missing. -/
def field (json : Json) (name : String) : Json :=
  (json.field? name).getD .null

/-- The text that a value is. -/
def str? : Json → Option String
  | .str s => some s
  | _ => none

/-- The text that a value is, empty for any other value. -/
def text (json : Json) : String :=
  json.str?.getD ""

/-- The text of a field, empty when there is none. -/
def textOf (json : Json) (name : String) : String :=
  (json.field name).text

/-- The items of a field, empty when there are none. -/
def itemsOf (json : Json) (name : String) : List Json :=
  (json.field name).items

/-- The texts of a field, empty when there are none. -/
def textsOf (json : Json) (name : String) : List String :=
  (json.itemsOf name).map text

/-- The count that a value is. -/
def nat? : Json → Option Nat
  | .int (.ofNat n) => some n
  | _ => none

/-- The truth value that a value is. -/
def bool? : Json → Option Bool
  | .bool b => some b
  | _ => none

/-- Whether a value is null. -/
def isNull : Json → Bool
  | .null => true
  | _ => false

/-- The value with a field set; a value that is no object becomes one. -/
def setField (json : Json) (name : String) (value : Json) : Json :=
  .obj (Entries.insert name value json.fields)

/-- The value without a field. -/
def eraseField (json : Json) (name : String) : Json :=
  match json with
  | .obj fields => .obj (Entries.erase name fields)
  | other => other

/-- The texts that the fields of an object hold. -/
def textMap (json : Json) : NameMap String :=
  NameMap.ofList (json.fields.map fun entry => (entry.1, entry.2.text))

end Json

end IamReconciler
