import IamReconciler.Json.Record

/-!
# States

Where a resource stands in its life: seen, in step with its remote entity, failed, or deleted.  A
state is written as its name.  A state may also be given as an object with that name as its only
field, whose value is null; inside a status an empty object is accepted in place of the null.
-/

namespace IamReconciler

/-- The state of a resource. -/
inductive State where
  /-- Seen by the operator, and not yet in step. -/
  | pending
  /-- The remote entity exists and agrees with the spec. -/
  | online
  /-- The last pass failed. -/
  | failed
  /-- The remote entity was removed while the resource was deleted. -/
  | deleted
  deriving DecidableEq, Repr, Inhabited

namespace State

/-- The name of a state. -/
def name : State → String
  | .pending => "Pending"
  | .online => "Online"
  | .failed => "Failed"
  | .deleted => "Deleted"

/-- All states. -/
def all : List State := [.pending, .online, .failed, .deleted]

/-- The state of a name. -/
def ofName? (name : String) : Option State :=
  all.find? fun state => state.name = name

/-- The state that a name stands for, with a fault for any other name. -/
def ofVariant (name : String) : Except ReadFault State :=
  match ofName? name with
  | some state => .ok state
  | none => .error (.unknownVariant name (all.map State.name))

/-- The state that a value gives; `emptyCounts` accepts an empty object in place of the null. -/
def read (emptyCounts : Bool) : Json → Except ReadFault State
  | .str name => ofVariant name
  | .obj [(name, value)] => do
    let state ← ofVariant name
    match value with
    | .null => .ok state
    | .obj [] => if emptyCounts then .ok state else .error (.wrongType value "unit")
    | other => .error (.wrongType other "unit")
  | .obj _ => .error (.wrongValue "map" "map with a single key")
  | other => .error (.wrongType other "string or map")

/-- The format of states. -/
def format (emptyCounts : Bool) : Format State where
  write state := .str state.name
  read := read emptyCounts
  scan := Scan.settle do
    let given ← Scan.plainValue
    Scan.ofRead (read emptyCounts given)
  schema := .object [("enum", .strs (all.map State.name)), ("type", .str "string")]

end State

/-- The state of a resource with a message for people. -/
structure Condition where
  state : State
  message : String
  deriving DecidableEq, Repr, Inhabited

namespace Condition

/-- The condition of a resource that no pass has seen. -/
def blank : Condition := ⟨.pending, ""⟩

/-- The fields of a condition; `emptyCounts` as for states. -/
def fields (emptyCounts : Bool) : List (Field Condition) :=
  [ Slot.defaulted ⟨"state", State.format emptyCounts, .pending, (·.state),
        fun v c => { c with state := v }⟩
      "Current state",
    (Slot.text "message" (·.message) fun v c => { c with message := v }).defaulted
      "Human-readable message describing the state" ]

/-- The format of a condition that stands alone. -/
def record : Record Condition where
  expected := "struct ResourceStatus"
  doc := "State and message common to every kind's status"
  blank := blank
  fields := fields false
  layout := .plain

end Condition

end IamReconciler
