import IamReconciler.Cluster.Location
import IamReconciler.Resource.Basic

/-!
# Faults of input

Documents describe worlds and what happens in them.  A document is at fault when it names something
unknown or holds a value that cannot be read, and the first fault is all that is said of it.
-/

namespace IamReconciler

/-- Why a document describes no world and no act. -/
inductive InputFault where
  /-- The document names something unknown. -/
  | unknown (what name : String)
  /-- The document holds a value that cannot be read. -/
  | unreadable (fault : ReadFault)

namespace InputFault

/-- The document of an input fault. -/
def toJson : InputFault → Json
  | .unknown what name =>
    .object [("error", .str "BadInput"), ("message", .str ("unknown " ++ what ++ " " ++ name))]
  | .unreadable fault => .object [("error", .str "Parse"), ("message", .str fault.message)]

end InputFault

/-- Reading of documents that may be at fault. -/
abbrev Reading := Except InputFault

namespace Reading

/-- The thing of a name, which is unknown where there is none. -/
def known {α : Type} (what name : String) (found : Option α) : Reading α :=
  match found with
  | some a => .ok a
  | none => .error (.unknown what name)

/-- The kind of a name. -/
def kind (name : String) : Reading Kind :=
  known "kind" name (Kind.ofName? name)

/-- The collection of the objects whose kind has a name. -/
def collection (name : String) : Reading Cluster.Collection :=
  known "kind" name (Cluster.Collection.ofKindName? name)

/-- The place that an object's kind and metadata name. -/
def location (object : Json) : Reading Cluster.Location :=
  known "kind" (object.textOf "kind") (Cluster.Location.ofObject? object)

/-- A value that is read strictly. -/
def strict {α : Type} (value : Except ReadFault α) : Reading α :=
  value.mapError .unreadable

/-- The resource of a document. -/
def resource (k : Kind) (json : Json) : Reading (Resource k) :=
  strict (Resource.ofJson k json)

end Reading

end IamReconciler
