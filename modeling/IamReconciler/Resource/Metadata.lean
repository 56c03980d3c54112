import IamReconciler.Error
import IamReconciler.Finalizers
import IamReconciler.Resource.Ownership

/-!
# Metadata

What an object carries besides its spec and status.  Every part may be absent; an absent part is not
written, and a null counts as absent.  The key of an object is its namespace and its name.
-/

namespace IamReconciler

/-- The metadata of an object. -/
structure Metadata where
  name : Option String := none
  ns : Option String := none
  generateName : Option String := none
  finalizers : Option (List String) := none
  creationTimestamp : Option Timestamp := none
  deletionTimestamp : Option Timestamp := none
  /-- The seconds that the object has left to end by itself. -/
  deletionGraceSeconds : Option Int := none
  labels : Option (NameMap String) := none
  annotations : Option (NameMap String) := none
  generation : Option Int := none
  managedFields : Option (List ManagedFields) := none
  owners : Option (List OwnerReference) := none
  resourceVersion : Option String := none
  selfLink : Option String := none
  uid : Option String := none
  deriving Inhabited

/-- The namespace and the name of an object. -/
structure Key where
  ns : String
  name : String
  deriving DecidableEq, Repr, Inhabited

/-- A key as messages show it. -/
def Key.text (key : Key) : String :=
  key.ns ++ "/" ++ key.name

namespace Metadata

/-- The format of metadata. -/
def record : Record Metadata where
  expected := "ObjectMeta"
  doc := "Standard object's metadata"
  blank := {}
  fields :=
    [ .absentable "annotations" "" .textMap (·.annotations) fun v m => { m with annotations := v },
      .absentable "creationTimestamp" "" Timestamp.format (·.creationTimestamp)
        fun v m => { m with creationTimestamp := v },
      .absentable "deletionGracePeriodSeconds" "" .int64 (·.deletionGraceSeconds)
        fun v m => { m with deletionGraceSeconds := v },
      .absentable "deletionTimestamp" "" Timestamp.format (·.deletionTimestamp)
        fun v m => { m with deletionTimestamp := v },
      .absentable "finalizers" "" (.list .text) (·.finalizers)
        fun v m => { m with finalizers := v },
      .absentable "generateName" "" .text (·.generateName) fun v m => { m with generateName := v },
      .absentable "generation" "" .int64 (·.generation) fun v m => { m with generation := v },
      .absentable "labels" "" .textMap (·.labels) fun v m => { m with labels := v },
      .absentable "managedFields" "" (.list ManagedFields.record.format) (·.managedFields)
        fun v m => { m with managedFields := v },
      .absentable "name" "" .text (·.name) fun v m => { m with name := v },
      .absentable "namespace" "" .text (·.ns) fun v m => { m with ns := v },
      .absentable "ownerReferences" "" (.list OwnerReference.record.format) (·.owners)
        fun v m => { m with owners := v },
      .absentable "resourceVersion" "" .text (·.resourceVersion)
        fun v m => { m with resourceVersion := v },
      .absentable "selfLink" "" .text (·.selfLink) fun v m => { m with selfLink := v },
      .absentable "uid" "" .text (·.uid) fun v m => { m with uid := v } ]
  layout := .tolerant

/-- The name of an object, or the start of the name that it is to be given. -/
def anyName (m : Metadata) : String :=
  (m.name <|> m.generateName).getD ""

/-- The key of an object; an object without a namespace has none. -/
def key (m : Metadata) : Except Error Key :=
  match m.ns with
  | some ns => .ok ⟨ns, m.anyName⟩
  | none => .error (.internal (m.anyName ++ " has no namespace") "store")

/-- Whether the object is being deleted. -/
def isDeleting (m : Metadata) : Bool :=
  m.deletionTimestamp.isSome

/-- The finalizers of an object. -/
def finalizerSet (m : Metadata) : Finalizers :=
  Finalizers.ofList? m.finalizers

/-- The metadata with other finalizers. -/
def withFinalizers (m : Metadata) (f : Finalizers) : Metadata :=
  { m with finalizers := f.toList? }

end Metadata

end IamReconciler
