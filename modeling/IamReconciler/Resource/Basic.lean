import IamReconciler.Resource.Kind
import IamReconciler.Resource.Metadata
import IamReconciler.Resource.State

/-!
# Resources

A declared resource has metadata, a spec, and a status once a pass has seen it.  The status holds
the condition of the resource, the identity of the remote entity, and the spec that was applied to
it last.

A resource is recorded when its status holds a remote identifier.  Only then can the spec differ
from what was applied: the comparisons `specDrifted` and `immutableDrifted` are false of a resource
that is not recorded.
-/

namespace IamReconciler

/-- What the operator keeps about a resource. -/
structure Status (k : Kind) where
  condition : Condition
  identity : k.Identity
  /-- The spec that was applied to the remote entity last. -/
  applied : k.Spec
  deriving DecidableEq

namespace Status

variable {k : Kind}

/-- The status of a resource that no pass has seen. -/
def blank (k : Kind) : Status k := ⟨.blank, k.noIdentity, k.blankSpec⟩

/-- The identifier of the remote entity, empty when there is none. -/
def remoteId (s : Status k) : String :=
  k.idOf s.identity

/-- Whether a remote entity is recorded. -/
def isRecorded (s : Status k) : Bool :=
  !s.remoteId.isEmpty

/-- The status without a remote entity. -/
def forget (s : Status k) : Status k :=
  { s with identity := k.noIdentity }

/-- The format of statuses. -/
def record (k : Kind) : Record (Status k) where
  expected := "struct " ++ k.name ++ "Status"
  doc := k.name ++ " status: state plus the last applied spec"
  blank := blank k
  fields :=
    ((Condition.fields true).map fun f =>
      (f.within (·.condition) fun v s => { s with condition := v }).inlined) ++
    (k.identityFields.map fun f => f.within (·.identity) fun v s => { s with identity := v }) ++
    (k.appliedFields.map fun f => f.within (·.applied) fun v s => { s with applied := v })
  layout := .mixed

end Status

/-- A declared resource. -/
structure Resource (k : Kind) where
  metadata : Metadata
  spec : k.Spec
  status : Option (Status k)

namespace Resource

variable {k : Kind}

/-! ## Format -/

/-- The format of resources without the fields that name the kind. -/
def record (k : Kind) : Record (Resource k) where
  expected := "struct " ++ k.name
  doc := ""
  blank := ⟨{}, k.blankSpec, none⟩
  fields :=
    [ Slot.required ⟨"metadata", Metadata.record.format, {}, (·.metadata),
        fun v r => { r with metadata := v }⟩ "",
      Slot.required ⟨"spec", k.specRecord.format, k.blankSpec, (·.spec),
        fun v r => { r with spec := v }⟩ "",
      (Field.absentable "status" "" (Status.record k).format (·.status)
        fun v r => { r with status := v }).byName ]
  layout := .plain

/-- The format of resources; a written resource names its kind, and a read one may name any. -/
def format (k : Kind) : Format (Resource k) where
  write r :=
    (((record k).write r).setField "apiVersion" (.str Kind.apiVersion)).setField "kind"
      (.str k.name)
  read := (record k).read
  scan := (record k).scan
  schema := (record k).schema

/-- The written resource. -/
def toJson (r : Resource k) : Json :=
  (format k).write r

/-- The resource that a value gives. -/
def ofJson (k : Kind) (json : Json) : Except ReadFault (Resource k) :=
  (format k).read json

/-! ## Questions -/

/-- The key of a resource. -/
def key (r : Resource k) : Except Error Key :=
  r.metadata.key

/-- The spec breaks no rule. -/
def validate (r : Resource k) : Except Error Unit :=
  k.validate r.spec

/-- Whether the spec breaks no rule. -/
def isWellFormed (r : Resource k) : Bool :=
  (k.validate r.spec).toBool

/-- The status, blank when no pass has seen the resource. -/
def statusOrBlank (r : Resource k) : Status k :=
  r.status.getD (Status.blank k)

/-- No pass has written a status. -/
def isUnset (r : Resource k) : Bool :=
  r.statusOrBlank = Status.blank k

/-- The state of a resource. -/
def state (r : Resource k) : State :=
  r.statusOrBlank.condition.state

/-- The identifier of the remote entity, empty when there is none. -/
def remoteId (r : Resource k) : String :=
  r.statusOrBlank.remoteId

/-- Whether a remote entity is recorded. -/
def isRecorded (r : Resource k) : Bool :=
  r.statusOrBlank.isRecorded

/-- The spec of a recorded resource differs from what was applied last. -/
def specDrifted (r : Resource k) : Bool :=
  r.isRecorded && k.differs r.spec r.statusOrBlank.applied

/-- The spec of a recorded resource differs from what was applied last in what cannot change. -/
def immutableDrifted (r : Resource k) : Bool :=
  r.isRecorded && k.differsImmutably r.spec r.statusOrBlank.applied

/-! ## Changes -/

/-- The resource with another status. -/
def withStatus (r : Resource k) (s : Status k) : Resource k :=
  { r with status := some s }

/-- The resource in a condition. -/
def moveTo (r : Resource k) (c : Condition) : Resource k :=
  r.withStatus { r.statusOrBlank with condition := c }

/-- The resource is in a condition already. -/
def isIn (r : Resource k) (c : Condition) : Bool :=
  r.statusOrBlank.condition = c

/-- The resource without its remote entity. -/
def forgetRemote (r : Resource k) : Resource k :=
  if r.isRecorded then r.withStatus r.statusOrBlank.forget else r

/-- The resource with what cannot change set back to what was applied. -/
def restoreImmutable (r : Resource k) : Resource k :=
  if r.immutableDrifted then { r with spec := k.withImmutableOf r.spec r.statusOrBlank.applied }
  else r

/-- The resource after its spec was applied to a remote entity. -/
def recordApplied (r : Resource k) (ref : RemoteRef) : Resource k :=
  let s := r.statusOrBlank
  r.withStatus { s with identity := k.identify s.identity ref, applied := r.spec }

/-- The resource with other finalizers. -/
def withFinalizers (r : Resource k) (f : Finalizers) : Resource k :=
  { r with metadata := r.metadata.withFinalizers f }

end Resource

end IamReconciler
