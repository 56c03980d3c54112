import IamReconciler.Reconcile.AccessGroups
import IamReconciler.Reconcile.AccessPolicies
import IamReconciler.Reconcile.AuthorizationPolicies
import IamReconciler.Reconcile.Conditions
import IamReconciler.Reconcile.CustomRoles
import IamReconciler.Reconcile.Outcome
import IamReconciler.Settings

/-!
# The life of a resource

One pass over a resource takes it a step further, whatever its state.  A resource without a status
is first written as pending.  A spec that breaks a rule ends the pass, except that a resource which
is being deleted is let go when nothing is recorded and is deleted by its recorded identifier
otherwise.  Then the account is opened and the remote entity is created, compared and updated, or
deleted.

A pass remembers nothing but the status and the finalizers of the resource, so that it can start
over at any time. The remote entity is created only after the store has returned the resource with
the finalizer, and the finalizer is removed only after the store has taken the status that says that
the entity is gone, or when there was never anything to delete or no account to delete it in.
-/

namespace IamReconciler

/-- How the remote entities of a kind are kept. -/
def Kind.strategy : (k : Kind) → Strategy k
  | .accessGroup => AccessGroups.strategy
  | .accessPolicy => AccessPolicies.strategy
  | .authorizationPolicy => AuthorizationPolicies.strategy
  | .customRole => CustomRoles.strategy

namespace Lifecycle

variable {k : Kind} {α : Type}

/-! ## Ends of a pass -/

/-- Ends a pass with the error of a step, which the status says first; an error of that write is
passed over. -/
def fail (r : Resource k) (step : Step) (e : Error) : Pass α := do
  let condition := Condition.failure k step e
  if !r.isIn condition then
    let _ ← Pass.attempt (Pass.updateStatus (r.moveTo condition))
  throw e

/-- The value of a part of a pass, whose error ends the pass as a failed step. -/
def orFail (r : Resource k) (step : Step) (part : Pass α) : Pass α := do
  match ← Pass.attempt part with
  | .ok value => pure value
  | .error e => fail r step e

/-- Ends a pass over a resource whose spec breaks a rule. -/
def refuse (settings : Settings) (r : Resource k) (e : Error) : Pass Outcome := do
  if r.state ≠ .failed then
    let _ ← Pass.updateStatus (r.moveTo (.malformed e))
  pure (.requeue settings.syncPeriod)

/-- Lets a resource go: its finalizer is removed, and nothing is left to do. -/
def release (r : Resource k) : Pass Outcome := do
  let finalizers := r.metadata.finalizerSet
  if finalizers.has k.finalizer then
    let _ ← Pass.update (r.withFinalizers (finalizers.erase k.finalizer))
  pure .finished

/-! ## The remote entity -/

/-- Deletes the remote entity that is recorded; one that does not exist counts as deleted. -/
def deleteRemote (r : Resource k) : Pass Unit := do
  match ← k.strategy.delete r.remoteId with
  | .ok () => pure ()
  | .error e =>
    if e.isNotFound then pure ()
    else fail r .delete (.remote ("delete " ++ k.noun) e)

/-- Deletes the remote entity, says so in the status, and lets the resource go. -/
def delete (r : Resource k) : Pass Outcome := do
  if r.isRecorded then deleteRemote r
  let stored ← Pass.updateStatus (r.moveTo (.deleted k)).forgetRemote
  release stored

/-- Writes the status of a resource whose remote entity was just created; when that fails, the
entity is deleted again, and the pass ends with the error of the write. -/
def recordCreated (r : Resource k) (ref : RemoteRef) : Pass Unit := do
  match ← Pass.attempt (Pass.updateStatus ((r.recordApplied ref).moveTo (.created k))) with
  | .ok _ => pure ()
  | .error e =>
    let _ ← k.strategy.delete ref.id
    throw e

/-- Creates the remote entity. -/
def create (settings : Settings) (scope : Scope) (r : Resource k) : Pass Outcome := do
  let request ← orFail r .resolve (k.strategy.createRequest scope r.spec)
  let ref ← orFail r .create (k.strategy.create scope r.spec request)
  recordCreated r ref
  pure (.requeue settings.syncPeriod)

/-- Ends a pass that could not read the remote entity: its identifier is forgotten, and another pass
is due. -/
def forget (settings : Settings) (r : Resource k) (e : Error) : Pass Outcome := do
  let _ ← Pass.updateStatus (r.moveTo (.failure k .retrieve e)).forgetRemote
  pure ⟨some settings.syncPeriod, some e⟩

/-- An update is needed: the spec or the remote entity has changed. -/
def needsUpdate (r : Resource k) (desired : k.UpdateRequest) (remote : k.Remote) : Bool :=
  r.specDrifted || k.strategy.differs desired remote

/-- Updates the remote entity that was read, and records the spec. -/
def update (scope : Scope) (r : Resource k) (desired : k.UpdateRequest) (remote : k.Remote)
    (etag : Etag) : Pass Unit := do
  let ref ← orFail r .update (k.strategy.update scope r.spec r.remoteId desired remote etag)
  let _ ← Pass.updateStatus ((r.recordApplied ref).moveTo (.updated k))

/-- Compares the remote entity that was read with the spec, and updates it when it differs. -/
def compare (settings : Settings) (scope : Scope) (r : Resource k) (remote : k.Remote)
    (etag : Etag) : Pass Outcome := do
  let desired ← orFail r .resolve (k.strategy.updateRequest scope r.spec)
  if needsUpdate r desired remote then
    update scope r desired remote etag
  else if r.state ≠ .online then
    let _ ← Pass.updateStatus (r.moveTo (.synchronized k))
  pure (.requeue settings.syncPeriod)

/-- Brings the remote entity that is recorded in step. -/
def sync (settings : Settings) (scope : Scope) (r : Resource k) : Pass Outcome := do
  match ← Pass.attempt (k.strategy.fetch r.remoteId) with
  | .ok (remote, etag) => compare settings scope r remote etag
  | .error e => forget settings r e

/-! ## The pass -/

/-- Writes a resource that no pass has seen as pending. -/
def greet (r : Resource k) : Pass (Resource k) :=
  if r.isUnset then Pass.updateStatus (r.moveTo .processing) else pure r

/-- Adds the finalizer to a resource that lacks it. -/
def hold (r : Resource k) : Pass (Resource k) :=
  let finalizers := r.metadata.finalizerSet
  if finalizers.has k.finalizer then pure r
  else Pass.update (r.withFinalizers (finalizers.add k.finalizer))

/-- Sets back what cannot change once the remote entity exists. -/
def restore (r : Resource k) : Pass (Resource k) :=
  if r.immutableDrifted then Pass.update r.restoreImmutable else pure r

/-- The spec breaks a rule, and no remote entity is recorded. -/
def isAbandoned (r : Resource k) : Bool :=
  !r.isRecorded && !r.isWellFormed

/-- A pass over a resource that is being deleted; without an account the resource is let go. -/
def passDeleting (key : Key) (r : Resource k) : Pass Outcome :=
  if isAbandoned r then release r
  else do
    match ← Pass.attempt (Pass.openAccount key.ns) with
    | .ok _ => delete r
    | .error _ => release r

/-- A pass over a resource that is not being deleted. -/
def passLiving (settings : Settings) (key : Key) (r : Resource k) : Pass Outcome := do
  match r.validate with
  | .error e => refuse settings r e
  | .ok () =>
    let restored ← restore r
    let session ← orFail restored .account (Pass.openAccount key.ns)
    let held ← hold restored
    let scope : Scope := ⟨session, key.ns⟩
    if held.isRecorded then sync settings scope held else create settings scope held

/-- A pass over the resource of a key. -/
def pass (settings : Settings) (k : Kind) (key : Key) : Pass Outcome := do
  match ← Pass.fetch k key with
  | none => pure .finished
  | some r =>
    if r.metadata.isDeleting then
      if r.metadata.finalizerSet.has k.finalizer then passDeleting key (← greet r)
      else pure .finished
    else passLiving settings key (← greet r)

end Lifecycle

/-! ## Running passes -/

/-- The outcome of a pass over the resource of a key. -/
def reconcile (settings : Settings) (k : Kind) (key : Key) : Program Pass.interface Outcome := do
  match ← (Lifecycle.pass settings k key).run with
  | .ok outcome => pure outcome
  | .error e => pure (.failure e)

/-- The action after a pass over a resource. -/
def schedule {k : Kind} (settings : Settings) (r : Resource k) :
    Program Pass.interface (Except Error Action) :=
  match r.key with
  | .error e => pure (.error e)
  | .ok key => do
    let outcome ← reconcile settings k key
    pure outcome.action

/-- The action after a pass that failed. -/
def Settings.actionAfterError (settings : Settings) : Action :=
  .requeue settings.errorRequeue

end IamReconciler
