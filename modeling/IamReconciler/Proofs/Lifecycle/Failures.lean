import IamReconciler.Proofs.Lifecycle.Forgetting
import IamReconciler.Proofs.Lifecycle.Records
import IamReconciler.Proofs.Lifecycle.Statuses

/-!
# What a failed pass leaves behind

A pass changes the resource in memory before it writes, and it may fail at any call.  The record
that it goes by, which is the identity of the entity and the spec that was applied, must not suffer
from that.  In a pass that fails, every status that the store takes moves the condition alone, with
two exceptions: the entity could not be read and is forgotten, or it was deleted and removing the
finalizer failed then (`Fallout`).  In a site where a write that fails has no effect, the stored
record is therefore the one before the pass, or the one without the entity (`AfterFailure`).

The other half is about the writes that tell a failure.  Such a write is the last call of its pass,
and the pass ends with the error that it tells, whatever becomes of the write (`TellsFailure`).
Only where the entity could not be read and where the spec is broken does an error of the write come
first.  Both halves are put together in `failure_of_run`.
-/

namespace IamReconciler

open Directory (Call)

variable {k : Kind} {settings : Settings} {key : Key} {scope : Scope} {r w : Resource k}
  {h rest trace : List (Exchange Pass.interface)} {outcome : Outcome}

/-! ## The record after a failure -/

namespace Resource

/-- A resource has the status of another one without the entity, and in some condition. -/
def Cleared (r w : Resource k) : Prop :=
  ∃ c, w.statusOrBlank = { r.statusOrBlank with condition := c, identity := k.noIdentity }

/-- A resource with the same record as before is cleared to the same status. -/
lemma SameRecord.cleared {v : Resource k} (hSame : r.SameRecord w) (hCleared : w.Cleared v) :
    r.Cleared v := by
  obtain ⟨c, hSame⟩ := hSame
  obtain ⟨c', hCleared⟩ := hCleared
  exact ⟨c', by rw [hCleared, hSame]⟩

/-- Forgetting a recorded entity in some condition clears the record. -/
lemma cleared_forgetRemote (hRecorded : r.isRecorded) (c : Condition)
    (hStatus : w.status = (r.moveTo c).forgetRemote.status) : r.Cleared w := by
  have hMoved : (r.moveTo c).isRecorded := hRecorded
  refine ⟨c, ?_⟩
  rw [statusOrBlank, hStatus, forgetRemote, if_pos hMoved]
  rfl

/-- Forgetting an entity that is not recorded keeps the record. -/
lemma sameRecord_forgetRemote (hUnrecorded : ¬r.isRecorded) (c : Condition)
    (hStatus : w.status = (r.moveTo c).forgetRemote.status) : r.SameRecord w := by
  have hMoved : ¬(r.moveTo c).isRecorded := hUnrecorded
  refine ⟨c, ?_⟩
  rw [statusOrBlank, hStatus, forgetRemote, if_neg hMoved]
  rfl

end Resource

/-- A status is reworded, or it is not taken. -/
def Careful (k : Kind) (before : List (Exchange Pass.interface)) (y : Exchange Pass.interface) :
    Prop :=
  WriteFailed y ∨ Rewords k before y

/-- What a pass that fails has done to the status, whatever was answered. -/
inductive Fallout (k : Kind) : List (Exchange Pass.interface) → Prop where
  | careful {h : List (Exchange Pass.interface)} (hTurn : InTurn (Careful k) h) : Fallout k h
  /-- The entity could not be read, and the store has taken the status that forgets it. -/
  | unread {before reads : List (Exchange Pass.interface)} {r stored : Resource k}
      {y : Exchange Pass.interface}
      {e : Error} (hReached : Reached r before) (hRecorded : r.isRecorded)
      (hReads : ∀ z ∈ reads ++ [y], z.call.isRead)
      (hUnread : FailedToRead (k.entity r.remoteId) e y) :
      Fallout k (before ++ (reads ++ [y] ++
        [⟨.store (.updateStatus k (r.moveTo (.failure k .retrieve e)).forgetRemote), .ok stored⟩]))
  /-- The entity is gone, the store has taken the status that says so, and the finalizer was not
  removed. -/
  | deleted {before first : List (Exchange Pass.interface)} {r stored w : Resource k} {e : Error}
      (hReached : Reached r before) (hRemoving : Lifecycle.Removing r first)
      (hReleases : ¬w.metadata.finalizerSet.has k.finalizer) :
      Fallout k (before ++ (first ++
        [⟨.store (.updateStatus k (r.moveTo (.deleted k)).forgetRemote), .ok stored⟩,
          ⟨.store (.update k w), .error e⟩]))

/-- What has become of the stored status in a pass that failed. -/
inductive AfterFailure (k : Kind) (trace : List (Exchange Pass.interface)) (r w : Resource k) :
    Prop where
  /-- It is the same but for the condition. -/
  | kept (hSame : r.SameRecord w)
  /-- Reading the recorded entity failed, and the entity is forgotten. -/
  | unread {e : Error} {y : Exchange Pass.interface} (hMem : y ∈ trace)
      (hUnread : FailedToRead (k.entity r.remoteId) e y) (hCleared : r.Cleared w)
  /-- The store has taken the status that says that the entity is deleted, and then it did not take
  the write that removes the finalizer. -/
  | deleted {before : List (Exchange Pass.interface)} {deleted stored released : Resource k}
      {e : Error} (hTrace : trace = before ++
        [⟨.store (.updateStatus k deleted), .ok stored⟩, ⟨.store (.update k released), .error e⟩])
      (hDeleted : deleted.state = .deleted)
      (hReleases : ¬released.metadata.finalizerSet.has k.finalizer)
      (hCleared : r.Cleared w)

/-! ### Careful parts -/

/-- What a pass has done until it has come to a resource is careful. -/
lemma Calm.careful (hCalm : Calm k h) : InTurn (Careful k) h :=
  hCalm.rewords.imp fun _ _ hRewords => .inr hRewords

/-- Calls of other parties than the store are careful. -/
lemma careful_append (hTurn : InTurn (Careful k) h) (hOther : ∀ z ∈ rest, z.call.isStore = false) :
    InTurn (Careful k) (h ++ rest) := by
  refine inTurn_append_iff.2 ⟨hTurn, (inTurn_of_forall hOther).imp fun before z hz => ?_⟩
  exact .inr (rewords_of_isStore hz)

/-- A write that fails is careful. -/
lemma careful_concat {y : Exchange Pass.interface} (hTurn : InTurn (Careful k) h)
    (hFailed : WriteFailed y) : InTurn (Careful k) (h ++ [y]) :=
  inTurn_concat_iff.2 ⟨hTurn, .inl hFailed⟩

/-- A condition that is told after calls of other parties than the store is careful. -/
lemma Reached.careful_telling {c : Condition} {first : List (Exchange Pass.interface)}
    (hR : Reached r h) (hOther : ∀ z ∈ first, z.call.isStore = false)
    (hTelling : Lifecycle.Telling r c rest) : InTurn (Careful k) (h ++ first ++ rest) := by
  have hLast : LastWord (Returns r) (h ++ first) := hR.last.append hOther
  have hTold := (hTelling.rewords hLast).imp fun before y hRewords =>
    (.inr hRewords : Careful k _ y)
  exact inTurn_append_iff.2 ⟨careful_append hR.careful hOther, hTold⟩

/-! ### Courses that fail -/

/-- Deletion that fails. -/
lemma Reached.fallout_of_deleting (hR : Reached r h) {x : Except Error Outcome}
    (hDeleting : Lifecycle.Deleting r rest x) (hFailed : (Lifecycle.outcomeOf x).error ≠ none) :
    Fallout k (h ++ rest) := by
  cases hDeleting with
  | @kept c e told _ _ _ hTold =>
    have hOther : ∀ y ∈ [(⟨.directory c, .error e⟩ : Exchange Pass.interface)],
        y.call.isStore = false :=
      List.forall_mem_singleton.2 rfl
    rw [← List.singleton_append, ← List.append_assoc]
    exact .careful (hR.careful_telling hOther hTold)
  | @unstated first e hRemoving =>
    rw [← List.append_assoc]
    exact .careful (careful_concat (careful_append hR.careful hRemoving.isStore)
      (.updateStatus _ e))
  | @stated first last stored _ hRemoving hRelease =>
    rcases Lifecycle.traces_release hRelease with ⟨-, answer, rfl, rfl⟩ | ⟨-, rfl, rfl⟩
    · cases answer with
      | ok => exact absurd rfl hFailed
      | error e =>
        refine .deleted hR hRemoving ?_
        rw [Resource.finalizerSet_withFinalizers, Finalizers.has_erase]
        exact Bool.false_ne_true
    · exact absurd rfl hFailed

/-- Synchronization that fails. -/
lemma Reached.fallout_of_syncing (hR : Reached r h) (hRecorded : r.isRecorded)
    {x : Except Error Outcome} (hSyncing : Lifecycle.Syncing settings scope r rest x)
    (hFailed : (Lifecycle.outcomeOf x).error ≠ none) : Fallout k (h ++ rest) := by
  cases hSyncing with
  | @forgotten first e hFetch answer =>
    -- the record is lost when the store takes it, and kept when that write fails, too
    cases answer with
    | error e' =>
      rw [← List.append_assoc]
      exact .careful (careful_concat (careful_append hR.careful (isStore_of_fetch hFetch))
        (.updateStatus _ e'))
    | ok stored =>
      have hReads := isRead_of_fetch hFetch
      obtain ⟨reads, y, rfl, hUnread⟩ := Kind.failedToRead_of_traces hFetch
      exact .unread hR hRecorded hReads hUnread
  | unresolved hFetch hResolve hTold =>
    have hTurn := hR.careful_telling (isStore_of_desired hFetch hResolve) hTold
    rw [List.append_assoc, List.append_assoc] at hTurn
    exact .careful hTurn
  | agreed => exact absurd rfl hFailed
  | synchronized hFetch hResolve _ _ answer =>
    cases answer with
    | ok => exact absurd rfl hFailed
    | error e =>
      have hTurn := careful_append hR.careful (isStore_of_desired hFetch hResolve)
      rw [← List.append_assoc, ← List.append_assoc, List.append_assoc h]
      exact .careful (careful_concat hTurn (.updateStatus _ e))
  | unchanged hFetch hResolve _ hUpdate hTold =>
    have hOther :=
      List.forall_mem_append.2 ⟨isStore_of_desired hFetch hResolve, isStore_of_update hUpdate⟩
    have hTurn := hR.careful_telling hOther hTold
    rw [List.append_assoc, List.append_assoc, List.append_assoc] at hTurn
    exact .careful hTurn
  | @changed first second third found desired ref hFetch hResolve _ hUpdate answer =>
    cases answer with
    | ok => exact absurd rfl hFailed
    | error e =>
      have hOther :=
        List.forall_mem_append.2 ⟨isStore_of_desired hFetch hResolve, isStore_of_update hUpdate⟩
      have hTurn := careful_concat (careful_append hR.careful hOther)
        (.updateStatus ((r.recordApplied ref).moveTo (.updated k)) e)
      rw [List.append_assoc, List.append_assoc, List.append_assoc] at hTurn
      exact .careful hTurn

/-- Creation that fails. -/
lemma Reached.fallout_of_creating (hR : Reached r h) {x : Except Error Outcome}
    (hCreating : Lifecycle.Creating settings scope r rest x)
    (hFailed : (Lifecycle.outcomeOf x).error ≠ none) : Fallout k (h ++ rest) := by
  have hMade {first second : List (Exchange Pass.interface)} {request : k.CreateRequest}
      {y : Except Error RemoteRef}
      (hResolve : Pass.Traces (k.strategy.createRequest scope r.spec) first (.ok request))
      (hCreate : Pass.Traces (k.strategy.create scope r.spec request) second y) :
      ∀ u ∈ first ++ second, u.call.isStore = false :=
    List.forall_mem_append.2 ⟨isStore_of_createRequest hResolve, isStore_of_create hCreate⟩
  cases hCreating with
  | unresolved hResolve hTold =>
    have hTurn := hR.careful_telling (isStore_of_createRequest hResolve) hTold
    rw [List.append_assoc] at hTurn
    exact .careful hTurn
  | uncreated hResolve hCreate hTold =>
    have hTurn := hR.careful_telling (hMade hResolve hCreate) hTold
    rw [List.append_assoc, List.append_assoc] at hTurn
    exact .careful hTurn
  | recorded => exact absurd rfl hFailed
  | @unrecorded first second request ref e c hResolve hCreate _ answer =>
    have hWritten := careful_concat (careful_append hR.careful (hMade hResolve hCreate))
      (.updateStatus ((r.recordApplied ref).moveTo (.created k)) e)
    have hOther : ∀ y ∈ [(⟨.directory c, answer⟩ : Exchange Pass.interface)],
        y.call.isStore = false :=
      List.forall_mem_singleton.2 rfl
    have hTurn := careful_append hWritten hOther
    rw [List.append_assoc, List.append_assoc, List.append_assoc] at hTurn
    exact .careful hTurn

/-- A pass that fails. -/
lemma fallout_of_passing {x : Except Error Outcome}
    (hPassing : Lifecycle.Passing settings k key h x)
    (hFailed : (Lifecycle.outcomeOf x).error ≠ none) : Fallout k h := by
  cases outline_of_passing hPassing with
  | calm hCalm => exact .careful hCalm.careful
  | deleting hReached hDeleting => exact hReached.fallout_of_deleting hDeleting hFailed
  | syncing hReached hRecorded hSyncing =>
      exact hReached.fallout_of_syncing hRecorded hSyncing hFailed
  | creating hReached _ hCreating => exact hReached.fallout_of_creating hCreating hFailed

/-! ### Sites -/

section

variable {δ : Type} {C : Circumstances k δ} {s t u v : Site k δ} {y : Exchange Pass.interface}

/-- A path without effects of failed writes is one in the circumstances as they are. -/
lemma path_of_plainly (hPath : (C.plainly key).Path s h t) : (C.surroundings key).Path s h t :=
  hPath.mono fun _ _ _ _ hStep => hStep.1

/-- Along a path whose statuses are reworded or not taken, the record stays the same. -/
lemma sameRecord_of_careful (hPath : (C.plainly key).Path s h t) (hTurn : InTurn (Careful k) h) :
    s.resource.SameRecord t.resource :=
  sameRecord_of_path (P := WriteFailed) (fun _ _ _ _ hStep => hStep.1) (fun _ _ _ hFailed hStep =>
    hStep.2 hFailed) hPath hTurn

/-- A status that was taken is stored. -/
lemma status_of_taken {stored : Resource k}
    (hStep : C.plainly key (.store (.updateStatus k w)) (.ok stored) u v) :
    v.resource.status = w.status := by
  obtain ⟨hAnswer, -⟩ := hStep
  cases hAnswer with
  | stated => rfl

/-- What a pass that fails has done to the status is seen in the site. -/
lemma Fallout.afterFailure (hFallout : Fallout k trace) (hPath : (C.plainly key).Path s trace t) :
    AfterFailure k trace s.resource t.resource := by
  cases hFallout with
  | careful hTurn => exact .kept (sameRecord_of_careful hPath hTurn)
  | @unread before reads r stored y e hReached hRecorded hReads hUnread =>
    rw [← List.append_assoc] at hPath
    obtain ⟨u, hEarlier, hStep⟩ := Surroundings.path_concat_iff.1 hPath
    have hOther := isStore_of_search hReads
    have hLast : LastWord (Returns r) (before ++ (reads ++ [y])) := hReached.last.append hOther
    have hSame : s.resource.SameRecord u.resource :=
      sameRecord_of_careful hEarlier (careful_append hReached.careful hOther)
    obtain rfl := resource_of_path (path_of_plainly hEarlier) hLast
    rw [hSame.remoteId] at hUnread
    refine .unread ?_ hUnread
      (hSame.cleared (Resource.cleared_forgetRemote hRecorded _ (status_of_taken hStep)))
    exact List.mem_append_right _ (List.mem_append_left _ List.mem_concat_self)
  | @deleted before first r stored w e hReached hRemoving hReleases =>
    have hOther : ∀ z ∈ first, z.call.isStore = false := hRemoving.isStore
    have hSplit : (before ++ (first ++
        [⟨.store (.updateStatus k (r.moveTo (.deleted k)).forgetRemote), .ok stored⟩,
          ⟨.store (.update k w), .error e⟩])) = before ++ first ++
        [⟨.store (.updateStatus k (r.moveTo (.deleted k)).forgetRemote), .ok stored⟩] ++
          [⟨.store (.update k w), .error e⟩] := by
      rw [List.append_assoc, List.append_assoc, List.singleton_append]
    rw [hSplit] at hPath
    obtain ⟨v, hMiddle, hRefused⟩ := Surroundings.path_concat_iff.1 hPath
    obtain ⟨u, hEarlier, hStep⟩ := Surroundings.path_concat_iff.1 hMiddle
    -- the finalizer could not be taken away, so that what was stored last is the cleared status
    obtain rfl : t = v := hRefused.2 (.update w e)
    have hLast : LastWord (Returns r) (before ++ first) := hReached.last.append hOther
    have hSame : s.resource.SameRecord u.resource :=
      sameRecord_of_careful hEarlier (careful_append hReached.careful hOther)
    obtain rfl := resource_of_path (path_of_plainly hEarlier) hLast
    by_cases hRecorded : u.resource.isRecorded
    · refine .deleted (List.append_assoc ..).symm ?_ hReleases
        (hSame.cleared (Resource.cleared_forgetRemote hRecorded _ (status_of_taken hStep)))
      rw [Resource.state_forgetRemote, Resource.state_moveTo]
      rfl
    · exact .kept
        (hSame.trans (Resource.sameRecord_forgetRemote hRecorded _ (status_of_taken hStep)))

end

/-! ## Telling a failure -/

/-- By these exchanges a step of a pass over a resource ends with an error. -/
inductive StepFails (key : Key) (r : Resource k) : Step → Error → List (Exchange Pass.interface) →
    Prop where
  | account (e : Error) : StepFails key r .account e [⟨.openAccount key.ns, .error e⟩]
  | resolveCreation {scope : Scope} {first : List (Exchange Pass.interface)} {e : Error}
      (hResolve : Pass.Traces (k.strategy.createRequest scope r.spec) first (.error e)) :
      StepFails key r .resolve e first
  | creation {scope : Scope} {request : k.CreateRequest} {first : List (Exchange Pass.interface)}
      {e : Error} (hCreate : Pass.Traces (k.strategy.create scope r.spec request) first
        (.error e)) :
      StepFails key r .create e first
  | resolveUpdate {scope : Scope} {first : List (Exchange Pass.interface)} {e : Error}
      (hResolve : Pass.Traces (k.strategy.updateRequest scope r.spec) first (.error e)) :
      StepFails key r .resolve e first
  | update {scope : Scope} {desired : k.UpdateRequest} {remote : k.Remote} {etag : Etag}
      {first : List (Exchange Pass.interface)} {e : Error}
      (hUpdate : Pass.Traces (k.strategy.update scope r.spec r.remoteId desired remote etag) first
        (.error e)) :
      StepFails key r .update e first
  | deletion {c : Call} {e : RemoteError} (hDeletes : c.deletes? = some (k.entity r.remoteId))
      (hKept : ¬e.isNotFound) :
      StepFails key r .delete (.remote ("delete " ++ k.noun) e) [⟨.directory c, .error e⟩]

/-- After some exchanges a pass writes that what the store has returned last has failed, and it ends
with an outcome. -/
inductive TellsFailure (settings : Settings) (key : Key) {k : Kind} :
    List (Exchange Pass.interface) → Resource k → Except Error (Resource k) → Outcome → Prop where
  /-- A step has failed, and the pass ends with the error of the step, whatever becomes of the
  write. -/
  | step {before first : List (Exchange Pass.interface)} {r : Resource k} {step : Step} {e : Error}
      (hLast : LastWord (Returns r) (before ++ first)) (hFails : StepFails key r step e first)
      (answer : Except Error (Resource k)) :
      TellsFailure settings key (before ++ first) (r.moveTo (.failure k step e)) answer (.failure e)
  /-- The entity could not be read, and it is forgotten; an error of the write comes before that of
  the read. -/
  | unread {before : List (Exchange Pass.interface)} {y : Exchange Pass.interface}
      {r : Resource k} {e : Error} (hLast : LastWord (Returns r) (before ++ [y]))
      (hUnread : FailedToRead (k.entity r.remoteId) e y)
      (answer : Except Error (Resource k)) :
      TellsFailure settings key (before ++ [y])
        (r.moveTo (.failure k .retrieve e)).forgetRemote answer
          (Lifecycle.outcomeOf (answer.map fun _ => ⟨some settings.syncPeriod, some e⟩))
  /-- The spec is broken, which is no error of the pass; only the write may fail it. -/
  | malformed {before : List (Exchange Pass.interface)} {r : Resource k} {e : Error}
      (hLast : LastWord (Returns r) before) (hBroken : r.validate = .error e)
      (answer : Except Error (Resource k)) :
      TellsFailure settings key before (r.moveTo (.malformed e)) answer
        (Lifecycle.outcomeOf (answer.map fun _ => .requeue settings.syncPeriod))

/-- An exchange writes that a resource has failed. -/
def RecordsFailure (k : Kind) (y : Exchange Pass.interface) : Prop :=
  ∃ (w : Resource k) (answer : Except Error (Resource k)),
    y = ⟨.store (.updateStatus k w), answer⟩ ∧ w.state = .failed

/-- No failure is written. -/
def Unfailing (k : Kind) (h : List (Exchange Pass.interface)) : Prop :=
  ∀ y ∈ h, ¬RecordsFailure k y

/-- A failure is written at the end of a pass, or never. -/
inductive Closes (settings : Settings) (k : Kind) (key : Key) : List (Exchange Pass.interface) →
    Outcome → Prop where
  | silent {h : List (Exchange Pass.interface)} (hUnfailing : Unfailing k h) (outcome : Outcome) :
      Closes settings k key h outcome
  | told {before : List (Exchange Pass.interface)} {w : Resource k}
      {answer : Except Error (Resource k)}
      {outcome : Outcome} (hUnfailing : Unfailing k before)
      (hTells : TellsFailure settings key before w answer outcome) :
      Closes settings k key (before ++ [⟨.store (.updateStatus k w), answer⟩]) outcome

/-! ### Parts that write no failure -/

/-- Two parts write no failure when neither does. -/
lemma unfailing_append_iff : Unfailing k (h ++ rest) ↔ Unfailing k h ∧ Unfailing k rest :=
  List.forall_mem_append

/-- Without exchanges no failure is written. -/
lemma unfailing_nil : Unfailing k [] :=
  List.forall_mem_nil _

/-- What writes no status writes no failure. -/
lemma unfailing_of_other (hOther : ∀ y ∈ h, y.call.writesStatus = false) : Unfailing k h := by
  intro y hMem hRecords
  obtain ⟨w, answer, rfl, -⟩ := hRecords
  exact Bool.noConfusion (hOther _ hMem)

/-- Calls of other parties than the store write no failure. -/
lemma unfailing_of_isStore (hOther : ∀ y ∈ h, y.call.isStore = false) : Unfailing k h := by
  intro y hMem hRecords
  obtain ⟨w, answer, rfl, -⟩ := hRecords
  exact Bool.noConfusion (hOther _ hMem)

/-- A status that says anything else is no failure. -/
lemma unfailing_updateStatus (hState : w.state ≠ .failed) (answer : Except Error (Resource k)) :
    Unfailing k [⟨.store (.updateStatus k w), answer⟩] := by
  refine List.forall_mem_singleton.2 fun hRecords => ?_
  obtain ⟨_, _, hSame, hFailed⟩ := hRecords
  cases hSame
  exact hState hFailed

/-- Greeting a resource writes no failure. -/
lemma unfailing_of_greet {x : Except Error (Resource k)}
    (hGreet : Pass.Traces (Lifecycle.greet r) rest x) : Unfailing k rest := by
  rcases Lifecycle.traces_greet_iff.1 hGreet with ⟨-, rfl⟩ | ⟨-, rfl, -⟩
  · exact unfailing_updateStatus State.noConfusion x
  · exact unfailing_nil

/-- Restoring a resource writes no failure. -/
lemma unfailing_of_restore {x : Except Error (Resource k)}
    (hRestore : Pass.Traces (Lifecycle.restore r) rest x) : Unfailing k rest := by
  rcases Lifecycle.traces_restore_iff.1 hRestore with ⟨-, rfl⟩ | ⟨-, rfl, -⟩
  · exact unfailing_of_other (List.forall_mem_singleton.2 rfl)
  · exact unfailing_nil

/-- Holding a resource writes no failure. -/
lemma unfailing_of_hold {x : Except Error (Resource k)}
    (hHold : Pass.Traces (Lifecycle.hold r) rest x) : Unfailing k rest := by
  rcases Lifecycle.traces_hold_iff.1 hHold with ⟨-, rfl, -⟩ | ⟨-, rfl⟩
  · exact unfailing_nil
  · exact unfailing_of_other (List.forall_mem_singleton.2 rfl)

/-- Letting a resource go writes no failure. -/
lemma unfailing_of_release {x : Except Error Outcome}
    (hRelease : Pass.Traces (Lifecycle.release r) rest x) : Unfailing k rest := by
  rcases Lifecycle.traces_release hRelease with ⟨-, answer, rfl, -⟩ | ⟨-, rfl, -⟩
  · exact unfailing_of_other (List.forall_mem_singleton.2 rfl)
  · exact unfailing_nil

/-- A pass that is prepared has written no failure. -/
lemma Lifecycle.Preparing.unfailing {session : Session} {held : Resource k}
    (hPrepared : Preparing key r rest session held) : Unfailing k rest := by
  obtain ⟨-, hRestore, hHold⟩ := hPrepared
  refine unfailing_append_iff.2 ⟨unfailing_of_restore hRestore, ?_⟩
  rw [← List.singleton_append]
  exact unfailing_append_iff.2 ⟨unfailing_of_other (List.forall_mem_singleton.2 rfl),
    unfailing_of_hold hHold⟩

/-! ### Courses -/

/-- A step that has failed closes the pass with its error. -/
lemma closes_of_telling {first : List (Exchange Pass.interface)} {step : Step} {e : Error}
    (hUnfailing : Unfailing k (h ++ first)) (hLast : LastWord (Returns r) (h ++ first))
    (hFails : StepFails key r step e first)
    (hTelling : Lifecycle.Telling r (.failure k step e) rest) :
    Closes settings k key (h ++ first ++ rest) (.failure e) := by
  cases hTelling with
  | known =>
    rw [List.append_nil]
    exact .silent hUnfailing _
  | told _ answer => exact .told hUnfailing (.step hLast hFails answer)

/-- Deletion tells its failure. -/
lemma Reached.closes_of_deleting (hR : Reached r h) (hUnfailing : Unfailing k h)
    {x : Except Error Outcome} (hDeleting : Lifecycle.Deleting r rest x) :
    Closes settings k key (h ++ rest) (Lifecycle.outcomeOf x) := by
  have hRemoved {first : List (Exchange Pass.interface)} (hRemoving : Lifecycle.Removing r first) :
      Unfailing k (h ++ first) :=
    unfailing_append_iff.2 ⟨hUnfailing, unfailing_of_isStore hRemoving.isStore⟩
  have hDeleted (answer : Except Error (Resource k)) :
      Unfailing k [⟨.store (.updateStatus k (r.moveTo (.deleted k)).forgetRemote), answer⟩] := by
    refine unfailing_updateStatus ?_ answer
    rw [Resource.state_forgetRemote, Resource.state_moveTo]
    exact State.noConfusion
  cases hDeleting with
  | @kept c e told _ hDeletes hKept hTold =>
    have hOther : ∀ y ∈ [(⟨.directory c, .error e⟩ : Exchange Pass.interface)],
        y.call.isStore = false :=
      List.forall_mem_singleton.2 rfl
    have hQuiet := unfailing_append_iff.2 ⟨hUnfailing, unfailing_of_isStore hOther⟩
    rw [← List.singleton_append, ← List.append_assoc]
    exact closes_of_telling hQuiet (hR.last.append hOther) (.deletion hDeletes hKept) hTold
  | unstated hRemoving =>
    rw [← List.append_assoc]
    exact .silent (unfailing_append_iff.2 ⟨hRemoved hRemoving, hDeleted _⟩) _
  | stated hRemoving hRelease =>
    rw [← List.append_assoc, ← List.singleton_append]
    refine .silent
      (unfailing_append_iff.2 ⟨hRemoved hRemoving, unfailing_append_iff.2 ⟨hDeleted _, ?_⟩⟩) _
    exact unfailing_of_release hRelease

/-- Synchronization tells its failure. -/
lemma Reached.closes_of_syncing (hR : Reached r h) (hUnfailing : Unfailing k h)
    {x : Except Error Outcome} (hSyncing : Lifecycle.Syncing settings scope r rest x) :
    Closes settings k key (h ++ rest) (Lifecycle.outcomeOf x) := by
  -- what is outside of the store tells no failure, and leaves the store with the last word
  have hQuiet {others : List (Exchange Pass.interface)}
      (hOther : ∀ y ∈ others, y.call.isStore = false) :
      Unfailing k (h ++ others) ∧ LastWord (Returns r) (h ++ others) :=
    ⟨unfailing_append_iff.2 ⟨hUnfailing, unfailing_of_isStore hOther⟩, hR.last.append hOther⟩
  cases hSyncing with
  | forgotten hFetch answer =>
    have hOther := isStore_of_fetch hFetch
    obtain ⟨reads, y, rfl, hUnread⟩ := Kind.failedToRead_of_traces hFetch
    obtain ⟨hSilent, hLast⟩ := hQuiet hOther
    rw [← List.append_assoc] at hSilent hLast
    rw [← List.append_assoc, ← List.append_assoc]
    exact .told hSilent (.unread hLast hUnread answer)
  | unresolved hFetch hResolve hTold =>
    obtain ⟨hRead, -⟩ := hQuiet (isStore_of_fetch hFetch)
    have hOther := isStore_of_updateRequest hResolve
    have hSilent := unfailing_append_iff.2 ⟨hRead, unfailing_of_isStore hOther⟩
    have hLast := (hR.last.append (isStore_of_fetch hFetch)).append hOther
    rw [← List.append_assoc, ← List.append_assoc]
    exact closes_of_telling hSilent hLast (.resolveUpdate hResolve) hTold
  | agreed hFetch hResolve =>
    have hOther := isStore_of_desired hFetch hResolve
    exact .silent (hQuiet hOther).1 _
  | synchronized hFetch hResolve _ _ answer =>
    have hOther := isStore_of_desired hFetch hResolve
    have hStated :=
      unfailing_updateStatus (w := r.moveTo (.synchronized k)) State.noConfusion answer
    rw [← List.append_assoc, ← List.append_assoc, List.append_assoc h]
    exact .silent (unfailing_append_iff.2 ⟨(hQuiet hOther).1, hStated⟩) _
  | unchanged hFetch hResolve _ hUpdate hTold =>
    have hOther := isStore_of_desired hFetch hResolve
    obtain ⟨hPrepared, hLast⟩ := hQuiet hOther
    have hSilent :=
      unfailing_append_iff.2 ⟨hPrepared, unfailing_of_isStore (isStore_of_update hUpdate)⟩
    have hCloses : Closes settings k key _ _ :=
      closes_of_telling hSilent (hLast.append (isStore_of_update hUpdate)) (.update hUpdate) hTold
    rw [List.append_assoc, List.append_assoc, List.append_assoc] at hCloses
    exact hCloses
  | @changed first second third found desired ref hFetch hResolve _ hUpdate answer =>
    have hOther := isStore_of_desired hFetch hResolve
    have hStated := unfailing_updateStatus (w := (r.recordApplied ref).moveTo (.updated k))
      State.noConfusion answer
    have hAsked := List.forall_mem_append.2 ⟨hOther, isStore_of_update hUpdate⟩
    have hSilent := unfailing_append_iff.2 ⟨(hQuiet hAsked).1, hStated⟩
    rw [List.append_assoc, List.append_assoc, List.append_assoc] at hSilent
    exact .silent hSilent _

/-- Creation tells its failure. -/
lemma Reached.closes_of_creating (hR : Reached r h) (hUnfailing : Unfailing k h)
    {x : Except Error Outcome} (hCreating : Lifecycle.Creating settings scope r rest x) :
    Closes settings k key (h ++ rest) (Lifecycle.outcomeOf x) := by
  have hResolved {first : List (Exchange Pass.interface)} {y : Except Error k.CreateRequest}
      (hResolve : Pass.Traces (k.strategy.createRequest scope r.spec) first y) :
      Unfailing k (h ++ first) ∧ LastWord (Returns r) (h ++ first) := by
    have hOther := isStore_of_createRequest hResolve
    exact ⟨unfailing_append_iff.2 ⟨hUnfailing, unfailing_of_isStore hOther⟩, hR.last.append hOther⟩
  have hStated (ref : RemoteRef) (answer : Except Error (Resource k)) :
      Unfailing k
        [⟨.store (.updateStatus k ((r.recordApplied ref).moveTo (.created k))), answer⟩] :=
    unfailing_updateStatus State.noConfusion answer
  cases hCreating with
  | unresolved hResolve hTold =>
    obtain ⟨hSilent, hLast⟩ := hResolved hResolve
    rw [← List.append_assoc]
    exact closes_of_telling hSilent hLast (.resolveCreation hResolve) hTold
  | uncreated hResolve hCreate hTold =>
    obtain ⟨hEarlier, hLast⟩ := hResolved hResolve
    have hSilent :=
      unfailing_append_iff.2 ⟨hEarlier, unfailing_of_isStore (isStore_of_create hCreate)⟩
    rw [← List.append_assoc, ← List.append_assoc]
    exact closes_of_telling hSilent (hLast.append (isStore_of_create hCreate))
      (.creation hCreate) hTold
  | recorded hResolve hCreate stored =>
    have hSilent := unfailing_append_iff.2 ⟨(hResolved hResolve).1, unfailing_of_isStore
      (isStore_of_create hCreate)⟩
    rw [← List.append_assoc, ← List.append_assoc]
    exact .silent (unfailing_append_iff.2 ⟨hSilent, hStated _ _⟩) _
  | @unrecorded first second request ref e c hResolve hCreate _ answer =>
    have hSilent := unfailing_append_iff.2 ⟨(hResolved hResolve).1, unfailing_of_isStore
      (isStore_of_create hCreate)⟩
    have hBack : Unfailing k [(⟨.directory c, answer⟩ : Exchange Pass.interface)] :=
      unfailing_of_isStore (List.forall_mem_singleton.2 rfl)
    rw [← List.append_assoc, ← List.append_assoc, ← List.singleton_append]
    exact .silent (unfailing_append_iff.2 ⟨hSilent, unfailing_append_iff.2 ⟨hStated ref _, hBack⟩⟩)
      _

/-- A pass over a resource that is not being deleted tells its failure. -/
lemma Reached.closes_of_living (hR : Reached r h) (hUnfailing : Unfailing k h)
    {x : Except Error Outcome} (hLiving : Lifecycle.Living settings key r rest x) :
    Closes settings k key (h ++ rest) (Lifecycle.outcomeOf x) := by
  cases hLiving with
  | refused hBroken hRefuse =>
    rcases Lifecycle.traces_refuse hRefuse with ⟨-, answer, rfl, rfl⟩ | ⟨-, rfl, -⟩
    · exact .told hUnfailing (.malformed hR.last hBroken answer)
    · exact .silent (unfailing_append_iff.2 ⟨hUnfailing, unfailing_nil⟩) _
  | unrestored _ hRestore =>
      exact .silent (unfailing_append_iff.2 ⟨hUnfailing, unfailing_of_restore hRestore⟩) _
  | @unopened first told restored e _ hRestore hTold =>
    have hRestored := (hR.restore hRestore).2 _ rfl
    have hAsked : Unfailing k [(⟨.openAccount key.ns, .error e⟩ : Exchange Pass.interface)] :=
      unfailing_of_isStore (List.forall_mem_singleton.2 rfl)
    have hEarlier := unfailing_append_iff.2 ⟨hUnfailing, unfailing_of_restore hRestore⟩
    have hSilent := unfailing_append_iff.2 ⟨hEarlier, hAsked⟩
    have hCloses : Closes settings k key _ _ :=
      closes_of_telling hSilent (hRestored.opened key.ns (.error e)).last (.account e) hTold
    rw [List.append_assoc, List.append_assoc, List.singleton_append] at hCloses
    exact hCloses
  | @unheld first holding restored session e _ hRestore hHold =>
    have hAsked : Unfailing k [(⟨.openAccount key.ns, .ok session⟩ : Exchange Pass.interface)] :=
      unfailing_of_isStore (List.forall_mem_singleton.2 rfl)
    have hLater := unfailing_append_iff.2 ⟨hAsked, unfailing_of_hold hHold⟩
    have hRest := unfailing_append_iff.2 ⟨unfailing_of_restore hRestore, hLater⟩
    exact .silent (unfailing_append_iff.2 ⟨hUnfailing, hRest⟩) _
  | synced hPrepared _ hSync =>
    have hSilent := unfailing_append_iff.2 ⟨hUnfailing, hPrepared.unfailing⟩
    rw [← List.append_assoc]
    exact (hR.prepared hPrepared).closes_of_syncing hSilent hSync
  | created hPrepared _ hCreate =>
    have hSilent := unfailing_append_iff.2 ⟨hUnfailing, hPrepared.unfailing⟩
    rw [← List.append_assoc]
    exact (hR.prepared hPrepared).closes_of_creating hSilent hCreate

/-- A pass over a resource that is being deleted tells its failure. -/
lemma Reached.closes_of_dying (hR : Reached r h) (hUnfailing : Unfailing k h)
    {x : Except Error Outcome} (hDying : Lifecycle.Dying key r rest x) :
    Closes settings k key (h ++ rest) (Lifecycle.outcomeOf x) := by
  have hOpened (answer : Except Error Session) :
      Unfailing k (h ++ [(⟨.openAccount key.ns, answer⟩ : Exchange Pass.interface)]) :=
    unfailing_append_iff.2 ⟨hUnfailing, unfailing_of_isStore (List.forall_mem_singleton.2 rfl)⟩
  cases hDying with
  | abandoned _ hRelease =>
      exact .silent (unfailing_append_iff.2 ⟨hUnfailing, unfailing_of_release hRelease⟩) _
  | unopened _ e hRelease =>
    rw [← List.singleton_append, ← List.append_assoc]
    exact .silent (unfailing_append_iff.2 ⟨hOpened (.error e), unfailing_of_release hRelease⟩) _
  | opened _ session hDelete =>
    rw [← List.singleton_append, ← List.append_assoc]
    exact (hR.opened key.ns (.ok session)).closes_of_deleting (hOpened (.ok session)) hDelete

/-- A pass tells its failure. -/
lemma closes_of_passing {x : Except Error Outcome}
    (hPassing : Lifecycle.Passing settings k key h x) :
    Closes settings k key h (Lifecycle.outcomeOf x) := by
  have hRead (answer : Except Error (Option (Resource k))) :
      Unfailing k [⟨.store (.get k key), answer⟩] :=
    unfailing_of_other (List.forall_mem_singleton.2 rfl)
  have hGreeted {r : Resource k} {first : List (Exchange Pass.interface)}
      {y : Except Error (Resource k)} (hGreet : Pass.Traces (Lifecycle.greet r) first y) :
      Unfailing k ([⟨.store (.get k key), .ok (some r)⟩] ++ first) :=
    unfailing_append_iff.2 ⟨hRead _, unfailing_of_greet hGreet⟩
  cases hPassing with
  | unread => exact .silent (hRead _) _
  | absent => exact .silent (hRead _) _
  | lost => exact .silent (hRead _) _
  | ungreeted _ hGreet => exact .silent (hGreeted hGreet) _
  | dying _ _ hGreet hDying =>
    have hReached := ((reached_get key _).greet hGreet).2 _ rfl
    exact hReached.closes_of_dying (hGreeted hGreet) hDying
  | living _ hGreet hRest =>
    have hReached := ((reached_get key _).greet hGreet).2 _ rfl
    exact hReached.closes_of_living (hGreeted hGreet) hRest

/-- A write of a failure is the last call of a pass that closes so, and it tells the failure. -/
lemma Closes.tells (hCloses : Closes settings k key trace outcome)
    {before after : List (Exchange Pass.interface)} {answer : Except Error (Resource k)}
    (hSplit : trace = before ++ ⟨.store (.updateStatus k w), answer⟩ :: after)
    (hFailed : w.state = .failed) :
    after = [] ∧ TellsFailure settings key before w answer outcome := by
  have hRecords : RecordsFailure k ⟨.store (.updateStatus k w), answer⟩ := ⟨w, answer, rfl, hFailed⟩
  cases hCloses with
  | silent hUnfailing =>
    rw [hSplit] at hUnfailing
    exact absurd hRecords (hUnfailing _ (List.mem_append_right _ List.mem_cons_self))
  | told hUnfailing hTells =>
    have hSole := unfailing_append_iff.2 ⟨hUnfailing, unfailing_nil⟩
    obtain ⟨rfl, hHere, rfl⟩ := split_eq_of_sole hSplit hSole hRecords
    cases hHere
    exact ⟨rfl, hTells⟩

/-! ## The pass -/

/-- What a failure of a pass does, whatever was answered.  If the pass ends with an error, then
every status that the store has taken moves the condition alone, except for the two cases in which
the entity is forgotten; and in every site, in whatever circumstances, as far as writes that fail
have no effect, the stored record is the one before, except for these cases.  A write that says that
the resource has failed is the last call, and the pass ends with the error that it tells even if the
write fails, except after a failed read of the entity and where the spec is broken. -/
theorem failure_of_run (hRun : (reconcile settings k key).Runs (.free _) () trace outcome ()) :
    (outcome.error ≠ none →
      Fallout k trace ∧
        ∀ (δ : Type) (C : Circumstances k δ) (s t : Site k δ), (C.plainly key).Path s trace t →
          AfterFailure k trace s.resource t.resource) ∧
      ∀ before (w : Resource k) answer after,
        trace = before ++ ⟨.store (.updateStatus k w), answer⟩ :: after → w.state = .failed →
          after = [] ∧ TellsFailure settings key before w answer outcome := by
  obtain ⟨x, hPassing, rfl⟩ := Lifecycle.passing_of_reconcile hRun
  refine ⟨fun hError => ?_, fun before w answer after hSplit =>
    (closes_of_passing hPassing).tells hSplit⟩
  have hFallout := fallout_of_passing hPassing hError
  exact ⟨hFallout, fun δ C s t => hFallout.afterFailure⟩

/-! ## A role without an account -/

namespace Failures

/-- The accounts cannot be reached. -/
def accountsDown : Error := .remote "get account" Reader.timeout

/-- The role with the status that says so. -/
def unaccountedRole : Resource .customRole :=
  Reader.recorded.moveTo (.failure .customRole .account accountsDown)

/-- The calls of a pass that opens no account, and whose status the store does not take. -/
def unaccountedTrace : List (Exchange Pass.interface) :=
  [ ⟨.store (.get .customRole ⟨"team", "reader"⟩), .ok (some Reader.recorded)⟩,
    ⟨.openAccount "team", .error accountsDown⟩,
    ⟨.store (.updateStatus .customRole unaccountedRole), .error Auditors.storeDown⟩ ]

/-- The pass ends with the first of the two errors. -/
lemma runs_unaccounted :
    (reconcile {} .customRole ⟨"team", "reader"⟩).Runs (.free _) () unaccountedTrace
      (.failure accountsDown) () :=
  .answered _ <| .answered _ <| .answered _ <| .done _ _

/-- Circumstances in which the store and the accounts may fail. -/
def adversity : Circumstances .customRole Unit where
  storeMayFail := True
  opens _ _ := True
  refers _ _ := True
  serves _ _ _ _ := False

/-- The site of the role. -/
def recordedSite : Site .customRole Unit := ⟨Reader.recorded, true, ()⟩

/-- The site stays as it is. -/
lemma path_unaccounted :
    (adversity.plainly ⟨"team", "reader"⟩).Path recordedSite unaccountedTrace recordedSite :=
  .cons (t := recordedSite) ⟨Site.StoreAnswers.found (s := recordedSite) rfl, fun _ => rfl⟩ <|
    .cons (t := recordedSite) ⟨⟨rfl, trivial⟩, fun _ => rfl⟩ <|
    .cons (t := recordedSite) ⟨Site.StoreAnswers.statementRefused (s := recordedSite) _ _ fun _ =>
      trivial, fun _ => rfl⟩ <|
    .nil recordedSite

end Failures

/-- The pass without an account keeps the record and ends with the error that it could not tell. -/
theorem failure_of_unaccounted :
    AfterFailure .customRole Failures.unaccountedTrace Reader.recorded Reader.recorded ∧
      TellsFailure {} ⟨"team", "reader"⟩ (Failures.unaccountedTrace.take 2)
        Failures.unaccountedRole (.error Auditors.storeDown) (.failure Failures.accountsDown) := by
  obtain ⟨hRecord, hTells⟩ := failure_of_run Failures.runs_unaccounted
  obtain ⟨-, hAfter⟩ := hRecord (Option.some_ne_none _)
  exact ⟨hAfter Unit _ _ _ Failures.path_unaccounted,
    (hTells (Failures.unaccountedTrace.take 2) _ _ [] rfl rfl).2⟩

end IamReconciler
