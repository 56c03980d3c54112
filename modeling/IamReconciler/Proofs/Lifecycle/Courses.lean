import IamReconciler.Proofs.Strategy.Courses

/-!
# Courses of a pass

The courses that the steps of a pass take: their exchanges in order, with their results.  Each step
has one type of courses, whose constructors are the ways in which it may end, and one lemma which
says that all its traces are among them.  A course names the traces of the strategy that it is made
of, so that what is known of these carries over.

A pass over a resource that is not being deleted is prepared first: what cannot change is restored,
the account is opened, and the finalizer is held (`Preparing`).  Then the entity is synchronized or
created.
-/

namespace IamReconciler

namespace Lifecycle

open Directory (Call)

variable {α : Type} {k : Kind} {settings : Settings} {key : Key} {scope : Scope} {r : Resource k}
  {h : List (Exchange Pass.interface)}

/-! ## Writes -/

/-- A condition is written unless the resource is in it already. -/
inductive Telling (r : Resource k) (c : Condition) : List (Exchange Pass.interface) → Prop where
  | known (hIn : r.isIn c) : Telling r c []
  | told (hNew : ¬r.isIn c) (answer : Except Error (Resource k)) :
      Telling r c [⟨.store (.updateStatus k (r.moveTo c)), answer⟩]

/-- A failed step tells its condition and ends with its error. -/
lemma telling_of_traces {step : Step} {e : Error} {x : Except Error α}
    (hTrace : Pass.Traces (fail r step e) h x) :
    Telling r (.failure k step e) h ∧ x = .error e := by
  unfold fail at hTrace
  rcases Pass.traces_ite_iff.1 hTrace with ⟨hNew, hRest⟩ | ⟨hIn, hThrow⟩
  · obtain ⟨write, answer, rest, hWrite, hThrow, rfl⟩ := Pass.traces_attempt_bind_iff.1 hRest
    obtain rfl := Pass.traces_updateStatus_iff.1 hWrite
    obtain ⟨rfl, rfl⟩ := Pass.traces_throw_iff.1 hThrow
    exact ⟨.told (by simpa using hNew) answer, rfl⟩
  · obtain ⟨rfl, rfl⟩ := Pass.traces_throw_iff.1 hThrow
    exact ⟨.known (by simpa using hIn), rfl⟩

/-- A part whose error fails a step has a value, or its error is told. -/
lemma traces_orFail {step : Step} {part : Pass α} {x : Except Error α}
    (hTrace : Pass.Traces (orFail r step part) h x) :
    (∃ a, Pass.Traces part h (.ok a) ∧ x = .ok a) ∨
      ∃ first e rest, Pass.Traces part first (.error e) ∧ Telling r (.failure k step e) rest ∧
      x = .error e ∧
        h = first ++ rest := by
  obtain ⟨first, y, rest, hFirst, hRest, rfl⟩ := Pass.traces_attempt_bind_iff.1 hTrace
  cases y with
  | ok a =>
    obtain ⟨rfl, rfl⟩ := Pass.traces_pure_iff.1 hRest
    rw [List.append_nil]
    exact .inl ⟨a, hFirst, rfl⟩
  | error e =>
    obtain ⟨hTold, rfl⟩ := telling_of_traces hRest
    exact .inr ⟨first, e, rest, hFirst, hTold, rfl, rfl⟩

/-- What follows a part whose error fails a step goes on with its value, or the error is told. -/
lemma traces_orFail_bind {β : Type} {step : Step} {part : Pass β} {f : β → Pass α}
    {x : Except Error α} (hTrace : Pass.Traces (orFail r step part >>= f) h x) :
    (∃ first e rest, Pass.Traces part first (.error e) ∧ Telling r (.failure k step e) rest ∧
      x = .error e ∧
        h = first ++ rest) ∨
      ∃ first a rest, Pass.Traces part first (.ok a) ∧ Pass.Traces (f a) rest x ∧
      h = first ++ rest := by
  rcases Pass.traces_bind_iff.1 hTrace with ⟨e, hPart, rfl⟩ | ⟨first, a, rest, hPart, hRest, rfl⟩
  · rcases traces_orFail hPart with ⟨a, -, hValue⟩ | ⟨first, e', rest, hPart, hTold, hError, rfl⟩
    · cases hValue
    · cases hError
      exact .inl ⟨first, e, rest, hPart, hTold, rfl, rfl⟩
  · rcases traces_orFail hPart with ⟨a', hPart, hValue⟩ | ⟨_, _, _, -, -, hError, -⟩
    · cases hValue
      exact .inr ⟨first, a, rest, hPart, hRest, rfl⟩
    · cases hError

/-- A part that ends with a write of the status ends with the error of the write, or with its own
value. -/
lemma traces_conclusion {w : Resource k} {a : α} {x : Except Error α}
    (hTrace : Pass.Traces (do
      let _ ← Pass.updateStatus w
      pure a) h x) :
    ∃ answer, h = [⟨.store (.updateStatus k w), answer⟩] ∧ x = answer.map fun _ => a := by
  rcases Pass.traces_bind_iff.1 hTrace with ⟨e, hWrite, rfl⟩ | ⟨first, stored, rest,
    hWrite, hRest, rfl⟩
  · exact ⟨.error e, Pass.traces_updateStatus_iff.1 hWrite, rfl⟩
  · obtain rfl := Pass.traces_updateStatus_iff.1 hWrite
    obtain ⟨rfl, rfl⟩ := Pass.traces_pure_iff.1 hRest
    exact ⟨.ok stored, rfl, rfl⟩

/-- A resource that no pass has seen is written as pending. -/
lemma traces_greet_iff {x : Except Error (Resource k)} :
    Pass.Traces (greet r) h x ↔
      r.isUnset ∧ h = [⟨.store (.updateStatus k (r.moveTo .processing)), x⟩] ∨ ¬r.isUnset ∧
      h = [] ∧ x = .ok r := by
  unfold greet
  rw [Pass.traces_ite_iff, Pass.traces_updateStatus_iff, Pass.traces_pure_iff]

/-- A resource without the finalizer is given it. -/
lemma traces_hold_iff {x : Except Error (Resource k)} :
    Pass.Traces (hold r) h x ↔
      r.metadata.finalizerSet.has k.finalizer ∧ h = [] ∧ x = .ok r ∨
        ¬r.metadata.finalizerSet.has k.finalizer ∧
          h = [⟨.store (.update k (r.withFinalizers (r.metadata.finalizerSet.add k.finalizer))),
            x⟩] := by
  unfold hold
  dsimp only
  rw [Pass.traces_ite_iff, Pass.traces_update_iff, Pass.traces_pure_iff]

/-- What cannot change is set back. -/
lemma traces_restore_iff {x : Except Error (Resource k)} :
    Pass.Traces (restore r) h x ↔
      r.immutableDrifted ∧ h = [⟨.store (.update k r.restoreImmutable), x⟩] ∨
        ¬r.immutableDrifted ∧ h = [] ∧ x = .ok r := by
  unfold restore
  rw [Pass.traces_ite_iff, Pass.traces_update_iff, Pass.traces_pure_iff]

/-- A malformed resource is written as failed unless it has failed already. -/
lemma traces_refuse {e : Error} {x : Except Error Outcome}
    (hTrace : Pass.Traces (refuse settings r e) h x) :
    r.state ≠ .failed ∧
    (∃ answer, h = [⟨.store (.updateStatus k (r.moveTo (.malformed e))), answer⟩] ∧
        x = answer.map fun _ => .requeue settings.syncPeriod) ∨
      r.state = .failed ∧ h = [] ∧ x = .ok (.requeue settings.syncPeriod) := by
  unfold refuse at hTrace
  rcases Pass.traces_ite_iff.1 hTrace with ⟨hNew, hWrite⟩ | ⟨hOld, hPure⟩
  · exact .inl ⟨hNew, traces_conclusion hWrite⟩
  · exact .inr ⟨Decidable.not_not.1 hOld, Pass.traces_pure_iff.1 hPure⟩

/-- A resource is let go by a write without the finalizer, if it has one. -/
lemma traces_release {x : Except Error Outcome} (hTrace : Pass.Traces (release r) h x) :
    r.metadata.finalizerSet.has k.finalizer ∧
        (∃ answer,
          h = [⟨.store (.update k (r.withFinalizers (r.metadata.finalizerSet.erase k.finalizer))),
            answer⟩] ∧ x = answer.map fun _ => .finished) ∨
      ¬r.metadata.finalizerSet.has k.finalizer ∧ h = [] ∧ x = .ok .finished := by
  unfold release at hTrace
  rcases Pass.traces_ite_iff.1 hTrace with ⟨hHas, hWrite⟩ | ⟨hLacks, hPure⟩
  · refine .inl ⟨hHas, ?_⟩
    rcases Pass.traces_bind_iff.1 hWrite with ⟨e, hUpdate, rfl⟩ | ⟨first, stored, rest,
      hUpdate, hRest, rfl⟩
    · exact ⟨.error e, Pass.traces_update_iff.1 hUpdate, rfl⟩
    · obtain rfl := Pass.traces_update_iff.1 hUpdate
      obtain ⟨rfl, rfl⟩ := Pass.traces_pure_iff.1 hRest
      exact ⟨.ok stored, rfl, rfl⟩
  · exact .inr ⟨hLacks, Pass.traces_pure_iff.1 hPure⟩

/-! ## Deletion -/

/-- The recorded entity is gone: none is recorded, or the service has deleted it or does not know
it. -/
inductive Removing (r : Resource k) : List (Exchange Pass.interface) → Prop where
  | unrecorded (hNone : ¬r.isRecorded) : Removing r []
  | removed {c : Call} {answer : c.Answer} (hRecorded : r.isRecorded)
      (hDeletes : c.deletes? = some (k.entity r.remoteId))
      (hGone : (Directory.failure? answer).all (·.isNotFound)) : Removing r [⟨.directory c, answer⟩]

/-- The courses of deletion. -/
inductive Deleting (r : Resource k) : List (Exchange Pass.interface) →
    Except Error Outcome → Prop where
  | kept {c : Call} {e : RemoteError} {rest : List (Exchange Pass.interface)}
      (hRecorded : r.isRecorded) (hDeletes : c.deletes? = some (k.entity r.remoteId))
      (hKept : ¬e.isNotFound)
      (hTold : Telling r (.failure k .delete (.remote ("delete " ++ k.noun) e)) rest) :
      Deleting r (⟨.directory c, .error e⟩ :: rest) (.error (.remote ("delete " ++ k.noun) e))
  | unstated {first : List (Exchange Pass.interface)} {e : Error} (hRemoving : Removing r first) :
      Deleting r
        (first ++ [⟨.store (.updateStatus k (r.moveTo (.deleted k)).forgetRemote), .error e⟩])
      (.error e)
  | stated {first rest : List (Exchange Pass.interface)} {stored : Resource k}
      {x : Except Error Outcome} (hRemoving : Removing r first)
      (hRelease : Pass.Traces (release stored) rest x) :
      Deleting r (first ++ ⟨.store (.updateStatus k (r.moveTo (.deleted k)).forgetRemote),
        .ok stored⟩ :: rest) x

/-- Deletion of the recorded entity succeeds, or it fails the pass. -/
lemma traces_deleteRemote (hRecorded : r.isRecorded) {x : Except Error Unit}
    (hTrace : Pass.Traces (deleteRemote r) h x) :
    Removing r h ∧ x = .ok () ∨
      ∃ (c : Call) (e : RemoteError) (rest : List (Exchange Pass.interface)),
        c.deletes? = some (k.entity r.remoteId) ∧ ¬e.isNotFound ∧
          Telling r (.failure k .delete (.remote ("delete " ++ k.noun) e)) rest ∧
          h = ⟨.directory c, .error e⟩ :: rest ∧ x = .error (.remote ("delete " ++ k.noun) e) := by
  obtain ⟨first, result, rest, hDelete, hRest, rfl⟩ := Pass.traces_lift_bind_iff.1 hTrace
  obtain ⟨c, answer, rfl, hDeletes, hFailure⟩ := Kind.deletes_of_traces hDelete
  have hEnds (hGone : (Directory.failure? result).all (·.isNotFound))
      (hRest : Pass.Traces (pure () : Pass Unit) rest x) :
      Removing r ([⟨.directory c, answer⟩] ++ rest) ∧ x = .ok () := by
    obtain ⟨rfl, rfl⟩ := Pass.traces_pure_iff.1 hRest
    rw [← hFailure] at hGone
    exact ⟨.removed hRecorded hDeletes hGone, rfl⟩
  cases result with
  | ok => exact .inl (hEnds rfl hRest)
  | error e =>
    rcases Pass.traces_ite_iff.1 hRest with ⟨hGone, hRest⟩ | ⟨hKept, hRest⟩
    · exact .inl (hEnds hGone hRest)
    · obtain ⟨hTold, rfl⟩ := telling_of_traces hRest
      cases answer with
      | ok => cases hFailure
      | error =>
        cases hFailure
        exact .inr ⟨c, e, rest, hDeletes, hKept, hTold, rfl, rfl⟩

/-- Deletion takes one of its courses. -/
lemma deleting_of_traces {x : Except Error Outcome} (hTrace : Pass.Traces (delete r) h x) :
    Deleting r h x := by
  have hState {first rest : List (Exchange Pass.interface)} (hRemoving : Removing r first)
      (hRest : Pass.Traces (do
        let stored ← Pass.updateStatus (r.moveTo (.deleted k)).forgetRemote
        release stored) rest x) : Deleting r (first ++ rest) x := by
    rcases Pass.traces_bind_iff.1 hRest with ⟨e, hWrite, rfl⟩ | ⟨write, stored, last,
      hWrite, hLast, rfl⟩
    · obtain rfl := Pass.traces_updateStatus_iff.1 hWrite
      exact .unstated hRemoving
    · obtain rfl := Pass.traces_updateStatus_iff.1 hWrite
      exact .stated hRemoving hLast
  unfold delete at hTrace
  rcases Pass.traces_ite_iff.1 hTrace with ⟨hRecorded, hTrace⟩ | ⟨hNone, hTrace⟩
  · rcases Pass.traces_bind_iff.1 hTrace with ⟨e, hRemote, rfl⟩ | ⟨first, _, rest,
      hRemote, hRest, rfl⟩
    · rcases traces_deleteRemote hRecorded hRemote with ⟨-, hError⟩ | ⟨c, e', rest, hDeletes, hKept,
        hTold, rfl, hError⟩
      · cases hError
      · cases hError
        exact .kept hRecorded hDeletes hKept hTold
    · rcases traces_deleteRemote hRecorded hRemote with ⟨hRemoving, -⟩ | ⟨_, _, _, -,
        -, -, -, hError⟩
      · exact hState hRemoving hRest
      · cases hError
  · exact hState (.unrecorded hNone) hTrace

/-! ## Creation -/

/-- The courses of creating the remote entity of a resource. -/
inductive Creating (settings : Settings) (scope : Scope) (r : Resource k) :
    List (Exchange Pass.interface) → Except Error Outcome → Prop where
  | unresolved {first rest : List (Exchange Pass.interface)} {e : Error}
      (hResolve : Pass.Traces (k.strategy.createRequest scope r.spec) first (.error e))
      (hTold : Telling r (.failure k .resolve e) rest) :
      Creating settings scope r (first ++ rest) (.error e)
  | uncreated {first second rest : List (Exchange Pass.interface)}
      {request : k.CreateRequest} {e : Error}
      (hResolve : Pass.Traces (k.strategy.createRequest scope r.spec) first (.ok request))
      (hCreate : Pass.Traces (k.strategy.create scope r.spec request) second (.error e))
      (hTold : Telling r (.failure k .create e) rest) :
      Creating settings scope r (first ++ (second ++ rest)) (.error e)
  | recorded {first second : List (Exchange Pass.interface)} {request : k.CreateRequest}
      {ref : RemoteRef} (hResolve : Pass.Traces (k.strategy.createRequest scope r.spec) first
        (.ok request))
      (hCreate : Pass.Traces (k.strategy.create scope r.spec request) second (.ok ref))
      (stored : Resource k) :
      Creating settings scope r
        (first ++
          (second ++
            [⟨.store (.updateStatus k ((r.recordApplied ref).moveTo (.created k))), .ok stored⟩]))
        (.ok (.requeue settings.syncPeriod))
  | unrecorded {first second : List (Exchange Pass.interface)} {request : k.CreateRequest}
      {ref : RemoteRef}
      {e : Error} {c : Call} (hResolve : Pass.Traces (k.strategy.createRequest scope r.spec) first
        (.ok request))
      (hCreate : Pass.Traces (k.strategy.create scope r.spec request) second (.ok ref))
      (hDeletes : c.deletes? = some (k.entity ref.id)) (answer : c.Answer) :
      Creating settings scope r
        (first ++
          (second ++ [⟨.store (.updateStatus k ((r.recordApplied ref).moveTo (.created k))),
            .error e⟩, ⟨.directory c, answer⟩]))
        (.error e)

/-- Creating the remote entity takes one of its courses. -/
lemma creating_of_traces {x : Except Error Outcome}
    (hTrace : Pass.Traces (create settings scope r) h x) : Creating settings scope r h x := by
  rcases traces_orFail_bind hTrace with
    ⟨first, e, rest, hResolve, hTold, rfl, rfl⟩ | ⟨first, request, rest, hResolve, hRest, rfl⟩
  · exact .unresolved hResolve hTold
  rcases traces_orFail_bind hRest with
    ⟨second, e, last, hCreate, hTold, rfl, rfl⟩ | ⟨second, ref, last, hCreate, hLast, rfl⟩
  · exact .uncreated hResolve hCreate hTold
  rcases Pass.traces_bind_iff.1 hLast with ⟨e, hRecord, rfl⟩ | ⟨record, _, ending,
    hRecord, hEnd, rfl⟩
  · obtain ⟨write, answer, back, hWrite, hBack, rfl⟩ := Pass.traces_attempt_bind_iff.1 hRecord
    obtain rfl := Pass.traces_updateStatus_iff.1 hWrite
    cases answer with
    | ok =>
      obtain ⟨-, hError⟩ := Pass.traces_pure_iff.1 hBack
      cases hError
    | error =>
      obtain ⟨deletion, result, ending, hDelete, hThrow, rfl⟩ := Pass.traces_lift_bind_iff.1 hBack
      obtain ⟨c, answer, rfl, hDeletes, -⟩ := Kind.deletes_of_traces hDelete
      obtain ⟨rfl, hError⟩ := Pass.traces_throw_iff.1 hThrow
      cases hError
      exact .unrecorded hResolve hCreate hDeletes answer
  · obtain ⟨rfl, rfl⟩ := Pass.traces_pure_iff.1 hEnd
    obtain ⟨write, answer, back, hWrite, hBack, rfl⟩ := Pass.traces_attempt_bind_iff.1 hRecord
    obtain rfl := Pass.traces_updateStatus_iff.1 hWrite
    cases answer with
    | ok stored =>
      obtain ⟨rfl, -⟩ := Pass.traces_pure_iff.1 hBack
      exact .recorded hResolve hCreate stored
    | error =>
      obtain ⟨deletion, result, ending, hDelete, hThrow, rfl⟩ := Pass.traces_lift_bind_iff.1 hBack
      obtain ⟨-, hError⟩ := Pass.traces_throw_iff.1 hThrow
      cases hError

/-! ## Synchronization -/

/-- The courses of bringing the recorded entity in step. -/
inductive Syncing (settings : Settings) (scope : Scope) (r : Resource k) :
    List (Exchange Pass.interface) → Except Error Outcome → Prop where
  | forgotten {first : List (Exchange Pass.interface)} {e : Error}
      (hFetch : Pass.Traces (k.strategy.fetch r.remoteId) first (.error e))
      (answer : Except Error (Resource k)) :
      Syncing settings scope r
        (first ++
          [⟨.store (.updateStatus k (r.moveTo (.failure k .retrieve e)).forgetRemote), answer⟩])
        (answer.map fun _ => ⟨some settings.syncPeriod, some e⟩)
  | unresolved {first second rest : List (Exchange Pass.interface)}
      {found : k.Remote × Etag} {e : Error}
      (hFetch : Pass.Traces (k.strategy.fetch r.remoteId) first (.ok found))
      (hResolve : Pass.Traces (k.strategy.updateRequest scope r.spec) second (.error e))
      (hTold : Telling r (.failure k .resolve e) rest) :
      Syncing settings scope r (first ++ (second ++ rest)) (.error e)
  | agreed {first second : List (Exchange Pass.interface)} {found : k.Remote × Etag}
      {desired : k.UpdateRequest}
      (hFetch : Pass.Traces (k.strategy.fetch r.remoteId) first (.ok found))
      (hResolve : Pass.Traces (k.strategy.updateRequest scope r.spec) second (.ok desired))
      (hAgrees : ¬needsUpdate r desired found.1) (hOnline : r.state = .online) :
      Syncing settings scope r (first ++ second) (.ok (.requeue settings.syncPeriod))
  | synchronized {first second : List (Exchange Pass.interface)} {found : k.Remote × Etag}
      {desired : k.UpdateRequest}
      (hFetch : Pass.Traces (k.strategy.fetch r.remoteId) first (.ok found))
      (hResolve : Pass.Traces (k.strategy.updateRequest scope r.spec) second (.ok desired))
      (hAgrees : ¬needsUpdate r desired found.1) (hOffline : r.state ≠ .online)
      (answer : Except Error (Resource k)) :
      Syncing settings scope r
        (first ++ (second ++ [⟨.store (.updateStatus k (r.moveTo (.synchronized k))), answer⟩]))
        (answer.map fun _ => .requeue settings.syncPeriod)
  | unchanged {first second third rest : List (Exchange Pass.interface)} {found : k.Remote × Etag}
      {desired : k.UpdateRequest} {e : Error}
      (hFetch : Pass.Traces (k.strategy.fetch r.remoteId) first (.ok found))
      (hResolve : Pass.Traces (k.strategy.updateRequest scope r.spec) second (.ok desired))
      (hNeeds : needsUpdate r desired found.1)
      (hUpdate : Pass.Traces (k.strategy.update scope r.spec r.remoteId desired found.1 found.2)
        third (.error e))
      (hTold : Telling r (.failure k .update e) rest) :
      Syncing settings scope r (first ++ (second ++ (third ++ rest))) (.error e)
  | changed {first second third : List (Exchange Pass.interface)} {found : k.Remote × Etag}
      {desired : k.UpdateRequest} {ref : RemoteRef}
      (hFetch : Pass.Traces (k.strategy.fetch r.remoteId) first (.ok found))
      (hResolve : Pass.Traces (k.strategy.updateRequest scope r.spec) second (.ok desired))
      (hNeeds : needsUpdate r desired found.1)
      (hUpdate : Pass.Traces (k.strategy.update scope r.spec r.remoteId desired found.1 found.2)
        third (.ok ref))
      (answer : Except Error (Resource k)) :
      Syncing settings scope r
        (first ++ (second ++ (third ++
          [⟨.store (.updateStatus k ((r.recordApplied ref).moveTo (.updated k))), answer⟩])))
        (answer.map fun _ => .requeue settings.syncPeriod)

/-- A change of the entity fails, or it is followed by a record of the spec. -/
lemma traces_change {desired : k.UpdateRequest} {remote : k.Remote} {etag : Etag}
    {x : Except Error Unit} (hTrace : Pass.Traces (update scope r desired remote etag) h x) :
    (∃ first e rest,
        Pass.Traces (k.strategy.update scope r.spec r.remoteId desired remote etag) first
          (.error e) ∧
        Telling r (.failure k .update e) rest ∧ x = .error e ∧ h = first ++ rest) ∨
      ∃ first ref answer,
        Pass.Traces (k.strategy.update scope r.spec r.remoteId desired remote etag) first
          (.ok ref) ∧
        h = first ++
          [⟨.store (.updateStatus k ((r.recordApplied ref).moveTo (.updated k))), answer⟩] ∧
        x = answer.map fun _ => () := by
  refine (traces_orFail_bind hTrace).imp_right ?_
  rintro ⟨first, ref, rest, hUpdate, hRest, rfl⟩
  obtain ⟨answer, rfl, rfl⟩ := traces_conclusion hRest
  exact ⟨first, ref, answer, hUpdate, rfl, rfl⟩

/-- Bringing the recorded entity in step takes one of its courses. -/
lemma syncing_of_traces {x : Except Error Outcome}
    (hTrace : Pass.Traces (sync settings scope r) h x) : Syncing settings scope r h x := by
  obtain ⟨first, found, rest, hFetch, hRest, rfl⟩ := Pass.traces_attempt_bind_iff.1 hTrace
  cases found with
  | error e =>
    obtain ⟨answer, rfl, rfl⟩ := traces_conclusion hRest
    exact .forgotten hFetch answer
  | ok found =>
    rcases traces_orFail_bind hRest with
      ⟨second, e, last, hResolve, hTold, rfl, rfl⟩ | ⟨second, desired, last, hResolve, hLast, rfl⟩
    · exact .unresolved hFetch hResolve hTold
    rcases Pass.traces_ite_iff.1 hLast with ⟨hNeeds, hChanged⟩ | ⟨hAgrees, hLeft⟩
    · rcases Pass.traces_bind_iff.1 hChanged with ⟨e, hChange, rfl⟩ | ⟨change, _, ending,
        hChange, hEnd, rfl⟩
      · rcases traces_change hChange with
          ⟨third, e', told, hUpdate, hTold, hError, rfl⟩ | ⟨third, ref, answer,
            hUpdate, rfl, hError⟩
        · cases hError
          exact .unchanged hFetch hResolve hNeeds hUpdate hTold
        · cases answer with
          | ok => cases hError
          | error =>
            cases hError
            exact .changed hFetch hResolve hNeeds hUpdate (.error e)
      · obtain ⟨rfl, rfl⟩ := Pass.traces_pure_iff.1 hEnd
        rcases traces_change hChange with ⟨_, _, _, -, -, hError, -⟩ | ⟨third, ref, answer,
          hUpdate, rfl, hValue⟩
        · cases hError
        · cases answer with
          | ok stored =>
            rw [List.append_nil]
            exact .changed hFetch hResolve hNeeds hUpdate (.ok stored)
          | error => cases hValue
    · rcases Pass.traces_ite_iff.1 hLeft with ⟨hOffline, hWrite⟩ | ⟨hOnline, hPure⟩
      · obtain ⟨answer, rfl, rfl⟩ := traces_conclusion hWrite
        exact .synchronized hFetch hResolve hAgrees hOffline answer
      · obtain ⟨rfl, rfl⟩ := Pass.traces_pure_iff.1 hPure
        rw [List.append_nil]
        exact .agreed hFetch hResolve hAgrees (Decidable.not_not.1 hOnline)

/-! ## The pass -/

/-- A pass over a resource that is not being deleted is prepared: what cannot change is restored,
the account is opened, and the finalizer is held. -/
inductive Preparing (key : Key) (r : Resource k) : List (Exchange Pass.interface) → Session →
    Resource k → Prop where
  | prepared {first rest : List (Exchange Pass.interface)} {restored held : Resource k}
      {session : Session} (hValid : r.validate = .ok ())
      (hRestore : Pass.Traces (restore r) first (.ok restored))
      (hHold : Pass.Traces (hold restored) rest (.ok held)) :
      Preparing key r (first ++ ⟨.openAccount key.ns, .ok session⟩ :: rest) session held

/-- The courses of a pass over a resource that is not being deleted. -/
inductive Living (settings : Settings) (key : Key) (r : Resource k) :
    List (Exchange Pass.interface) → Except Error Outcome → Prop where
  | refused {first : List (Exchange Pass.interface)} {e : Error} {x : Except Error Outcome}
      (hBroken : r.validate = .error e) (hRefuse : Pass.Traces (refuse settings r e) first x) :
      Living settings key r first x
  | unrestored {first : List (Exchange Pass.interface)} {e : Error} (hValid : r.validate = .ok ())
      (hRestore : Pass.Traces (restore r) first (.error e)) : Living settings key r first (.error e)
  | unopened {first rest : List (Exchange Pass.interface)} {restored : Resource k} {e : Error}
      (hValid : r.validate = .ok ()) (hRestore : Pass.Traces (restore r) first (.ok restored))
      (hTold : Telling restored (.failure k .account e) rest) :
      Living settings key r (first ++ ⟨.openAccount key.ns, .error e⟩ :: rest) (.error e)
  | unheld {first rest : List (Exchange Pass.interface)} {restored : Resource k}
      {session : Session} {e : Error} (hValid : r.validate = .ok ())
      (hRestore : Pass.Traces (restore r) first (.ok restored))
      (hHold : Pass.Traces (hold restored) rest (.error e)) :
      Living settings key r (first ++ ⟨.openAccount key.ns, .ok session⟩ :: rest) (.error e)
  | synced {first rest : List (Exchange Pass.interface)} {session : Session} {held : Resource k}
      {x : Except Error Outcome} (hPrepared : Preparing key r first session held)
      (hRecorded : held.isRecorded)
      (hSync : Syncing settings ⟨session, key.ns⟩ held rest x) :
      Living settings key r (first ++ rest) x
  | created {first rest : List (Exchange Pass.interface)} {session : Session} {held : Resource k}
      {x : Except Error Outcome} (hPrepared : Preparing key r first session held)
      (hUnrecorded : ¬held.isRecorded)
      (hCreate : Creating settings ⟨session, key.ns⟩ held rest x) :
      Living settings key r (first ++ rest) x

/-- A pass over a resource that is not being deleted takes one of its courses. -/
lemma living_of_traces {x : Except Error Outcome}
    (hTrace : Pass.Traces (passLiving settings key r) h x) : Living settings key r h x := by
  unfold passLiving at hTrace
  cases hValid : r.validate with
  | error e =>
    rw [hValid] at hTrace
    exact .refused hValid hTrace
  | ok =>
    rw [hValid] at hTrace
    rcases Pass.traces_bind_iff.1 hTrace with ⟨e, hRestore, rfl⟩ | ⟨first, restored, rest,
      hRestore, hRest, rfl⟩
    · exact .unrestored hValid hRestore
    rcases traces_orFail_bind hRest with
      ⟨opening, e, told, hOpen, hTold, rfl, rfl⟩ | ⟨opening, session, last, hOpen, hLast, rfl⟩
    · obtain rfl := Pass.traces_openAccount_iff.1 hOpen
      exact .unopened hValid hRestore hTold
    obtain rfl := Pass.traces_openAccount_iff.1 hOpen
    rcases Pass.traces_bind_iff.1 hLast with ⟨e, hHold, rfl⟩ | ⟨holding, held, ending,
      hHold, hEnd, rfl⟩
    · exact .unheld hValid hRestore hHold
    have hPrepared :
        Preparing key r (first ++ ⟨.openAccount key.ns, .ok session⟩ :: holding) session held :=
      .prepared hValid hRestore hHold
    have hSplit : first ++ ([⟨.openAccount key.ns, .ok session⟩] ++ (holding ++ ending)) =
        (first ++ ⟨.openAccount key.ns, .ok session⟩ :: holding) ++ ending := by
      rw [List.singleton_append, ← List.cons_append, List.append_assoc]
    rw [hSplit]
    rcases Pass.traces_ite_iff.1 hEnd with ⟨hRecorded, hSync⟩ | ⟨hUnrecorded, hCreate⟩
    · exact .synced hPrepared hRecorded (syncing_of_traces hSync)
    · exact .created hPrepared hUnrecorded (creating_of_traces hCreate)

/-- The courses of a pass over a resource that is being deleted. -/
inductive Dying (key : Key) (r : Resource k) :
    List (Exchange Pass.interface) → Except Error Outcome → Prop where
  | abandoned {rest : List (Exchange Pass.interface)} {x : Except Error Outcome}
      (hAbandoned : isAbandoned r) (hRelease : Pass.Traces (release r) rest x) : Dying key r rest x
  | unopened {rest : List (Exchange Pass.interface)} {x : Except Error Outcome}
      (hWanted : ¬isAbandoned r) (e : Error) (hRelease : Pass.Traces (release r) rest x) :
      Dying key r (⟨.openAccount key.ns, .error e⟩ :: rest) x
  | opened {rest : List (Exchange Pass.interface)} {x : Except Error Outcome}
      (hWanted : ¬isAbandoned r) (session : Session) (hDelete : Deleting r rest x) :
      Dying key r (⟨.openAccount key.ns, .ok session⟩ :: rest) x

/-- A pass over a resource that is being deleted takes one of its courses. -/
lemma dying_of_traces {x : Except Error Outcome} (hTrace : Pass.Traces (passDeleting key r) h x) :
    Dying key r h x := by
  unfold passDeleting at hTrace
  rcases Pass.traces_ite_iff.1 hTrace with ⟨hAbandoned, hRelease⟩ | ⟨hWanted, hRest⟩
  · exact .abandoned hAbandoned hRelease
  obtain ⟨first, session, rest, hOpen, hLast, rfl⟩ := Pass.traces_attempt_bind_iff.1 hRest
  obtain rfl := Pass.traces_openAccount_iff.1 hOpen
  cases session with
  | error e => exact .unopened hWanted e hLast
  | ok session => exact .opened hWanted session (deleting_of_traces hLast)

/-- The courses of a pass over the resource of a key. -/
inductive Passing (settings : Settings) (k : Kind) (key : Key) :
    List (Exchange Pass.interface) → Except Error Outcome → Prop where
  | unread (e : Error) : Passing settings k key [⟨.store (.get k key), .error e⟩] (.error e)
  | absent : Passing settings k key [⟨.store (.get k key), .ok none⟩] (.ok .finished)
  | lost {r : Resource k} (hDeleting : r.metadata.isDeleting)
      (hLost : ¬r.metadata.finalizerSet.has k.finalizer) :
      Passing settings k key [⟨.store (.get k key), .ok (some r)⟩] (.ok .finished)
  | ungreeted {r : Resource k} {first : List (Exchange Pass.interface)} {e : Error}
      (hHeld : r.metadata.isDeleting → r.metadata.finalizerSet.has k.finalizer)
      (hGreet : Pass.Traces (greet r) first (.error e)) :
      Passing settings k key (⟨.store (.get k key), .ok (some r)⟩ :: first) (.error e)
  | dying {r greeted : Resource k} {first rest : List (Exchange Pass.interface)}
      {x : Except Error Outcome} (hDeleting : r.metadata.isDeleting)
      (hHeld : r.metadata.finalizerSet.has k.finalizer)
      (hGreet : Pass.Traces (greet r) first (.ok greeted)) (hDying : Dying key greeted rest x) :
      Passing settings k key (⟨.store (.get k key), .ok (some r)⟩ :: (first ++ rest)) x
  | living {r greeted : Resource k} {first rest : List (Exchange Pass.interface)}
      {x : Except Error Outcome} (hLiving : ¬r.metadata.isDeleting)
      (hGreet : Pass.Traces (greet r) first (.ok greeted))
      (hRest : Living settings key greeted rest x) :
      Passing settings k key (⟨.store (.get k key), .ok (some r)⟩ :: (first ++ rest)) x

/-- A pass takes one of its courses. -/
theorem passing_of_traces {x : Except Error Outcome}
    (hTrace : Pass.Traces (pass settings k key) h x) : Passing settings k key h x := by
  rcases Pass.traces_bind_iff.1 hTrace with ⟨e, hFetch, rfl⟩ | ⟨first, found, rest,
    hFetch, hRest, rfl⟩
  · obtain rfl := Pass.traces_fetch_iff.1 hFetch
    exact .unread e
  obtain rfl := Pass.traces_fetch_iff.1 hFetch
  cases found with
  | none =>
    obtain ⟨rfl, rfl⟩ := Pass.traces_pure_iff.1 hRest
    exact .absent
  | some r =>
    rcases Pass.traces_ite_iff.1 hRest with ⟨hDeleting, hDeletion⟩ | ⟨hLiving, hLife⟩
    · rw [List.singleton_append]
      rcases Pass.traces_ite_iff.1 hDeletion with ⟨hHeld, hDeath⟩ | ⟨hLost, hPure⟩
      · rcases Pass.traces_bind_iff.1 hDeath with ⟨e, hGreet, rfl⟩ | ⟨second, greeted, last,
          hGreet, hLast, rfl⟩
        · exact .ungreeted (fun _ => hHeld) hGreet
        · exact .dying hDeleting hHeld hGreet (dying_of_traces hLast)
      · obtain ⟨rfl, rfl⟩ := Pass.traces_pure_iff.1 hPure
        exact .lost hDeleting hLost
    · rw [List.singleton_append]
      rcases Pass.traces_bind_iff.1 hLife with ⟨e, hGreet, rfl⟩ | ⟨second, greeted, last,
        hGreet, hLast, rfl⟩
      · exact .ungreeted (fun hDeleting => absurd hDeleting hLiving) hGreet
      · exact .living hLiving hGreet (living_of_traces hLast)

/-- The outcome of a pass that ended with a result. -/
def outcomeOf : Except Error Outcome → Outcome
  | .ok outcome => outcome
  | .error e => .failure e

/-- A run of a pass takes one of the courses and ends with the outcome of its result. -/
theorem passing_of_reconcile {outcome : Outcome}
    (hTrace : (reconcile settings k key).Traces h outcome) :
    ∃ x, Passing settings k key h x ∧ outcome = outcomeOf x := by
  obtain ⟨first, x, rest, hPass, hRest, rfl⟩ := Program.traces_bind_iff.1 hTrace
  refine ⟨x, ?_⟩
  cases x with
  | ok =>
    obtain ⟨rfl, rfl⟩ := Program.traces_done_iff.1 hRest
    rw [List.append_nil]
    exact ⟨passing_of_traces hPass, rfl⟩
  | error =>
    obtain ⟨rfl, rfl⟩ := Program.traces_done_iff.1 hRest
    rw [List.append_nil]
    exact ⟨passing_of_traces hPass, rfl⟩

end Lifecycle

end IamReconciler
