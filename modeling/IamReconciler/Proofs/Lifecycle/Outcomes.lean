import IamReconciler.Proofs.Lifecycle.Deletion
import IamReconciler.Proofs.Lifecycle.Forgetting
import IamReconciler.Proofs.Lifecycle.Records

/-!
# How passes end

An operator that stops asking for passes over a resource stops correcting it, and nobody sees that.
A pass therefore gives up a resource only when there is nothing left to do for it.  While the
resource is not being deleted, the pass fails, or another one is due after the synchronization
period (`Persists`).  It does both when it could not read the recorded entity and the store has
taken the status that says so (`GivesUp`).  A pass over a resource that is being deleted fails, or
it ends when the finalizer is gone (`LetGo`).

The main statement is `outcome_of_run`, which holds whatever was answered.  It is followed by what
it means for the scheduler: `awaits_of_schedule` says when it waits for a change.
-/

namespace IamReconciler

variable {k : Kind} {settings : Settings} {key : Key} {scope : Scope} {r : Resource k}
  {h rest trace : List (Exchange Pass.interface)} {outcome : Outcome}

/-! ## Ways to end -/

/-- A pass gives up the recorded entity: it could not be read, and the store has taken the status
that says so. -/
inductive GivesUp (k : Kind) (e : Error) : List (Exchange Pass.interface) → Prop where
  | intro {before : List (Exchange Pass.interface)} {r stored : Resource k}
      {y : Exchange Pass.interface} (hLast : LastWord (Returns r) before)
      (hUnread : FailedToRead (k.entity r.remoteId) e y) :
      GivesUp k e (before ++
        [y, ⟨.store (.updateStatus k (r.moveTo (.failure k .retrieve e)).forgetRemote),
          .ok stored⟩])

/-- The finalizer is gone: what the store has returned last lacks it, or the store has taken a write
without it. -/
inductive LetGo (k : Kind) (h : List (Exchange Pass.interface)) : Prop where
  | lacking {w : Resource k} (hLast : LastWord (Returns w) h)
      (hLacks : ¬w.metadata.finalizerSet.has k.finalizer)
  | written {w stored : Resource k} (hTaken : ⟨.store (.update k w), .ok stored⟩ ∈ h)
      (hLacks : ¬w.metadata.finalizerSet.has k.finalizer)

/-- The ends of a pass over a resource that is not being deleted. -/
inductive Persists (settings : Settings) (k : Kind) (h : List (Exchange Pass.interface)) :
    Outcome → Prop where
  | failed (e : Error) : Persists settings k h (.failure e)
  | due : Persists settings k h (.requeue settings.syncPeriod)
  | unread {e : Error} (hGivesUp : GivesUp k e h) :
      Persists settings k h ⟨some settings.syncPeriod, some e⟩

/-- The ends of a pass over a resource that is being deleted. -/
inductive Concludes (k : Kind) (h : List (Exchange Pass.interface)) : Outcome → Prop where
  | failed (e : Error) : Concludes k h (.failure e)
  | finished (hLetGo : LetGo k h) : Concludes k h .finished

/-- The ends of a pass over the resource of a key. -/
inductive Ends (settings : Settings) (k : Kind) (key : Key) : List (Exchange Pass.interface) →
    Outcome → Prop where
  | unread (e : Error) : Ends settings k key [⟨.store (.get k key), .error e⟩] (.failure e)
  | absent : Ends settings k key [⟨.store (.get k key), .ok none⟩] .finished
  | living {r : Resource k} {rest : List (Exchange Pass.interface)} {outcome : Outcome}
      (hLiving : ¬r.metadata.isDeleting)
      (hPersists : Persists settings k (⟨.store (.get k key), .ok (some r)⟩ :: rest) outcome) :
      Ends settings k key (⟨.store (.get k key), .ok (some r)⟩ :: rest) outcome
  | dying {r : Resource k} {rest : List (Exchange Pass.interface)} {outcome : Outcome}
      (hDeleting : r.metadata.isDeleting)
      (hConcludes : Concludes k (⟨.store (.get k key), .ok (some r)⟩ :: rest) outcome) :
      Ends settings k key (⟨.store (.get k key), .ok (some r)⟩ :: rest) outcome

/-! ## Resources that are not being deleted -/

/-- A write that ends a pass keeps the resource whether it is taken or not. -/
lemma persists_of_answer (answer : Except Error (Resource k)) :
    Persists settings k h
      (Lifecycle.outcomeOf (answer.map fun _ => .requeue settings.syncPeriod)) := by
  cases answer with
  | ok => exact .due
  | error e => exact .failed e

/-- A pass that creates the entity keeps the resource. -/
lemma Lifecycle.Creating.persists {x : Except Error Outcome}
    (hCreating : Creating settings scope r rest x) : Persists settings k h (outcomeOf x) := by
  cases hCreating with
  | unresolved => exact .failed _
  | uncreated => exact .failed _
  | recorded => exact .due
  | unrecorded => exact .failed _

/-- A pass that has come to a resource and brings its entity in step keeps the resource. -/
lemma Reached.persists_of_syncing (hR : Reached r h) {x : Except Error Outcome}
    (hSyncing : Lifecycle.Syncing settings scope r rest x) :
    Persists settings k (h ++ rest) (Lifecycle.outcomeOf x) := by
  cases hSyncing with
  | @forgotten first e hFetch answer =>
    cases answer with
    | error e' => exact .failed e'
    | ok stored =>
      have hStill := isStore_of_fetch hFetch
      obtain ⟨reads, y, rfl, hUnread⟩ := Kind.failedToRead_of_traces hFetch
      have hLast : LastWord (Returns r) (h ++ reads) :=
        hR.last.append fun z hMem => hStill z (List.mem_append_left _ hMem)
      have hGivesUp : GivesUp k e (h ++ reads ++
          [y, ⟨.store (.updateStatus k (r.moveTo (.failure k .retrieve e)).forgetRemote),
            .ok stored⟩]) :=
        .intro hLast hUnread
      rw [List.append_assoc] at hGivesUp
      rw [List.append_assoc reads]
      exact .unread hGivesUp
  | unresolved => exact .failed _
  | agreed => exact .due
  | synchronized _ _ _ _ answer => exact persists_of_answer answer
  | unchanged => exact .failed _
  | changed _ _ _ _ answer => exact persists_of_answer answer

/-- A pass that has come to a resource which is not being deleted keeps it. -/
lemma Reached.persists_of_living (hR : Reached r h) {x : Except Error Outcome}
    (hLiving : Lifecycle.Living settings key r rest x) :
    Persists settings k (h ++ rest) (Lifecycle.outcomeOf x) := by
  cases hLiving with
  | refused _ hRefuse =>
    rcases Lifecycle.traces_refuse hRefuse with ⟨-, answer, -, rfl⟩ | ⟨-, -, rfl⟩
    · exact persists_of_answer answer
    · exact .due
  | unrestored => exact .failed _
  | unopened => exact .failed _
  | unheld => exact .failed _
  | synced hPrepared _ hSync =>
    have hPersists := (hR.prepared hPrepared).persists_of_syncing hSync
    rwa [List.append_assoc] at hPersists
  | created _ _ hCreate => exact hCreate.persists

/-! ## Resources that are being deleted -/

/-- A pass that lets go what the store has returned last fails, or it ends when the finalizer is
gone. -/
lemma concludes_of_release (hLast : LastWord (Returns r) h) {x : Except Error Outcome}
    (hRelease : Pass.Traces (Lifecycle.release r) rest x) :
    Concludes k (h ++ rest) (Lifecycle.outcomeOf x) := by
  rcases Lifecycle.traces_release hRelease with ⟨-, answer, rfl, rfl⟩ | ⟨hLacks, rfl, rfl⟩
  · cases answer with
    | error e => exact .failed e
    | ok stored =>
      refine .finished (.written (List.mem_append_right h List.mem_cons_self) ?_)
      rw [Resource.finalizerSet_withFinalizers, Finalizers.has_erase]
      exact Bool.false_ne_true
  · rw [List.append_nil]
    exact .finished (.lacking hLast hLacks)

/-- A pass that deletes the entity fails, or it ends when the finalizer is gone. -/
lemma Lifecycle.Deleting.concludes {x : Except Error Outcome} (hDeleting : Deleting r rest x) :
    Concludes k (h ++ rest) (outcomeOf x) := by
  cases hDeleting with
  | kept => exact .failed _
  | unstated => exact .failed _
  | @stated first last stored _ _ hRelease =>
    have hLast : LastWord (Returns stored)
        (h ++ first ++ [⟨.store (.updateStatus k (r.moveTo (.deleted k)).forgetRemote),
          .ok stored⟩]) :=
      lastAmong_concat rfl (.updateStatus _)
    have hConcludes := concludes_of_release hLast hRelease
    rwa [List.append_assoc, List.append_assoc, List.singleton_append] at hConcludes

/-- A pass that has come to a resource which is being deleted fails, or it ends when the finalizer
is gone. -/
lemma Reached.concludes_of_dying (hR : Reached r h) {x : Except Error Outcome}
    (hDying : Lifecycle.Dying key r rest x) : Concludes k (h ++ rest) (Lifecycle.outcomeOf x) := by
  cases hDying with
  | abandoned _ hRelease => exact concludes_of_release hR.last hRelease
  | unopened _ e hRelease =>
    have hConcludes := concludes_of_release (hR.opened key.ns (.error e)).last hRelease
    rwa [List.append_assoc, List.singleton_append] at hConcludes
  | opened _ session hDelete =>
    rw [← List.singleton_append, ← List.append_assoc]
    exact hDelete.concludes

/-! ## The pass -/

/-- A pass ends in one of these ways. -/
lemma ends_of_passing {x : Except Error Outcome} (hPassing : Lifecycle.Passing settings k key h x) :
    Ends settings k key h (Lifecycle.outcomeOf x) := by
  cases hPassing with
  | unread e => exact .unread e
  | absent => exact .absent
  | @lost r hDeleting hLost =>
      exact .dying hDeleting (.finished (.lacking (reached_get key r).last hLost))
  | @ungreeted r first e _ _ =>
    by_cases hDeleting : r.metadata.isDeleting
    · exact .dying hDeleting (.failed e)
    · exact .living hDeleting (.failed e)
  | dying hDeleting _ hGreet hDying =>
    have hGreeted := ((reached_get key _).greet hGreet).2 _ rfl
    exact .dying hDeleting (hGreeted.concludes_of_dying hDying)
  | living hLiving hGreet hRest =>
    have hGreeted := ((reached_get key _).greet hGreet).2 _ rfl
    exact .living hLiving (hGreeted.persists_of_living hRest)

/-- A run of a pass ends in one of these ways. -/
lemma ends_of_run (hRun : (reconcile settings k key).Runs (.free _) () trace outcome ()) :
    Ends settings k key trace outcome := by
  obtain ⟨x, hPassing, rfl⟩ := Lifecycle.passing_of_reconcile hRun
  exact ends_of_passing hPassing

/-! ## What the outcome says -/

namespace Persists

/-- A pass that keeps a resource fails, or another one is due after the synchronization period. -/
lemma stays (hPersists : Persists settings k h outcome) :
    outcome.error ≠ none ∨ outcome.requeueAfter = some settings.syncPeriod := by
  cases hPersists with
  | failed e => exact .inl (Option.some_ne_none e)
  | due => exact .inr rfl
  | unread => exact .inr rfl

/-- Another pass is due after no other period than that of synchronization. -/
lemma eq_syncPeriod (hPersists : Persists settings k h outcome) {seconds : Nat}
    (hDue : outcome.requeueAfter = some seconds) : seconds = settings.syncPeriod := by
  cases hPersists with
  | failed => cases hDue
  | due => exact (Option.some.inj hDue).symm
  | unread => exact (Option.some.inj hDue).symm

/-- A pass that fails and asks for another one has given up the entity. -/
lemma givesUp (hPersists : Persists settings k h outcome) {e : Error} {seconds : Nat}
    (hError : outcome.error = some e) (hDue : outcome.requeueAfter = some seconds) :
    GivesUp k e h := by
  cases hPersists with
  | failed => cases hDue
  | due => cases hError
  | unread hGivesUp =>
    cases hError
    exact hGivesUp

end Persists

namespace Concludes

/-- No other pass is due over a resource that is being deleted. -/
lemma requeueAfter (hConcludes : Concludes k h outcome) : outcome.requeueAfter = none := by
  cases hConcludes with
  | failed => rfl
  | finished => rfl

/-- A pass that does not fail has let the resource go. -/
lemma letGo (hConcludes : Concludes k h outcome) (hNoError : outcome.error = none) : LetGo k h := by
  cases hConcludes with
  | failed => cases hNoError
  | finished hLetGo => exact hLetGo

end Concludes

namespace Outcome

/-- An outcome with an error is an error, whatever the interval. -/
lemma action_of_error {e : Error} (hError : outcome.error = some e) :
    outcome.action = .error e := by
  obtain ⟨requeueAfter, error⟩ := outcome
  obtain rfl : error = some e := hError
  rfl

/-- An outcome without an error asks for what the interval says. -/
lemma action_of_no_error (hNone : outcome.error = none) :
    outcome.action = .ok (outcome.requeueAfter.elim .awaitChange .requeue) := by
  obtain ⟨requeueAfter, error⟩ := outcome
  obtain rfl : error = none := hNone
  cases requeueAfter with
  | none => rfl
  | some seconds => rfl

/-- The scheduler waits for a change only after an outcome with neither an error nor an interval. -/
lemma awaits_iff :
    outcome.action = .ok .awaitChange ↔ outcome.error = none ∧ outcome.requeueAfter = none := by
  obtain ⟨requeueAfter, error⟩ := outcome
  cases error with
  | none =>
    cases requeueAfter with
    | none => exact iff_of_true rfl ⟨rfl, rfl⟩
    | some seconds => exact iff_of_false nofun nofun
  | some e => exact iff_of_false nofun nofun

end Outcome

/-- Nothing is left to do for the resource of a key: it is absent, or it is being deleted and its
finalizer is gone. -/
def IsOver (k : Kind) (key : Key) (h : List (Exchange Pass.interface)) : Prop :=
  h.head? = some ⟨.store (.get k key), .ok none⟩ ∨
    ∃ r : Resource k, h.head? = some ⟨.store (.get k key), .ok (some r)⟩ ∧
    r.metadata.isDeleting ∧ LetGo k h

/-- A pass that neither fails nor asks for another one leaves nothing to do. -/
lemma Ends.isOver (hEnds : Ends settings k key h outcome) (hNoError : outcome.error = none)
    (hNotDue : outcome.requeueAfter = none) : IsOver k key h := by
  cases hEnds with
  | unread => cases hNoError
  | absent => exact .inl rfl
  | living _ hPersists =>
    rcases hPersists.stays with hError | hDue
    · exact absurd hNoError hError
    · rw [hNotDue] at hDue
      cases hDue
  | dying hDeleting hConcludes => exact .inr ⟨_, rfl, hDeleting, hConcludes.letGo hNoError⟩

/-- However a pass over the resource of a key goes, whatever was answered: if the resource is not
being deleted, the pass fails or another one is due after the synchronization period, and no other
period is ever asked for; both happen only when the entity was given up; neither happens only when
nothing is left to do.  For the scheduler an outcome with an error is an error, and otherwise the
interval counts. -/
theorem outcome_of_run (hRun : (reconcile settings k key).Runs (.free _) () trace outcome ()) :
    (∀ r : Resource k, trace.head? = some ⟨.store (.get k key), .ok (some r)⟩ →
      ¬r.metadata.isDeleting →
        outcome.error ≠ none ∨ outcome.requeueAfter = some settings.syncPeriod) ∧
      (∀ seconds, outcome.requeueAfter = some seconds → seconds = settings.syncPeriod) ∧
      (∀ e seconds, outcome.error = some e → outcome.requeueAfter = some seconds →
        GivesUp k e trace) ∧
      (outcome.error = none → outcome.requeueAfter = none → IsOver k key trace) ∧
      (∀ e, outcome.error = some e → outcome.action = .error e) ∧
      (outcome.error = none →
        outcome.action = .ok (outcome.requeueAfter.elim .awaitChange .requeue)) := by
  have hEnds := ends_of_run hRun
  refine ⟨?_, ?_, ?_, hEnds.isOver, fun _ => Outcome.action_of_error, Outcome.action_of_no_error⟩
  · intro r hFound hLiving
    cases hEnds with
    | unread e => exact .inl (Option.some_ne_none e)
    | absent => cases hFound
    | living _ hPersists => exact hPersists.stays
    | dying hDeleting =>
      cases hFound
      exact absurd hDeleting hLiving
  · intro seconds hDue
    cases hEnds with
    | unread => cases hDue
    | absent => cases hDue
    | living _ hPersists => exact hPersists.eq_syncPeriod hDue
    | dying _ hConcludes =>
      rw [hConcludes.requeueAfter] at hDue
      cases hDue
  · intro e seconds hError hDue
    cases hEnds with
    | unread => cases hDue
    | absent => cases hError
    | living _ hPersists => exact hPersists.givesUp hError hDue
    | dying _ hConcludes =>
      rw [hConcludes.requeueAfter] at hDue
      cases hDue

/-- A pass that could not read the role fails and asks for another one, and it has given up the
role; a pass that found the policy gone does neither, and it has let the policy go. -/
theorem outcome_of_timeout :
    GivesUp .customRole (.remote "get custom role" Reader.timeout)
        (Reader.timeoutTrace ++
          [⟨.store (.updateStatus .customRole Reader.forgotten), .ok Reader.forgotten⟩]) ∧
      (⟨some 150, some (.remote "get custom role" Reader.timeout)⟩ : Outcome).action =
          .error (.remote "get custom role" Reader.timeout) ∧
        IsOver .authorizationPolicy ⟨"team", "grant"⟩ Deletion.goneTrace ∧
          Outcome.finished.action = .ok .awaitChange := by
  obtain ⟨-, -, hBoth, -, hAction, -⟩ := outcome_of_run Reader.runs_timeout
  obtain ⟨-, -, -, hNeither, -, hNoError⟩ := outcome_of_run Deletion.runs_gone
  exact ⟨hBoth _ _ rfl rfl, hAction _ rfl, hNeither rfl rfl, hNoError rfl⟩

/-- After a run that was scheduled, the scheduler waits for a change of the resource only when
nothing is left to do for the resource that is stored under its key. -/
theorem awaits_of_schedule (hRun : (schedule settings r).Runs (.free _) () trace
    (.ok .awaitChange) ()) : ∃ key, r.key = .ok key ∧ IsOver k key trace := by
  unfold schedule at hRun
  cases hKey : r.key with
  | error e =>
    rw [hKey] at hRun
    obtain ⟨-, hError⟩ := Program.traces_done_iff.1 hRun
    cases hError
  | ok key =>
    rw [hKey] at hRun
    obtain ⟨first, outcome, rest, hPass, hRest, rfl⟩ := Program.traces_bind_iff.1 hRun
    obtain ⟨rfl, hAwaits⟩ := Program.traces_done_iff.1 hRest
    obtain ⟨hNoError, hNotDue⟩ := Outcome.awaits_iff.1 hAwaits.symm
    rw [List.append_nil]
    exact ⟨key, rfl, (ends_of_run hPass).isOver hNoError hNotDue⟩

end IamReconciler
