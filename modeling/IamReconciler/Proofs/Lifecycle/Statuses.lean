import IamReconciler.Proofs.Lifecycle.Ordering

/-!
# Statuses that can be reached

A status is written at eight places of a pass, and any of these writes may fail.  What holds of
every status that is stored in spite of that is the invariant of this file.  A pending resource
records no entity, an online one records one, and a deleted one records none and is being deleted
(`Resource.IsLawful`).  The spec that a status restates is the one for which an entity was created
or updated last and recorded (`AppliedOver`).  The traces of the passes determine it
(`AppliedOver.unique`); nothing else moves it, so that it survives failures, and also the entity.

The main statement is `lawful_of_run`, about all runs from a resource without a status in which a
write that fails has no effect and the service gives entities identifiers.  It also says that a pass
which ends well and leaves the resource online leaves a status that restates the stored spec.
-/

namespace IamReconciler

open Directory (Call Entity)

/-! ## Circumstances -/

/-- The surroundings of passes in which a write that fails has no effect. -/
def Circumstances.plainly {k : Kind} {δ : Type} (C : Circumstances k δ) (key : Key) :
    Surroundings Pass.interface (Site k δ) :=
  fun c answer s t => C.surroundings key c answer s t ∧ (WriteFailed ⟨c, answer⟩ → t = s)

/-- No write that failed in a pass has had an effect. -/
def PassRecord.IsPlain {k : Kind} {δ : Type} (p : PassRecord k δ) (C : Circumstances k δ)
    (settings : Settings) (key : Key) : Prop :=
  (reconcile settings k key).Runs (C.plainly key) p.before p.trace p.outcome p.after

/-- The service gives an identifier to every entity that it creates or updates. -/
def Circumstances.NamesEntities {k : Kind} {δ : Type} (C : Circumstances k δ) : Prop :=
  ∀ (c : Call) (v : c.Value) s d, C.serves c (.ok v) s d →
    (∀ e, c.created? v = some e → e.id ≠ "") ∧ ∀ id, c.updatedId? v = some id → id ≠ ""

/-! ## Lawful statuses -/

/-- What the state of a resource says of its record. -/
structure Resource.IsLawful {k : Kind} (r : Resource k) : Prop where
  pending : r.state = .pending → r.remoteId = ""
  online : r.state = .online → r.remoteId ≠ ""
  deleted : r.state = .deleted → r.remoteId = "" ∧ r.metadata.isDeleting

namespace Resource

variable {k : Kind} {r w : Resource k}

/-- A failed resource is lawful whatever it records. -/
lemma isLawful_of_failed (hFailed : r.state = .failed) : r.IsLawful where
  pending hState := State.noConfusion (hFailed.symm.trans hState)
  online hState := State.noConfusion (hFailed.symm.trans hState)
  deleted hState := State.noConfusion (hFailed.symm.trans hState)

/-- A recorded resource that is online is lawful. -/
lemma isLawful_of_online (hOnline : r.state = .online) (hId : r.remoteId ≠ "") : r.IsLawful where
  pending hState := State.noConfusion (hOnline.symm.trans hState)
  online _ := hId
  deleted hState := State.noConfusion (hOnline.symm.trans hState)

/-- A resource is lawful with the status of a lawful one, if it is being deleted in case that one
is. -/
lemma IsLawful.outlive (hLawful : r.IsLawful) (hStatus : w.status = r.status)
    (hDeleting : r.metadata.isDeleting → w.metadata.isDeleting) : w.IsLawful := by
  have hSame : w.statusOrBlank = r.statusOrBlank := by rw [statusOrBlank, hStatus, statusOrBlank]
  have hState : w.state = r.state := by rw [state, hSame, state]
  have hId : w.remoteId = r.remoteId := by rw [remoteId, hSame, remoteId]
  refine ⟨?_, ?_, ?_⟩
  · rw [hState, hId]
    exact hLawful.pending
  · rw [hState, hId]
    exact hLawful.online
  · rw [hState, hId]
    exact fun hDeleted => (hLawful.deleted hDeleted).imp_right hDeleting

/-- A resource that no pass has seen records nothing. -/
lemma remoteId_of_isUnset (hUnset : r.isUnset) : r.remoteId = "" := by
  have hBlank : r.statusOrBlank = Status.blank k := of_decide_eq_true hUnset
  rw [remoteId, hBlank]
  cases k <;> rfl

/-- A resource without a status is lawful. -/
lemma isLawful_of_unseen (hUnseen : r.status = none) : r.IsLawful := by
  have hBlank : r.statusOrBlank = Status.blank k := by rw [statusOrBlank, hUnseen, Option.getD_none]
  have hState : r.state = .pending := by
    rw [state, hBlank]
    rfl
  have hId : r.remoteId = "" := remoteId_of_isUnset (decide_eq_true hBlank)
  exact ⟨fun _ => hId, fun hOnline => State.noConfusion (hState.symm.trans hOnline),
    fun hDeleted => State.noConfusion (hState.symm.trans hDeleted)⟩

/-- A recorded resource whose spec has not drifted restates it. -/
lemma restates_of_undrifted (hRecorded : r.isRecorded) (hUndrifted : r.specDrifted = false)
    (hUnaltered : r.immutableDrifted = false) : k.Restates r.spec r.statusOrBlank.applied := by
  rw [specDrifted, hRecorded, Bool.true_and] at hUndrifted
  rw [immutableDrifted, hRecorded, Bool.true_and] at hUnaltered
  exact Kind.restates_iff.2 ⟨hUndrifted, hUnaltered⟩

end Resource

/-! ## The spec that was applied last -/

/-- An entity was created or updated. -/
inductive Changed : Exchange Pass.interface → Prop where
  | created {c : Call} {v : c.Value} {e : Entity} (hCreated : c.created? v = some e) :
      Changed ⟨.directory c, .ok v⟩
  | updated {c : Call} {v : c.Value} {id : String} (hUpdated : c.updatedId? v = some id) :
      Changed ⟨.directory c, .ok v⟩

/-- The spec that was applied last after the exchanges of a pass, when it was `old` before the pass:
the spec of a resource that the store took as online after an entity was created or updated in the
pass. -/
inductive AppliedIn (k : Kind) (old : k.Spec) : List (Exchange Pass.interface) → k.Spec → Prop where
  | start : AppliedIn k old [] old
  | recorded {h : List (Exchange Pass.interface)} {y : Exchange Pass.interface} {spec : k.Spec}
      {w stored : Resource k} (hPast : AppliedIn k old h spec) (hChanged : ∃ z ∈ h, Changed z)
      (hTaken : StatusTaken w stored y)
      (hOnline : w.state = .online) : AppliedIn k old (h ++ [y]) stored.spec
  | other {h : List (Exchange Pass.interface)} {y : Exchange Pass.interface} {spec : k.Spec}
      (hPast : AppliedIn k old h spec)
      (hOther : ∀ w stored : Resource k, StatusTaken w stored y → w.state = .online →
        ¬∃ z ∈ h, Changed z) :
      AppliedIn k old (h ++ [y]) spec

/-- The exchanges of a pass determine which spec was applied last. -/
lemma AppliedIn.unique {k : Kind} {old spec spec' : k.Spec} {h : List (Exchange Pass.interface)}
    (hSpec : AppliedIn k old h spec) (hSpec' : AppliedIn k old h spec') : spec = spec' := by
  -- both end in the same exchange, and that has recorded the spec in both or in neither
  induction hSpec generalizing spec' with
  | start =>
    generalize hEmpty : [] = h at hSpec'
    cases hSpec' with
    | start => rfl
    | recorded => exact absurd hEmpty.symm (List.concat_ne_nil _ _)
    | other => exact absurd hEmpty.symm (List.concat_ne_nil _ _)
  | @recorded h y _ w stored hPast hChanged hTaken hOnline _ =>
    generalize hLast : h ++ [y] = h' at hSpec'
    cases hSpec' with
    | start => exact absurd hLast (List.concat_ne_nil _ _)
    | recorded _ _ hTaken' _ =>
      obtain ⟨rfl, rfl⟩ := List.append_singleton_inj.1 hLast
      cases hTaken
      cases hTaken'
      rfl
    | other _ hOther =>
      obtain ⟨rfl, rfl⟩ := List.append_singleton_inj.1 hLast
      exact absurd hChanged (hOther w stored hTaken hOnline)
  | @other h y _ hPast hOther ih =>
    generalize hLast : h ++ [y] = h' at hSpec'
    cases hSpec' with
    | start => exact absurd hLast (List.concat_ne_nil _ _)
    | recorded _ hChanged hTaken hOnline =>
      obtain ⟨rfl, rfl⟩ := List.append_singleton_inj.1 hLast
      exact absurd hChanged (hOther _ _ hTaken hOnline)
    | other hPast' _ =>
      obtain ⟨rfl, rfl⟩ := List.append_singleton_inj.1 hLast
      exact ih hPast'

/-- The spec that was applied last after passes with given traces; before the first, nothing is
declared. -/
inductive AppliedOver (k : Kind) : List (List (Exchange Pass.interface)) → k.Spec → Prop where
  | start : AppliedOver k [] k.blankSpec
  | pass {traces : List (List (Exchange Pass.interface))} {trace : List (Exchange Pass.interface)}
      {old spec : k.Spec} (hPast : AppliedOver k traces old) (hPass : AppliedIn k old trace spec) :
      AppliedOver k (traces ++ [trace]) spec

/-- The traces of the passes determine which spec was applied last. -/
theorem AppliedOver.unique {k : Kind} {traces : List (List (Exchange Pass.interface))}
    {spec spec' : k.Spec} (hSpec : AppliedOver k traces spec)
    (hSpec' : AppliedOver k traces spec') : spec = spec' := by
  induction hSpec generalizing spec' with
  | start =>
    generalize hEmpty : [] = traces at hSpec'
    cases hSpec' with
    | start => rfl
    | pass => exact absurd hEmpty.symm (List.concat_ne_nil _ _)
  | @pass traces trace _ _ hPast hPass ih =>
    generalize hLast : traces ++ [trace] = traces' at hSpec'
    cases hSpec' with
    | start => exact absurd hLast (List.concat_ne_nil _ _)
    | pass hPast' hPass' =>
      obtain ⟨rfl, rfl⟩ := List.append_singleton_inj.1 hLast
      obtain rfl := ih hPast'
      exact hPass.unique hPass'

/-- Each status that the store takes is lawful and restates the spec that was applied last. -/
def TakesLawful (k : Kind) (old : k.Spec) (before : List (Exchange Pass.interface))
    (y : Exchange Pass.interface) : Prop :=
  ∀ w stored : Resource k, StatusTaken w stored y →
    stored.IsLawful ∧ AppliedIn k old (before ++ [y]) stored.statusOrBlank.applied

namespace Statuses

variable {δ : Type} {k : Kind} {C : Circumstances k δ} {settings : Settings} {key : Key}
  {scope : Scope} {old : k.Spec} {r held w : Resource k} {s t u v : Site k δ}
  {h : List (Exchange Pass.interface)} {y : Exchange Pass.interface}

/-! ## Changes of entities -/

/-- A call that spares all entities changes none. -/
lemma not_changed_of_spares (hSpares : y.call.Spares) : ¬Changed y := by
  intro hChanged
  cases hChanged with
  | created hCreated =>
    rw [Call.created?_eq_none_of_creates? (hSpares _ rfl).2] at hCreated
    cases hCreated
  | updated hUpdated =>
    rw [Call.updatedId?_eq_none_of_updates?
      (Call.updates?_of_touches? (hSpares _ rfl).1)] at hUpdated
    cases hUpdated

/-- What spares all entities changes none. -/
lemma not_changed_of_sparing (hSparing : Sparing h) : ¬∃ z ∈ h, Changed z := by
  rintro ⟨z, hMem, hChanged⟩
  exact not_changed_of_spares (hSparing z hMem) hChanged

/-- An entity that was made is a change. -/
lemma changed_of_made {entity : Entity} (hMade : Made h entity) : ∃ z ∈ h, Changed z := by
  obtain ⟨c, answer, hMem, hCreated⟩ := hMade
  exact ⟨_, hMem, .created hCreated⟩

/-- An entity that goes by an identifier was updated. -/
lemma changed_of_goesBy {entity : Entity} {new : String} (hGoesBy : GoesBy entity new y) :
    Changed y := by
  cases hGoesBy with
  | @own c answer hUpdates =>
    -- every update returns the entity
    cases c with
    | updateGroup => exact .updated rfl
    | updatePolicy => exact .updated rfl
    | updateRole => exact .updated rfl
    | _ => cases hUpdates
  | returned _ hNew => exact .updated hNew

/-- The service gives identifiers to entities along a path. -/
lemma named_of_path (hNames : C.NamesEntities) (hPath : (C.surroundings key).Path s h t) {c : Call}
    {answer : c.Value} (hMem : ⟨.directory c, .ok answer⟩ ∈ h) :
    (∀ e, c.created? answer = some e → e.id ≠ "") ∧ ∀ id, c.updatedId? answer = some id →
    id ≠ "" := by
  obtain ⟨before, after, rfl⟩ := List.append_of_mem hMem
  obtain ⟨u, -, hRest⟩ := Surroundings.path_append_iff.1 hPath
  obtain ⟨v, ⟨d, hServes, -⟩, -⟩ := Surroundings.path_cons_iff.1 hRest
  exact hNames c answer u d hServes

/-! ## The invariant -/

/-- What a pass has kept since it began in `s`: the stored resource is lawful and restates the spec
that was applied last, so did each status that the store took, and no deletion is requested or
revoked. -/
structure Tracks (old : k.Spec) (s : Site k δ) (h : List (Exchange Pass.interface)) (t : Site k δ) :
    Prop where
  lawful : t.resource.IsLawful
  applied : AppliedIn k old h t.resource.statusOrBlank.applied
  taken : InTurn (TakesLawful k old) h
  deleting : t.resource.metadata.isDeleting = s.resource.metadata.isDeleting

/-- A pass keeps everything in an exchange that leaves the resource and takes no status. -/
lemma Tracks.left (hT : Tracks old s h u) (hSame : v.resource = u.resource)
    (hUntaken : ∀ w stored : Resource k, ¬StatusTaken w stored y) : Tracks old s (h ++ [y]) v where
  lawful := hSame ▸ hT.lawful
  applied := by
    rw [hSame]
    exact hT.applied.other fun w stored hTaken => absurd hTaken (hUntaken w stored)
  taken := inTurn_concat_iff.2
    ⟨hT.taken, fun w stored hTaken => absurd hTaken (hUntaken w stored)⟩
  deleting := hSame ▸ hT.deleting

/-- A pass has read a resource that is being deleted only where it is. -/
lemma isDeleting_of_reads (hPath : (C.surroundings key).Path s h t)
    (hReads : ReadsDeleting k key h) : s.resource.metadata.isDeleting := by
  obtain ⟨found, x, hExamined, hDeleting⟩ := hReads
  cases h with
  | nil => cases hExamined.head?
  | cons y rest =>
    obtain ⟨u, hStep, -⟩ := Surroundings.path_cons_iff.1 hPath
    cases hExamined.head?
    cases hStep
    exact hDeleting

/-- The status that a pass writes of a lawful resource is lawful. -/
lemma isLawful_of_states (hNames : C.NamesEntities) (hPath : (C.surroundings key).Path s h u)
    (hT : Tracks old s h u) (hStates : States k key u.resource h w) :
    (u.stated w).resource.IsLawful := by
  have hSame : (u.stated w).resource.remoteId = w.remoteId := rfl
  cases hStates with
  | greeted hUnset =>
    refine ⟨fun _ => ?_, State.noConfusion, State.noConfusion⟩
    rw [hSame, Resource.remoteId_moveTo]
    exact Resource.remoteId_of_isUnset hUnset
  | failed hFailed => exact Resource.isLawful_of_failed hFailed
  | synchronized hRecorded =>
    exact Resource.isLawful_of_online rfl (Resource.isRecorded_iff.1 hRecorded)
  | forgotten => exact Resource.isLawful_of_failed (Resource.state_forgetRemote _)
  | @created ref _ _ hMade =>
    obtain ⟨c, answer, hMem, hCreated⟩ := hMade
    refine Resource.isLawful_of_online rfl ?_
    rw [hSame, Resource.remoteId_moveTo, Resource.remoteId_recordApplied]
    exact (named_of_path hNames hPath hMem).1 _ hCreated
  | @updated ref y hRecorded _ hMem hGoesBy =>
    refine Resource.isLawful_of_online rfl ?_
    rw [hSame, Resource.remoteId_moveTo, Resource.remoteId_recordApplied]
    -- the identifier is the recorded one, or one that the service has answered with
    cases hGoesBy with
    | own _ hOwn =>
      rw [hOwn]
      exact Resource.isRecorded_iff.1 hRecorded
    | returned _ hNew => exact (named_of_path hNames hPath hMem).2 _ hNew
  | deleted hReads =>
    have hState := Resource.state_forgetRemote (u.resource.moveTo (.deleted k))
    refine ⟨fun hPending => ?_, fun hOnline => ?_, fun _ => ⟨?_, ?_⟩⟩
    · exact State.noConfusion (hState.symm.trans hPending)
    · exact State.noConfusion (hState.symm.trans hOnline)
    · exact Resource.remoteId_forgetRemote (u.resource.moveTo (.deleted k))
    · exact hT.deleting.trans (isDeleting_of_reads hPath hReads)

/-- The status that a pass writes, once the store takes it, restates the spec that was applied
last. -/
lemma applied_of_states (hT : Tracks old s h u) (hStates : States k key u.resource h w) :
    AppliedIn k old (h ++ [⟨.store (.updateStatus k w), .ok (u.stated w).resource⟩])
      w.statusOrBlank.applied := by
  -- a status that restates what was restated says online only when no entity was changed
  have hStill (hSame : w.statusOrBlank.applied = u.resource.statusOrBlank.applied)
      (hQuiet : w.state = .online → ¬∃ z ∈ h, Changed z) :
      AppliedIn k old (h ++ [⟨.store (.updateStatus k w), .ok (u.stated w).resource⟩])
        w.statusOrBlank.applied := by
    rw [hSame]
    refine hT.applied.other ?_
    rintro _ _ ⟨⟩
    exact hQuiet
  have hRecords {ref : RemoteRef} {c : Condition} (hChanged : ∃ z ∈ h, Changed z)
      (hOnline : c.state = .online) :
      AppliedIn k old (h ++ [⟨.store (.updateStatus k ((u.resource.recordApplied ref).moveTo c)),
        .ok (u.stated ((u.resource.recordApplied ref).moveTo c)).resource⟩]) u.resource.spec := by
    have hTaken : StatusTaken ((u.resource.recordApplied ref).moveTo c)
        (u.stated ((u.resource.recordApplied ref).moveTo c)).resource _ := .updateStatus
    have hRecorded := hT.applied.recorded hChanged hTaken hOnline
    exact hRecorded
  cases hStates with
  | greeted => exact hStill rfl State.noConfusion
  | failed hFailed => exact hStill rfl fun hOnline => State.noConfusion (hFailed.symm.trans hOnline)
  | synchronized _ hSparing => exact hStill rfl fun _ => not_changed_of_sparing hSparing
  | forgotten =>
    refine hStill (Resource.applied_forgetRemote _) fun hOnline => ?_
    exact State.noConfusion ((Resource.state_forgetRemote _).symm.trans hOnline)
  | created _ _ hMade => exact hRecords (changed_of_made hMade) rfl
  | updated _ _ hMem hGoesBy => exact hRecords ⟨_, hMem, changed_of_goesBy hGoesBy⟩ rfl
  | deleted =>
    refine hStill (Resource.applied_forgetRemote _) fun hOnline => ?_
    exact State.noConfusion ((Resource.state_forgetRemote _).symm.trans hOnline)

/-- What a pass writes over metadata leaves a requested deletion requested. -/
lemma isDeleting_of_edits (hEdits : Edits k key r h w) :
    w.metadata.isDeleting = r.metadata.isDeleting := by
  cases hEdits with
  | restored => rw [Resource.metadata_restoreImmutable]
  | held => exact Resource.isDeleting_withFinalizers r _
  | released => exact Resource.isDeleting_withFinalizers r _

/-- A pass keeps everything in each of its effects, when writes that fail have none. -/
lemma Tracks.concat (hNames : C.NamesEntities) (hPath : (C.surroundings key).Path s h u)
    (hT : Tracks old s h u) (hEffect : Effect k key h u y v) (hPlain : WriteFailed y → v = u) :
    Tracks old s (h ++ [y]) v := by
  cases hEffect with
  | left hSame hUntaken => exact hT.left hSame hUntaken
  | @stated w hStates answer hTaken =>
    -- an error is no status that was taken, though the store might have written it
    cases answer with
    | error e =>
      refine hT.left ?_ fun _ _ hTaken => nomatch hTaken
      rw [hPlain (.updateStatus w e)]
    | ok stored =>
      obtain rfl := hTaken stored rfl
      have hLawful := isLawful_of_states hNames hPath hT hStates
      have hApplied := applied_of_states hT hStates
      refine ⟨hLawful, hApplied, inTurn_concat_iff.2 ⟨hT.taken, ?_⟩, hT.deleting⟩
      rintro _ _ ⟨⟩
      exact ⟨hLawful, hApplied⟩
  | @edited w hEdits answer =>
    cases answer with
    | error e =>
      refine hT.left ?_ fun _ _ hTaken => nomatch hTaken
      rw [hPlain (.update w e)]
    | ok stored =>
      have hDeleting := isDeleting_of_edits hEdits
      have hUntaken (v stored' : Resource k) :
          ¬StatusTaken v stored' ⟨.store (.update k w), .ok stored⟩ := nofun
      exact ⟨hT.lawful.outlive rfl hDeleting.trans,
        hT.applied.other fun v stored' hTaken => absurd hTaken (hUntaken v stored'),
        inTurn_concat_iff.2 ⟨hT.taken, fun v stored' hTaken => absurd hTaken (hUntaken v stored')⟩,
        hDeleting.trans hT.deleting⟩

/-- A pass in which writes that fail have no effect keeps everything. -/
theorem tracks_of_run (hNames : C.NamesEntities) {outcome : Outcome} (hLawful : s.resource.IsLawful)
    (hRun : (reconcile settings k key).Runs (C.plainly key) s h outcome t) :
    Tracks s.resource.statusOrBlank.applied s h t := by
  obtain ⟨hTrace, hPath⟩ := Program.runs_iff.1 hRun
  refine hPath.inTurn (turns_of_traces hTrace) ?_ ⟨hLawful, .start, inTurn_nil, rfl⟩
  intro before y u v hBefore hStep hTurn hT
  have hBefore := hBefore.mono fun _ _ _ _ hAnswer => hAnswer.1
  exact hT.concat hNames hBefore (hTurn.effect hBefore hStep.1) hStep.2

/-! ## A pass that ends well -/

/-- A resource that a pass is prepared for has nothing in it that cannot change and has changed. -/
lemma prepared_of_path {session : Session} (hPath : (C.surroundings key).Path u h v)
    (hPrepared : Lifecycle.Preparing key u.resource h session held) :
    v.resource = held ∧ held.immutableDrifted = false := by
  obtain ⟨-, hRestore, hHold⟩ := hPrepared
  obtain ⟨t, hFirst, hRest⟩ := Surroundings.path_append_iff.1 hPath
  obtain rfl := stored_of_restore hFirst hRestore
  obtain ⟨_, ⟨rfl, -⟩, hLast⟩ := Surroundings.path_cons_iff.1 hRest
  obtain rfl := stored_of_hold hLast hHold
  exact ⟨rfl, (unaltered_of_hold hLast hHold).trans (unaltered_of_restore hFirst hRestore)⟩

/-- Only calls of the store change the stored resource. -/
lemma resource_of_asked (hPath : (C.surroundings key).Path u h v)
    (hOther : ∀ z ∈ h, z.call.isStore = false) : v.resource = u.resource :=
  hPath.keeps (J := fun t => t.resource = u.resource)
    (fun z hMem _ _ hStep hSame => (resource_of_step hStep (hOther z hMem)).trans hSame) rfl

/-- A status that the store takes last, after calls of other parties, is stored. -/
lemma status_of_stated {stored : Resource k} (hOther : ∀ z ∈ h, z.call.isStore = false)
    (hPath : (C.surroundings key).Path u (h ++ [⟨.store (.updateStatus k w), .ok stored⟩]) v) :
    v.resource = { u.resource with status := w.status } := by
  obtain ⟨t, hFirst, hStep⟩ := Surroundings.path_concat_iff.1 hPath
  cases hStep with
  | stated => rw [Site.stated, resource_of_asked hFirst hOther]

/-- A pass that brings the entity in step and ends well leaves a status that restates the spec. -/
lemma restates_of_syncing {x : Except Error Outcome} (hPath : (C.surroundings key).Path u h v)
    (hRecorded : u.resource.isRecorded) (hUnaltered : u.resource.immutableDrifted = false)
    (hSyncing : Lifecycle.Syncing settings scope u.resource h x)
    (hWell : (Lifecycle.outcomeOf x).error = none) :
    k.Restates v.resource.spec v.resource.statusOrBlank.applied := by
  -- an entity that needs no update was created or updated for the spec
  have hRestates {desired : k.UpdateRequest} {found : k.Remote × Etag}
      (hAgrees : ¬Lifecycle.needsUpdate u.resource desired found.1) :
      k.Restates u.resource.spec u.resource.statusOrBlank.applied := by
    have hUndrifted := (Bool.or_eq_false_iff.1 (Bool.eq_false_iff.2 hAgrees)).1
    exact Resource.restates_of_undrifted hRecorded hUndrifted hUnaltered
  cases hSyncing with
  | forgotten _ answer => cases answer <;> cases hWell
  | unresolved => cases hWell
  | agreed hFetch hResolve hAgrees =>
    rw [resource_of_asked hPath (List.forall_mem_append.2
      ⟨isStore_of_fetch hFetch, isStore_of_updateRequest hResolve⟩)]
    exact hRestates hAgrees
  | synchronized hFetch hResolve hAgrees _ answer =>
    cases answer with
    | error => cases hWell
    | ok stored =>
      rw [← List.append_assoc] at hPath
      rw [status_of_stated (List.forall_mem_append.2
        ⟨isStore_of_fetch hFetch, isStore_of_updateRequest hResolve⟩) hPath]
      exact hRestates hAgrees
  | unchanged => cases hWell
  | changed hFetch hResolve _ hUpdate answer =>
    cases answer with
    | error => cases hWell
    | ok stored =>
      rw [← List.append_assoc, ← List.append_assoc] at hPath
      rw [status_of_stated (List.forall_mem_append.2 ⟨List.forall_mem_append.2
        ⟨isStore_of_fetch hFetch, isStore_of_updateRequest hResolve⟩,
        isStore_of_update hUpdate⟩) hPath]
      exact Kind.restates_refl _

/-- A pass that creates the entity and ends well leaves a status that restates the spec. -/
lemma restates_of_creating {x : Except Error Outcome} (hPath : (C.surroundings key).Path u h v)
    (hCreating : Lifecycle.Creating settings scope u.resource h x)
    (hWell : (Lifecycle.outcomeOf x).error = none) :
    k.Restates v.resource.spec v.resource.statusOrBlank.applied := by
  cases hCreating with
  | unresolved => cases hWell
  | uncreated => cases hWell
  | recorded hResolve hCreate stored =>
    rw [← List.append_assoc] at hPath
    rw [status_of_stated (List.forall_mem_append.2
      ⟨isStore_of_createRequest hResolve, isStore_of_create hCreate⟩) hPath]
    exact Kind.restates_refl _
  | unrecorded => cases hWell

/-- A pass that refuses a resource and ends well leaves it failed. -/
lemma failed_of_refuse {e : Error} {x : Except Error Outcome}
    (hPath : (C.surroundings key).Path u h v)
    (hRefuse : Pass.Traces (Lifecycle.refuse settings u.resource e) h x)
    (hWell : (Lifecycle.outcomeOf x).error = none) : v.resource.state = .failed := by
  rcases Lifecycle.traces_refuse hRefuse with ⟨-, ⟨answer, rfl, rfl⟩⟩ | ⟨hFailed, rfl, -⟩
  · cases answer with
    | error => cases hWell
    | ok stored =>
      rw [← List.nil_append [_]] at hPath
      rw [status_of_stated (List.forall_mem_nil _) hPath]
      rfl
  · obtain rfl := Surroundings.path_nil_iff.1 hPath
    exact hFailed

/-- A pass over a stored resource that is not being deleted, when it ends well and leaves the
resource online, leaves a status that restates the spec. -/
theorem restates_of_run {outcome : Outcome} (hStored : s.isStored) (hLiving : ¬s.isDeleting)
    (hRun : (reconcile settings k key).Runs (C.surroundings key) s h outcome t)
    (hWell : outcome.error = none) (hOnline : t.resource.state = .online) :
    k.Restates t.resource.spec t.resource.statusOrBlank.applied := by
  obtain ⟨hTrace, hPath⟩ := Program.runs_iff.1 hRun
  obtain ⟨x, hPassing, rfl⟩ := Lifecycle.passing_of_reconcile hTrace
  cases hPassing.attending hPath hStored hLiving with
  | unread => cases hWell
  | ungreeted => cases hWell
  | living hGreet hRest =>
    rw [← List.cons_append] at hPath
    obtain ⟨u, hFirst, hPath⟩ := Surroundings.path_append_iff.1 hPath
    obtain rfl := resource_of_path hFirst ((reached_get key _).greet hGreet |>.2 _ rfl).last
    -- only synchronizing and creating end without an error in an online resource
    cases hRest with
    | refused _ hRefuse =>
      exact State.noConfusion ((failed_of_refuse hPath hRefuse hWell).symm.trans hOnline)
    | unrestored => cases hWell
    | unopened => cases hWell
    | unheld => cases hWell
    | synced hPrepared hRecorded hSync =>
      obtain ⟨v, hPreparing, hPath⟩ := Surroundings.path_append_iff.1 hPath
      obtain ⟨rfl, hUnaltered⟩ := prepared_of_path hPreparing hPrepared
      exact restates_of_syncing hPath hRecorded hUnaltered hSync hWell
    | created hPrepared _ hCreate =>
      obtain ⟨v, hPreparing, hPath⟩ := Surroundings.path_append_iff.1 hPath
      obtain ⟨rfl, -⟩ := prepared_of_path hPreparing hPrepared
      exact restates_of_creating hPath hCreate hWell

/-! ## Runs -/

/-- What a run keeps: the stored status is lawful and restates the spec that was applied last, and
so did each status that the store took in a pass; and each pass that ended well with an online
resource left a status that restated the spec. -/
structure Kept (site : Site k δ) (records : List (PassRecord k δ)) : Prop where
  lawful : site.resource.IsLawful
  applied : AppliedOver k (records.map (·.trace)) site.resource.statusOrBlank.applied
  taken : InTurn (fun earlier p => ∃ old, AppliedOver k (earlier.map PassRecord.trace) old ∧
    InTurn (TakesLawful k old) p.trace) records
  restates : ∀ p ∈ records, p.before.isStored → ¬p.before.isDeleting → p.outcome.error = none →
    p.after.resource.state = .online →
      k.Restates p.after.resource.spec p.after.resource.statusOrBlank.applied

/-- Before the first pass a resource has no status. -/
lemma kept_of_unseen {site : Site k δ} (hUnseen : site.resource.status = none) : Kept site [] where
  lawful := Resource.isLawful_of_unseen hUnseen
  applied := by
    rw [Resource.statusOrBlank, hUnseen]
    exact .start
  taken := inTurn_nil
  restates := fun _ hMem => absurd hMem List.not_mem_nil

/-- A change from outside that leaves the status, and that does not revoke a deletion. -/
lemma Kept.outside {site after : Site k δ} {records : List (PassRecord k δ)}
    (hK : Kept site records) (hStatus : after.resource.status = site.resource.status)
    (hDeleting : site.resource.metadata.isDeleting → after.resource.metadata.isDeleting) :
    Kept after records where
  lawful := hK.lawful.outlive hStatus hDeleting
  applied := by
    rw [Resource.statusOrBlank, hStatus]
    exact hK.applied
  taken := hK.taken
  restates := hK.restates

/-- A pass in which writes that fail have no effect. -/
lemma Kept.pass (hNames : C.NamesEntities) {site after : Site k δ} {records : List (PassRecord k δ)}
    {trace : List (Exchange Pass.interface)} {outcome : Outcome} (hK : Kept site records)
    (hPlain : (reconcile settings k key).Runs (C.plainly key) site trace outcome after) :
    Kept after (records ++ [⟨site, trace, outcome, after⟩]) := by
  have hTracks := tracks_of_run hNames hK.lawful hPlain
  refine ⟨hTracks.lawful, ?_, inTurn_concat_iff.2 ⟨hK.taken, _, hK.applied, hTracks.taken⟩, ?_⟩
  · rw [List.map_append]
    exact .pass hK.applied hTracks.applied
  · refine forall_mem_concat_iff.2 ⟨hK.restates, fun hStored hLiving hWell hOnline => ?_⟩
    have hRun := hPlain.mono fun _ _ _ _ hAnswer => hAnswer.1
    exact restates_of_run hStored hLiving hRun hWell hOnline

/-- A whole run. -/
lemma Kept.run {drifts : δ → δ → Prop} {start site : Site k δ} {records : List (PassRecord k δ)}
    (hRun : Site.Run C drifts settings key start records site) (hNames : C.NamesEntities)
    (hPlain : ∀ p ∈ records, p.IsPlain C settings key) (hUnseen : start.resource.status = none) :
    Kept site records := by
  induction hRun with
  | start => exact kept_of_unseen hUnseen
  | pass _ _ ih =>
    obtain ⟨hEarlier, hLast⟩ := forall_mem_concat_iff.1 hPlain
    exact (ih hEarlier).pass hNames hLast
  | edit _ _ _ ih => exact (ih hPlain).outside rfl fun hDeleting => hDeleting
  | condemn _ _ _ ih => exact (ih hPlain).outside rfl fun _ => rfl
  | drift _ _ ih => exact (ih hPlain).outside rfl fun hDeleting => hDeleting

end Statuses

/-- In every run from a resource of any kind without a status, in which passes are interleaved with
edits of the spec and requests for deletion, in which accounts, references, the store and the
service may fail at any point, in which a write that fails has no effect, and in which the service
gives identifiers to entities: the stored status is lawful and restates the one spec that was
applied last, and so did every status that the store took in a pass; and when a pass over a stored
resource that is not being deleted ends without an error and leaves it online, the status restates
the stored spec up to the order and the repetition of list entries. -/
theorem lawful_of_run {k : Kind} {δ : Type} {C : Circumstances k δ} {drifts : δ → δ → Prop}
    {settings : Settings} {key : Key} {start site : Site k δ} {records : List (PassRecord k δ)}
    (hRun : Site.Run C drifts settings key start records site) (hNames : C.NamesEntities)
    (hPlain : ∀ p ∈ records, p.IsPlain C settings key) (hUnseen : start.resource.status = none) :
    (site.resource.IsLawful ∧
        ∀ spec, AppliedOver k (records.map (·.trace)) spec ↔
          spec = site.resource.statusOrBlank.applied) ∧
      (∀ earlier p later, records = earlier ++ p :: later →
        ∃ old, AppliedOver k (earlier.map (·.trace)) old ∧
          ∀ before y after, p.trace = before ++ y :: after →
            ∀ w stored : Resource k, StatusTaken w stored y →
              stored.IsLawful ∧ AppliedIn k old (before ++ [y]) stored.statusOrBlank.applied) ∧
      ∀ p ∈ records, p.before.isStored → ¬p.before.isDeleting → p.outcome.error = none →
        p.after.resource.state = .online →
          k.Restates p.after.resource.spec p.after.resource.statusOrBlank.applied := by
  have hKept := Statuses.Kept.run hRun hNames hPlain hUnseen
  refine ⟨⟨hKept.lawful, fun spec => ⟨fun hSpec => hSpec.unique hKept.applied, ?_⟩⟩,
    hKept.taken, hKept.restates⟩
  rintro rfl
  exact hKept.applied

/-! ## A group that is edited -/

namespace Statuses

/-- Everything may fail, and the service gives identifiers to entities. -/
def named (k : Kind) : Circumstances k Unit where
  storeMayFail := True
  opens _ _ := True
  refers _ _ := True
  serves c answer _ _ := ∀ v, answer = .ok v →
    (∀ e, c.created? v = some e → e.id ≠ "") ∧ ∀ id, c.updatedId? v = some id → id ≠ ""

/-- The group after the pass that created it. -/
def createdGroup : Resource .accessGroup :=
  (Auditors.held.recordApplied ⟨"group-1", none⟩).moveTo (.created .accessGroup)

/-- What the group is asked to be later. -/
def describedSpec : AccessGroupSpec :=
  { Auditors.unseen.spec with description := "Reads the logs." }

/-- The group after its spec was edited. -/
def describedGroup : Resource .accessGroup :=
  { createdGroup with spec := describedSpec }

/-- Somebody else has updated the group. -/
def outdated : RemoteError := .conflict "outdated token"

/-- The group after the pass that could not update it. -/
def failedGroup : Resource .accessGroup :=
  describedGroup.moveTo (.failure .accessGroup .update (.remote "update access group" outdated))

/-- An account may be opened. -/
lemma plainly_opened (ns : String) (session : Session) {site : Site k Unit} :
    (named k).plainly key (.openAccount ns) (.ok session) site site :=
  ⟨⟨rfl, trivial⟩, nofun⟩

/-- A call that neither creates nor updates may succeed. -/
lemma plainly_ok (c : Call) (v : c.Value) {site : Site k Unit} (hCreated : c.created? v = none)
    (hUpdated : c.updatedId? v = none) : (named k).plainly key (.directory c)
      (.ok v) site site := by
  refine ⟨⟨(), ?_, rfl⟩, nofun⟩
  rintro _ ⟨⟩
  rw [hCreated, hUpdated]
  exact ⟨nofun, nofun⟩

/-- A call of the service may fail. -/
lemma plainly_error (c : Call) (e : RemoteError) {site : Site k Unit} :
    (named k).plainly key (.directory c) (.error e) site site :=
  ⟨⟨(), nofun, rfl⟩, nofun⟩

/-- The service makes the group. -/
lemma plainly_createGroup {site : Site .accessGroup Unit} :
    (named .accessGroup).plainly key
      (.directory (.createGroup (AccessGroups.request Auditors.unseen.spec) "account"))
        (.ok ⟨"group-1", "auditors", ownedDescription ""⟩) site site := by
  refine ⟨⟨(), ?_, rfl⟩, nofun⟩
  rintro _ ⟨⟩
  refine ⟨?_, nofun⟩
  rintro _ ⟨⟩
  decide

/-- The pass that creates the group. -/
lemma runs_created :
    ∃ trace, (reconcile {} .accessGroup ⟨"team", "auditors"⟩).Runs
      ((named .accessGroup).plainly ⟨"team", "auditors"⟩) ⟨Auditors.unseen, true, ()⟩ trace
        (.requeue 150) ⟨createdGroup, true, ()⟩ :=
  ⟨_, .ask ⟨.found rfl, nofun⟩ <| .ask ⟨.stated _ rfl, nofun⟩ <|
    .ask (plainly_opened "team" ⟨"account"⟩) <| .ask ⟨.written _ rfl, nofun⟩ <|
    .ask (plainly_ok (.findGroups "auditors" "account") [] rfl rfl) <|
    .ask plainly_createGroup <|
    .ask (plainly_ok (.getServiceIdentity "ServiceId-1") ⟨"ServiceId-1", "iam-1"⟩ rfl rfl) <|
    .ask (plainly_ok (.addMembers "group-1" [⟨"iam-1", .service⟩]) () rfl rfl) <|
    .ask ⟨.stated _ rfl, nofun⟩ <| .done _ _⟩

/-- The pass that cannot update the group. -/
lemma runs_failed :
    ∃ trace, (reconcile {} .accessGroup ⟨"team", "auditors"⟩).Runs
      ((named .accessGroup).plainly ⟨"team", "auditors"⟩) ⟨describedGroup, true, ()⟩ trace
        (.failure (.remote "update access group" outdated)) ⟨failedGroup, true, ()⟩ :=
  ⟨_, .ask ⟨.found rfl, nofun⟩ <| .ask (plainly_opened "team" ⟨"account"⟩) <|
    .ask (plainly_ok (.getGroup "group-1") ⟨⟨"group-1", "auditors", ownedDescription ""⟩,
      ⟨"1"⟩⟩ rfl rfl) <|
    .ask (plainly_ok (.listMembers "group-1") [⟨"iam-1", .service⟩] rfl rfl) <|
    .ask (plainly_ok (.getServiceIdentity "ServiceId-1") ⟨"ServiceId-1", "iam-1"⟩ rfl rfl) <|
    .ask (plainly_error (.updateGroup "group-1" (AccessGroups.request describedSpec)
      ⟨"1"⟩) outdated) <|
    .ask ⟨.stated _ rfl, nofun⟩ <| .done _ _⟩

end Statuses

/-- The group that could not be updated is lawful, and its status restates what it was created
for. -/
theorem lawful_of_failed :
    ∃ records,
      Site.Run (Statuses.named .accessGroup) (fun _ _ => False) {} ⟨"team", "auditors"⟩
        ⟨Auditors.unseen, true, ()⟩ records ⟨Statuses.failedGroup, true, ()⟩ ∧
      Statuses.failedGroup.IsLawful ∧ Statuses.failedGroup.spec = Statuses.describedSpec ∧
        ∀ spec, AppliedOver .accessGroup (records.map (·.trace)) spec ↔
          spec = Auditors.unseen.spec := by
  obtain ⟨createdTrace, hCreated⟩ := Statuses.runs_created
  obtain ⟨failedTrace, hFailed⟩ := Statuses.runs_failed
  have hRun : Site.Run (Statuses.named .accessGroup) (fun _ _ => False) {} ⟨"team", "auditors"⟩
    ⟨Auditors.unseen, true, ()⟩ _
      ⟨Statuses.failedGroup, true, ()⟩ :=
    .pass (.edit (.pass (.start _) (hCreated.mono fun _ _ _ _ h => h.1)) Statuses.describedSpec rfl)
      (hFailed.mono fun _ _ _ _ h => h.1)
  have hLawful := lawful_of_run hRun (fun _ v _ _ hServes => hServes v rfl)
    (forall_mem_concat_iff.2 ⟨List.forall_mem_singleton.2 hCreated, hFailed⟩) rfl
  exact ⟨_, hRun, hLawful.1.1, rfl, hLawful.1.2⟩

end IamReconciler
