import IamReconciler.Proofs.Lifecycle.Applied
import IamReconciler.Proofs.Lifecycle.Ordering
import IamReconciler.Proofs.Lifecycle.Outcomes
import IamReconciler.Proofs.Lifecycle.Replaying

/-!
# Passes that fail again

A write of the store makes the store announce the resource, and the announcement makes the next
pass.  A resource that fails for the same reason again and again must therefore not be written again
and again.  The first pass that fails may write much: the resource as pending, its spec with what
cannot change set back, its finalizer, and in the end the failure.  The next one finds all of this
done (`Steady`, `LeftFailed`).  When all other parties answer as before, it comes to the same
failure by a shorter way, and there it finds that the failure is told already.

The main statement is `repeats_of_failed`.  It holds of every step but that of reading the remote
entity: there the identifier is forgotten, and the next pass has nothing to read.
-/

namespace IamReconciler

open Lifecycle (outcomeOf)

variable {δ : Type} {k : Kind} {settings : Settings} {key : Key} {scope : Scope}
  {h rest trace : List (Exchange Pass.interface)} {s t u v : Site k δ} {x : Except Error Outcome}
  {outcome : Outcome}

/-! ## What is left of a step that failed -/

/-- A resource that is in a failed condition already is not changed when it is moved there. -/
lemma Resource.moveTo_of_isIn {r : Resource k} {c : Condition} (hIn : r.isIn c)
    (hFailed : c.state = .failed) : r.moveTo c = r := by
  have hCondition : r.statusOrBlank.condition = c := of_decide_eq_true hIn
  cases hStatus : r.status with
  | none =>
    rw [Resource.statusOrBlank, hStatus] at hCondition
    rw [← hCondition] at hFailed
    cases hFailed
  | some status =>
    obtain ⟨metadata, spec, _⟩ := r
    cases hStatus
    cases hCondition
    rfl

/-- A resource that was moved to a condition is in it. -/
lemma Resource.isIn_moveTo (r : Resource k) (c : Condition) : (r.moveTo c).isIn c :=
  decide_eq_true rfl

/-- A site is left stored with a resource that differs only in its condition, which is a failure. -/
structure LeftFailed (r : Resource k) (c : Condition) (t : Site k δ) : Prop where
  stored : t.isStored
  failed : c.state = .failed
  moved : t.resource = r.moveTo c

section

variable {C : Circumstances k δ} {r w : Resource k} {c : Condition} {e : Error}

/-- A stored resource is left stored as it is by what is outside of the store. -/
lemma still_of_path (hPath : (C.surroundings key).Path u h v)
    (hOther : ∀ y ∈ h, y.call.isStore = false) :
    v.resource = u.resource ∧ v.isStored = u.isStored := by
  -- accounts and references leave the whole site; the service changes its own part of it
  refine hPath.keeps (J := fun v => v.resource = u.resource ∧ v.isStored = u.isStored) ?_ ⟨rfl, rfl⟩
  rintro ⟨c, answer⟩ hMem v w hStep ⟨hResource, hStored⟩
  refine ⟨(resource_of_step hStep (hOther _ hMem)).trans hResource, Eq.trans ?_ hStored⟩
  cases c with
  | store => exact absurd (hOther _ hMem) Bool.noConfusion
  | openAccount => rw [hStep.1]
  | reference => rw [hStep.1]
  | directory =>
    obtain ⟨d, -, rfl⟩ := hStep
    rfl

/-- A write of the status of a stored resource is carried out where the store does not fail. -/
lemma stated_of_step (hSure : ¬C.storeMayFail) (hStored : u.isStored)
    {answer : Except Error (Resource k)}
    (hStep : C.surroundings key (.store (.updateStatus k w)) answer u v) :
    answer = .ok v.resource ∧ v = u.stated w := by
  cases hStep with
  | stated => exact ⟨rfl, rfl⟩
  | statementRefused _ _ hMay => exact absurd (hMay hStored) hSure
  | statementUnnoticed _ _ _ hMay => exact absurd hMay hSure

/-- A write of metadata and spec of a stored resource is carried out where the store does not
fail. -/
lemma written_of_step (hSure : ¬C.storeMayFail) (hStored : u.isStored)
    {answer : Except Error (Resource k)}
    (hStep : C.surroundings key (.store (.update k w)) answer u v) :
    answer = .ok v.resource ∧ v = u.written w := by
  cases hStep with
  | written => exact ⟨rfl, rfl⟩
  | writeRefused _ _ hMay => exact absurd (hMay hStored) hSure
  | writeUnnoticed _ _ _ hMay => exact absurd hMay hSure

/-- After what is outside of the store, a write of the status of a stored resource is carried
out. -/
lemma stated_of_path (hSure : ¬C.storeMayFail) (hStored : u.isStored)
    (hOther : ∀ y ∈ h, y.call.isStore = false)
    {answer : Except Error (Resource k)}
    (hPath : (C.surroundings key).Path u (h ++ ⟨.store (.updateStatus k w), answer⟩ :: rest) t) :
    ∃ v, answer = .ok v.resource ∧ v.isStored ∧ (C.surroundings key).Path v rest t := by
  obtain ⟨v, hFirst, hLast⟩ := Surroundings.path_append_iff.1 hPath
  obtain ⟨w, hStep, hRest⟩ := Surroundings.path_cons_iff.1 hLast
  have hHere := (still_of_path hFirst hOther).2.trans hStored
  obtain ⟨hAnswer, rfl⟩ := stated_of_step hSure hHere hStep
  exact ⟨_, hAnswer, hHere, hRest⟩

/-- A failure that is told is left, whether it is told now or was before. -/
lemma leftFailed_of_telling (hSure : ¬C.storeMayFail) (hStored : u.isStored)
    (hFailed : c.state = .failed) (hPath : (C.surroundings key).Path u h t)
    (hTold : Lifecycle.Telling u.resource c h) : LeftFailed u.resource c t ∧ outside h = [] := by
  cases hTold with
  | known hIn =>
    obtain rfl := Surroundings.path_nil_iff.1 hPath
    exact ⟨⟨hStored, hFailed, (Resource.moveTo_of_isIn hIn hFailed).symm⟩, rfl⟩
  | told _ answer =>
    obtain ⟨v, hStep, hEnd⟩ := Surroundings.path_cons_iff.1 hPath
    obtain rfl := Surroundings.path_nil_iff.1 hEnd
    obtain ⟨-, rfl⟩ := stated_of_step hSure hStored hStep
    exact ⟨⟨hStored, hFailed, rfl⟩, rfl⟩

/-- A step that calls no store and fails leaves its failure told. -/
lemma leftFailed_of_step (hSure : ¬C.storeMayFail) (hStored : u.isStored)
    (hFailed : c.state = .failed) (hOther : ∀ y ∈ h, y.call.isStore = false)
    (hPath : (C.surroundings key).Path u (h ++ rest) t)
    (hTold : Lifecycle.Telling u.resource c rest) :
    LeftFailed u.resource c t ∧ outside (h ++ rest) = h := by
  obtain ⟨v, hFirst, hLast⟩ := Surroundings.path_append_iff.1 hPath
  obtain ⟨hSame, hStill⟩ := still_of_path hFirst hOther
  rw [← hSame] at hTold
  obtain ⟨hLeft, hNone⟩ := leftFailed_of_telling hSure (hStill.trans hStored) hFailed hLast hTold
  rw [hSame] at hLeft
  refine ⟨hLeft, ?_⟩
  rw [outside_append, hNone, outside_of_isStore hOther, List.append_nil]

/-! ## Steps that fail again -/

namespace Lifecycle

variable {α β : Type}

/-- A failure that is told already is not told again. -/
lemma traces_fail_of_isIn {step : Step} (hIn : r.isIn (.failure k step e)) :
    Pass.Traces (fail r step e : Pass α) [] (.error e) :=
  Pass.traces_ite_iff.2 (.inr ⟨by simpa using hIn, Pass.traces_throw_iff.2 ⟨rfl, rfl⟩⟩)

/-- A step that fails with a failure that is told already ends what it is a part of. -/
lemma traces_orFail_bind_of_error {step : Step} {part : Pass β} {f : β → Pass α}
    (hPart : Pass.Traces part h (.error e)) (hIn : r.isIn (.failure k step e)) :
    Pass.Traces (orFail r step part >>= f) h (.error e) := by
  refine Pass.traces_bind_iff.2 (.inl ⟨e, ?_, rfl⟩)
  exact Pass.traces_attempt_bind_iff.2 ⟨h, .error e, [], hPart, traces_fail_of_isIn hIn,
    (List.append_nil h).symm⟩

/-- A step that succeeds is gone on from. -/
lemma traces_orFail_bind_of_ok {step : Step} {part : Pass β} {f : β → Pass α} {b : β}
    {y : Except Error α} (hPart : Pass.Traces part h (.ok b)) (hRest : Pass.Traces (f b) rest y) :
    Pass.Traces (orFail r step part >>= f) (h ++ rest) y := by
  refine Pass.traces_bind_iff.2 (.inr ⟨h, b, rest, ?_, hRest, rfl⟩)
  exact Pass.traces_attempt_bind_iff.2
    ⟨h, .ok b, [], hPart, Pass.traces_pure_iff.2 ⟨rfl, rfl⟩, (List.append_nil h).symm⟩

/-- An entity that could not be created is not created again, for the same reason. -/
lemma again_of_creating (hSure : ¬C.storeMayFail) (hStored : u.isStored)
    (hPath : (C.surroundings key).Path u h t) (hCreating : Creating settings scope u.resource h x)
    (hFails : outcomeOf x = .failure e) :
    ∃ c, LeftFailed u.resource c t ∧
      Pass.Traces (create settings scope t.resource) (outside h) x := by
  cases hCreating with
  | unresolved hResolve hTold =>
    obtain ⟨hLeft, hOutside⟩ :=
      leftFailed_of_step hSure hStored rfl (isStore_of_createRequest hResolve) hPath hTold
    refine ⟨_, hLeft, ?_⟩
    rw [hOutside, hLeft.moved]
    exact traces_orFail_bind_of_error hResolve (Resource.isIn_moveTo _ _)
  | @uncreated first second told request _ hResolve hCreate hTold =>
    -- resolving and creating are both outside of the store, and repeated as one stretch
    have hOther :=
      List.forall_mem_append.2 ⟨isStore_of_createRequest hResolve, isStore_of_create hCreate⟩
    rw [← List.append_assoc] at hPath ⊢
    obtain ⟨hLeft, hOutside⟩ := leftFailed_of_step hSure hStored rfl hOther hPath hTold
    refine ⟨_, hLeft, ?_⟩
    rw [hOutside, hLeft.moved]
    exact traces_orFail_bind_of_ok hResolve
      (traces_orFail_bind_of_error hCreate (Resource.isIn_moveTo _ _))
  | recorded => cases hFails
  | unrecorded hResolve hCreate =>
    -- a store that does not fail has taken the record
    have hOther :=
      List.forall_mem_append.2 ⟨isStore_of_createRequest hResolve, isStore_of_create hCreate⟩
    rw [← List.append_assoc] at hPath
    obtain ⟨v, hTaken, -⟩ := stated_of_path hSure hStored hOther hPath
    cases hTaken

/-- An entity that could not be brought in step, though it was read, is not brought in step the next
time, for the same reason. -/
lemma again_of_syncing (hSure : ¬C.storeMayFail) (hStored : u.isStored)
    (hPath : (C.surroundings key).Path u h t) (hSyncing : Syncing settings scope u.resource h x)
    (hFails : outcomeOf x = .failure e) :
    ∃ c, LeftFailed u.resource c t ∧
      Pass.Traces (sync settings scope t.resource) (outside h) x := by
  cases hSyncing with
  | forgotten hFetch answer =>
    -- once the forgotten identifier is stored, the outcome asks for another pass
    obtain ⟨v, rfl, -⟩ := stated_of_path hSure hStored (isStore_of_fetch hFetch) hPath
    cases hFails
  | unresolved hFetch hResolve hTold =>
    rw [← List.append_assoc] at hPath ⊢
    obtain ⟨hLeft, hOutside⟩ :=
      leftFailed_of_step hSure hStored rfl (isStore_of_desired hFetch hResolve) hPath hTold
    refine ⟨_, hLeft, ?_⟩
    rw [hOutside, hLeft.moved]
    refine Pass.traces_attempt_bind_iff.2 ⟨_, _, _, hFetch, ?_, rfl⟩
    exact traces_orFail_bind_of_error hResolve (Resource.isIn_moveTo _ _)
  | agreed => cases hFails
  | synchronized hFetch hResolve _ _ answer =>
    rw [← List.append_assoc] at hPath
    obtain ⟨v, rfl, -⟩ := stated_of_path hSure hStored (isStore_of_desired hFetch hResolve) hPath
    cases hFails
  | @unchanged first second third told found desired e' hFetch hResolve hNeeds hUpdate hTold =>
    have hOther :=
      List.forall_mem_append.2 ⟨isStore_of_desired hFetch hResolve, isStore_of_update hUpdate⟩
    rw [← List.append_assoc, ← List.append_assoc] at hPath ⊢
    obtain ⟨hLeft, hOutside⟩ := leftFailed_of_step hSure hStored rfl hOther hPath hTold
    refine ⟨_, hLeft, ?_⟩
    rw [hOutside, hLeft.moved, List.append_assoc]
    have hChange : Pass.Traces
        (update scope (u.resource.moveTo (.failure k .update e')) desired found.1 found.2) third
        (.error e') :=
      traces_orFail_bind_of_error hUpdate (Resource.isIn_moveTo _ _)
    -- whether an update is needed does not depend on the condition
    refine Pass.traces_attempt_bind_iff.2 ⟨_, _, _, hFetch, traces_orFail_bind_of_ok hResolve ?_,
      rfl⟩
    exact Pass.traces_ite_iff.2 (.inl ⟨hNeeds, Pass.traces_bind_iff.2 (.inl ⟨_, hChange, rfl⟩)⟩)
  | changed hFetch hResolve _ hUpdate answer =>
    have hOther :=
      List.forall_mem_append.2 ⟨isStore_of_desired hFetch hResolve, isStore_of_update hUpdate⟩
    rw [← List.append_assoc, ← List.append_assoc] at hPath
    obtain ⟨v, rfl, -⟩ := stated_of_path hSure hStored hOther hPath
    cases hFails

/-- A resource whose pass let it go where the store does not fail did not fail. -/
lemma succeeds_of_release (hSure : ¬C.storeMayFail) (hStored : u.isStored)
    (hPath : (C.surroundings key).Path u h t) (hRelease : Pass.Traces (release r) h x) :
    outcomeOf x ≠ .failure e := by
  rcases traces_release hRelease with ⟨-, answer, rfl, rfl⟩ | ⟨-, -, rfl⟩
  · obtain ⟨v, hStep, -⟩ := Surroundings.path_cons_iff.1 hPath
    obtain ⟨rfl, -⟩ := written_of_step hSure hStored hStep
    exact nofun
  · exact nofun

/-- An entity that could not be deleted is not deleted the next time, for the same reason. -/
lemma again_of_deleting (hSure : ¬C.storeMayFail) (hStored : u.isStored)
    (hPath : (C.surroundings key).Path u h t) (hDeleting : Deleting u.resource h x)
    (hFails : outcomeOf x = .failure e) :
    ∃ c, LeftFailed u.resource c t ∧ Pass.Traces (delete t.resource) (outside h) x := by
  cases hDeleting with
  | @kept c' e' told hRecorded hDeletes hKept hTold =>
    have hOther : ∀ y ∈ [(⟨.directory c', .error e'⟩ : Exchange Pass.interface)],
        y.call.isStore = false :=
      List.forall_mem_singleton.2 rfl
    obtain ⟨hLeft, hOutside⟩ :=
      leftFailed_of_step (h := [⟨.directory c', .error e'⟩]) hSure hStored rfl hOther hPath hTold
    refine ⟨_, hLeft, ?_⟩
    rw [List.singleton_append] at hOutside
    rw [hOutside, hLeft.moved]
    refine Pass.traces_ite_iff.2 (.inl ⟨hRecorded, Pass.traces_bind_iff.2 (.inl ⟨_, ?_, rfl⟩)⟩)
    refine Pass.traces_lift_bind_iff.2 ⟨_, _, [], k.traces_delete hDeletes, ?_, rfl⟩
    exact Pass.traces_ite_iff.2 (.inr ⟨hKept, traces_fail_of_isIn (Resource.isIn_moveTo _ _)⟩)
  | unstated hRemoving =>
    obtain ⟨v, hTaken, -⟩ := stated_of_path hSure hStored hRemoving.isStore hPath
    cases hTaken
  | stated hRemoving hRelease =>
    obtain ⟨v, -, hHere, hRest⟩ := stated_of_path hSure hStored hRemoving.isStore hPath
    exact absurd hFails (succeeds_of_release hSure hHere hRest hRelease)

end Lifecycle

/-! ## What is done before a step fails -/

/-- A failure that is told leaves a steady resource steady. -/
lemma LeftFailed.steady (hLeft : LeftFailed u.resource c t) (hSteady : Steady u) : Steady t := by
  refine ⟨hLeft.stored, ?_, ?_, ?_⟩
  · rw [Site.isDeleting, hLeft.moved]
    exact hSteady.living
  · rw [hLeft.moved]
    exact hSteady.wellFormed
  · rw [hLeft.moved]
    exact hSteady.unaltered

/-- A failure that is told leaves the finalizer. -/
lemma LeftFailed.isHeld (hLeft : LeftFailed u.resource c t) (hHeld : u.isHeld) : t.isHeld := by
  rw [Site.isHeld, hLeft.moved]
  exact hHeld

/-- A resource in a failed state was seen by a pass. -/
lemma Resource.not_isUnset_of_failed (hFailed : r.state = .failed) : ¬r.isUnset := by
  intro hUnset
  have hBlank : r.statusOrBlank = Status.blank k := of_decide_eq_true hUnset
  rw [Resource.state, hBlank] at hFailed
  cases hFailed

/-- A failure that is told leaves a resource that a pass has seen. -/
lemma LeftFailed.not_isUnset (hLeft : LeftFailed r c t) : ¬t.resource.isUnset := by
  refine Resource.not_isUnset_of_failed ?_
  rw [hLeft.moved, Resource.state_moveTo, hLeft.failed]

namespace Lifecycle

variable {y : Except Error (Resource k)}

/-- A resource is restored where the store does not fail, and is steady then. -/
lemma restored_surely (hSure : ¬C.storeMayFail) (hStored : u.isStored) (hLiving : ¬u.isDeleting)
    (hSound : u.resource.statusOrBlank.IsSound) (hValid : u.resource.validate = .ok ())
    (hPath : (C.surroundings key).Path u h v) (hRestore : Pass.Traces (restore u.resource) h y) :
    y = .ok v.resource ∧ Steady v ∧ outside h = [] := by
  have hTaken : y = .ok v.resource ∧ outside h = [] := by
    rcases traces_restore_iff.1 hRestore with ⟨-, rfl⟩ | ⟨-, rfl, rfl⟩
    · obtain ⟨_, hStep, hEnd⟩ := Surroundings.path_cons_iff.1 hPath
      obtain rfl := Surroundings.path_nil_iff.1 hEnd
      obtain ⟨rfl, -⟩ := written_of_step hSure hStored hStep
      exact ⟨rfl, rfl⟩
    · obtain rfl := Surroundings.path_nil_iff.1 hPath
      exact ⟨rfl, rfl⟩
  obtain ⟨rfl, hNone⟩ := hTaken
  exact ⟨rfl, steady_of_restore hStored hLiving hSound hValid hPath hRestore, hNone⟩

/-- A steady resource is given the finalizer where the store does not fail, and is steady then. -/
lemma held_surely (hSure : ¬C.storeMayFail) (hSteady : Steady u)
    (hPath : (C.surroundings key).Path u h v) (hHold : Pass.Traces (hold u.resource) h y) :
    y = .ok v.resource ∧ Steady v ∧ v.isHeld ∧ outside h = [] := by
  have hTaken : y = .ok v.resource ∧ outside h = [] := by
    rcases traces_hold_iff.1 hHold with ⟨-, rfl, rfl⟩ | ⟨-, rfl⟩
    · obtain rfl := Surroundings.path_nil_iff.1 hPath
      exact ⟨rfl, rfl⟩
    · obtain ⟨_, hStep, hEnd⟩ := Surroundings.path_cons_iff.1 hPath
      obtain rfl := Surroundings.path_nil_iff.1 hEnd
      obtain ⟨rfl, -⟩ := written_of_step hSure hSteady.stored hStep
      exact ⟨rfl, rfl⟩
  obtain ⟨rfl, hNone⟩ := hTaken
  obtain ⟨hSteady', hHeld⟩ := steady_of_hold hSteady hPath hHold
  exact ⟨rfl, hSteady', hHeld, hNone⟩

/-- A resource is greeted where the store does not fail, which changes nothing but its condition. -/
lemma greeted_of_greet (hSure : ¬C.storeMayFail) (hStored : u.isStored)
    (hPath : (C.surroundings key).Path u h v) (hGreet : Pass.Traces (greet u.resource) h y) :
    y = .ok v.resource ∧ v.isStored ∧ v.resource.metadata = u.resource.metadata ∧
      v.resource.spec = u.resource.spec ∧ u.resource.SameRecord v.resource ∧ outside h = [] := by
  rcases traces_greet_iff.1 hGreet with ⟨-, rfl⟩ | ⟨-, rfl, rfl⟩
  · obtain ⟨_, hStep, hEnd⟩ := Surroundings.path_cons_iff.1 hPath
    obtain rfl := Surroundings.path_nil_iff.1 hEnd
    obtain ⟨rfl, rfl⟩ := stated_of_step hSure hStored hStep
    exact ⟨rfl, hStored, rfl, rfl, ⟨.processing, rfl⟩, rfl⟩
  · obtain rfl := Surroundings.path_nil_iff.1 hPath
    exact ⟨rfl, hStored, rfl, rfl, Resource.sameRecord_of_status rfl, rfl⟩

/-! ## Passes that fail again -/

/-- A pass over a steady resource opens the account first. -/
lemma passLiving_of_steady (hSteady : Steady t) :
    passLiving settings key t.resource = (do
      let session ← orFail t.resource .account (Pass.openAccount key.ns)
      let held ← hold t.resource
      let scope : Scope := ⟨session, key.ns⟩
      if held.isRecorded then sync settings scope held else create settings scope held) := by
  have hRestore : restore t.resource = pure t.resource := if_neg hSteady.unaltered
  unfold passLiving
  rw [hSteady.wellFormed, hRestore, pure_bind]

/-- A pass over a steady resource with the finalizer goes on with the account. -/
lemma traces_passLiving_of_steady (hSteady : Steady t) (hHeld : t.isHeld) {session : Session}
    (hRest : Pass.Traces (if t.resource.isRecorded then sync settings ⟨session, key.ns⟩ t.resource
      else create settings ⟨session, key.ns⟩ t.resource) h x) :
    Pass.Traces (passLiving settings key t.resource)
      (⟨.openAccount key.ns, .ok session⟩ :: h) x := by
  have hHold : hold t.resource = pure t.resource := if_pos hHeld
  rw [passLiving_of_steady hSteady, hHold]
  refine traces_orFail_bind_of_ok (h := [_]) (Pass.traces_openAccount_iff.2 rfl) ?_
  rwa [pure_bind]

/-- A pass over a steady resource whose account could not be opened fails again. -/
lemma traces_passLiving_of_error (hSteady : Steady t)
    (hIn : t.resource.isIn (.failure k .account e)) :
    Pass.Traces (passLiving settings key t.resource) [⟨.openAccount key.ns, .error e⟩]
      (.error e) := by
  rw [passLiving_of_steady hSteady]
  exact traces_orFail_bind_of_error (Pass.traces_openAccount_iff.2 rfl) hIn

/-- A pass has left a resource that is not being deleted, and the next pass over it may fail as the
last one. -/
structure FailsAgain (settings : Settings) (key : Key) (h : List (Exchange Pass.interface))
    (x : Except Error Outcome) (t : Site k δ) : Prop where
  stored : t.isStored
  living : ¬t.isDeleting
  seen : ¬t.resource.isUnset
  again : Pass.Traces (passLiving settings key t.resource) (outside h) x

/-- The restored resource is stored when the account is opened. -/
lemma restored_of_path (hSure : ¬C.storeMayFail) (hStored : u.isStored) (hLiving : ¬u.isDeleting)
    (hSound : u.resource.statusOrBlank.IsSound) (hValid : u.resource.validate = .ok ())
    {restored : Resource k} (hRestore : Pass.Traces (restore u.resource) h (.ok restored))
    {answer : Except Error Session}
    (hPath : (C.surroundings key).Path u (h ++ ⟨.openAccount key.ns, answer⟩ :: rest) t) :
    ∃ v, v.resource = restored ∧ Steady v ∧ (C.surroundings key).Path v rest t ∧
      outside h = [] := by
  obtain ⟨v, hFirst, hRest⟩ := Surroundings.path_append_iff.1 hPath
  obtain ⟨w, ⟨rfl, -⟩, hLast⟩ := Surroundings.path_cons_iff.1 hRest
  obtain ⟨hRestored, hSteady, hNone⟩ :=
    restored_surely hSure hStored hLiving hSound hValid hFirst hRestore
  cases hRestored
  exact ⟨w, rfl, hSteady, hLast, hNone⟩

/-- The resource for which a pass is prepared is stored, with its finalizer. -/
lemma prepared_of_path (hSure : ¬C.storeMayFail) (hStored : u.isStored) (hLiving : ¬u.isDeleting)
    (hSound : u.resource.statusOrBlank.IsSound) {session : Session} {held : Resource k}
    (hPrepared : Preparing key u.resource h session held)
    (hPath : (C.surroundings key).Path u (h ++ rest) t) :
    ∃ v, v.resource = held ∧ Steady v ∧ v.isHeld ∧ (C.surroundings key).Path v rest t ∧
      outside h = [⟨.openAccount key.ns, .ok session⟩] := by
  obtain ⟨hValid, hRestore, hHold⟩ := hPrepared
  rw [List.append_assoc, List.cons_append] at hPath
  obtain ⟨v, rfl, hSteady, hLast, hNone⟩ :=
    restored_of_path hSure hStored hLiving hSound hValid hRestore hPath
  obtain ⟨w, hFirst, hRest⟩ := Surroundings.path_append_iff.1 hLast
  obtain ⟨hHeld, hSteady', hHas, hNone'⟩ := held_surely hSure hSteady hFirst hHold
  cases hHeld
  refine ⟨w, rfl, hSteady', hHas, hRest, ?_⟩
  rw [outside_append, outside_openAccount, hNone, hNone', List.nil_append]

/-- What has failed for a prepared resource fails again when the next pass finds it prepared. -/
lemma failsAgain_of_prepared (hSteady : Steady u) (hHeld : u.isHeld) {session : Session}
    (hOpened : outside h = [⟨.openAccount key.ns, .ok session⟩])
    (hLeft : LeftFailed u.resource c t)
    (hAgain : Pass.Traces (if u.resource.isRecorded then sync settings ⟨session, key.ns⟩ t.resource
      else create settings ⟨session, key.ns⟩ t.resource) (outside rest) x) :
    FailsAgain settings key (h ++ rest) x t := by
  have hSteady' := hLeft.steady hSteady
  refine ⟨hSteady'.stored, hSteady'.living, hLeft.not_isUnset, ?_⟩
  rw [outside_append, hOpened, List.singleton_append]
  refine traces_passLiving_of_steady hSteady' (hLeft.isHeld hHeld) ?_
  -- telling a failure keeps the identifier, so that the next pass takes the same course
  have hSame : t.resource.isRecorded = u.resource.isRecorded := by
    rw [hLeft.moved]
    rfl
  rwa [hSame]

/-- A pass over a resource that is not being deleted fails again as it has failed. -/
lemma failsAgain_of_living (hSure : ¬C.storeMayFail) (hStored : u.isStored)
    (hLiving : ¬u.isDeleting) (hSound : u.resource.statusOrBlank.IsSound)
    (hPath : (C.surroundings key).Path u h t) (hCourse : Living settings key u.resource h x)
    (hFails : outcomeOf x = .failure e) : FailsAgain settings key h x t := by
  -- what only a failing store can stop is done; the account and the service remain
  cases hCourse with
  | refused _ hRefuse =>
    rcases traces_refuse hRefuse with ⟨-, answer, rfl, rfl⟩ | ⟨-, -, rfl⟩
    · obtain ⟨v, hStep, -⟩ := Surroundings.path_cons_iff.1 hPath
      obtain ⟨rfl, -⟩ := stated_of_step hSure hStored hStep
      cases hFails
    · cases hFails
  | unrestored hValid hRestore =>
    obtain ⟨hTaken, -⟩ := restored_surely hSure hStored hLiving hSound hValid hPath hRestore
    cases hTaken
  | unopened hValid hRestore hTold =>
    obtain ⟨v, rfl, hSteady, hLast, hNone⟩ :=
      restored_of_path hSure hStored hLiving hSound hValid hRestore hPath
    obtain ⟨hLeft, hNone'⟩ := leftFailed_of_telling hSure hSteady.stored rfl hLast hTold
    have hSteady' := hLeft.steady hSteady
    refine ⟨hSteady'.stored, hSteady'.living, hLeft.not_isUnset, ?_⟩
    rw [outside_append, outside_openAccount, hNone, hNone', List.nil_append]
    refine traces_passLiving_of_error hSteady' ?_
    rw [hLeft.moved]
    exact Resource.isIn_moveTo _ _
  | unheld hValid hRestore hHold =>
    obtain ⟨v, rfl, hSteady, hLast, -⟩ :=
      restored_of_path hSure hStored hLiving hSound hValid hRestore hPath
    obtain ⟨hTaken, -⟩ := held_surely hSure hSteady hLast hHold
    cases hTaken
  | synced hPrepared hRecorded hSync =>
    obtain ⟨v, rfl, hSteady, hHeld, hLast, hOpened⟩ :=
      prepared_of_path hSure hStored hLiving hSound hPrepared hPath
    obtain ⟨c, hLeft, hAgain⟩ := again_of_syncing hSure hSteady.stored hLast hSync hFails
    refine failsAgain_of_prepared hSteady hHeld hOpened hLeft ?_
    rwa [if_pos hRecorded]
  | created hPrepared hUnrecorded hCreate =>
    obtain ⟨v, rfl, hSteady, hHeld, hLast, hOpened⟩ :=
      prepared_of_path hSure hStored hLiving hSound hPrepared hPath
    obtain ⟨c, hLeft, hAgain⟩ := again_of_creating hSure hSteady.stored hLast hCreate hFails
    refine failsAgain_of_prepared hSteady hHeld hOpened hLeft ?_
    rwa [if_neg hUnrecorded]

/-- A pass over a resource that is being deleted fails again as it has failed. -/
lemma again_of_dying (hSure : ¬C.storeMayFail) (hStored : u.isStored)
    (hPath : (C.surroundings key).Path u h t) (hCourse : Dying key u.resource h x)
    (hFails : outcomeOf x = .failure e) :
    ∃ c, LeftFailed u.resource c t ∧ Pass.Traces (passDeleting key t.resource) (outside h) x := by
  cases hCourse with
  | abandoned _ hRelease => exact absurd hFails (succeeds_of_release hSure hStored hPath hRelease)
  | unopened _ _ hRelease =>
    -- an account that cannot be opened is no failure of a deletion
    obtain ⟨v, ⟨rfl, -⟩, hRest⟩ := Surroundings.path_cons_iff.1 hPath
    exact absurd hFails (succeeds_of_release hSure hStored hRest hRelease)
  | opened hWanted session hDelete =>
    obtain ⟨v, ⟨rfl, -⟩, hRest⟩ := Surroundings.path_cons_iff.1 hPath
    obtain ⟨c, hLeft, hAgain⟩ := again_of_deleting hSure hStored hRest hDelete hFails
    refine ⟨c, hLeft, ?_⟩
    refine Pass.traces_ite_iff.2 (.inr ⟨by rw [hLeft.moved]; exact hWanted, ?_⟩)
    have hOpen : Pass.Traces (Pass.openAccount key.ns) [⟨.openAccount key.ns, .ok session⟩]
        (.ok session) :=
      Pass.traces_openAccount_iff.2 rfl
    exact Pass.traces_attempt_bind_iff.2 ⟨_, .ok session, _, hOpen, hAgain, rfl⟩

/-- A pass over a resource that was seen before goes on with it as it is. -/
lemma traces_pass_of_seen (hSeen : ¬r.isUnset)
    (hHeld : r.metadata.isDeleting → r.metadata.finalizerSet.has k.finalizer)
    (hRest : Pass.Traces
      (if r.metadata.isDeleting then passDeleting key r else passLiving settings key r) h x) :
    Pass.Traces (pass settings k key) (⟨.store (.get k key), .ok (some r)⟩ :: h) x := by
  have hGreet : greet r = pure r := if_neg hSeen
  refine Pass.traces_bind_iff.2 (.inr ⟨[_], some r, h, Pass.traces_fetch_iff.2 rfl, ?_, rfl⟩)
  dsimp only
  rw [hGreet, pure_bind, pure_bind]
  by_cases hDeleting : r.metadata.isDeleting
  · rw [if_pos hDeleting] at hRest ⊢
    rwa [if_pos (hHeld hDeleting)]
  · rwa [if_neg hDeleting] at hRest ⊢

/-- A pass over a stored resource reads it and greets it, which changes nothing but its
condition. -/
lemma greeted_of_path (hSure : ¬C.storeMayFail) (hStored : s.isStored)
    (hPath : (C.surroundings key).Path s (⟨.store (.get k key), .ok (some r)⟩ :: (h ++ rest)) t)
    (hGreet : Pass.Traces (greet r) h (.ok w)) :
    r = s.resource ∧ ∃ v : Site k δ, v.resource = w ∧ v.isStored ∧ w.metadata = r.metadata ∧
      w.spec = r.spec ∧ r.SameRecord w ∧ (C.surroundings key).Path v rest t ∧ outside h = [] := by
  obtain ⟨rfl, hRest⟩ := found_of_path hPath
  obtain ⟨v, hFirst, hLast⟩ := Surroundings.path_append_iff.1 hRest
  obtain ⟨hGreeted, hStill, hMetadata, hSpec, hSame, hNone⟩ :=
    greeted_of_greet hSure hStored hFirst hGreet
  cases hGreeted
  exact ⟨rfl, v, rfl, hStill, hMetadata, hSpec, hSame, hLast, hNone⟩

/-- A pass that has failed fails again. -/
lemma again_of_passing (hSure : ¬C.storeMayFail) (hStored : s.isStored)
    (hSound : s.resource.statusOrBlank.IsSound) (hPath : (C.surroundings key).Path s h t)
    (hPassing : Passing settings k key h x) (hFails : outcomeOf x = .failure e) :
    t.isStored ∧
      Pass.Traces (pass settings k key)
        (⟨.store (.get k key), .ok (some t.resource)⟩ :: outside h) x := by
  cases hPassing with
  | unread =>
    obtain ⟨u, hStep, -⟩ := Surroundings.path_cons_iff.1 hPath
    cases hStep with
    | unread _ hMay => exact absurd hMay hSure
  | absent => cases hFails
  | lost => cases hFails
  | ungreeted _ hGreet =>
    obtain ⟨rfl, hRest⟩ := found_of_path hPath
    obtain ⟨hTaken, -⟩ := greeted_of_greet hSure hStored hRest hGreet
    cases hTaken
  | dying hDeleting hHeld hGreet hDying =>
    obtain ⟨rfl, v, rfl, hStill, hMetadata, -, -, hLast, hNone⟩ :=
      greeted_of_path hSure hStored hPath hGreet
    obtain ⟨c, hLeft, hAgain⟩ := again_of_dying hSure hStill hLast hDying hFails
    -- only statuses were written, so that the next pass finds the deletion and the finalizer
    have hSame : t.resource.metadata = s.resource.metadata := by
      rw [hLeft.moved, Resource.metadata_moveTo, hMetadata]
    refine ⟨hLeft.stored, ?_⟩
    rw [outside_store, outside_append, hNone, List.nil_append]
    refine traces_pass_of_seen hLeft.not_isUnset (fun _ => by rwa [hSame]) ?_
    rwa [hSame, if_pos hDeleting]
  | living hLiving hGreet hCourse =>
    obtain ⟨rfl, v, rfl, hStill, hMetadata, -, ⟨c, hSame⟩, hLast, hNone⟩ :=
      greeted_of_path hSure hStored hPath hGreet
    have hSound' : v.resource.statusOrBlank.IsSound := by
      rw [hSame]
      exact hSound
    have hLiving' : ¬v.isDeleting := by
      rwa [Site.isDeleting, hMetadata]
    have hAgain := failsAgain_of_living hSure hStill hLiving' hSound' hLast hCourse hFails
    have hNot : ¬t.resource.metadata.isDeleting := hAgain.living
    refine ⟨hAgain.stored, ?_⟩
    rw [outside_store, outside_append, hNone, List.nil_append]
    refine traces_pass_of_seen hAgain.seen (fun hDeleting => absurd hDeleting hNot) ?_
    rw [if_neg hNot]
    exact hAgain.again

/-! ## Malformed resources -/

/-- A malformed resource that has failed is refused without a write. -/
lemma traces_refuse_of_failed (hFailed : r.state = .failed) :
    Pass.Traces (refuse settings r e) [] (.ok (.requeue settings.syncPeriod)) :=
  Pass.traces_ite_iff.2 (.inr ⟨not_not_intro hFailed, Pass.traces_pure_iff.2 ⟨rfl, rfl⟩⟩)

/-- A malformed resource that is refused is left failed, and another pass is due after the usual
time. -/
lemma failed_of_refuse (hSure : ¬C.storeMayFail) (hStored : u.isStored)
    (hPath : (C.surroundings key).Path u h t)
    (hRefuse : Pass.Traces (refuse settings u.resource e) h x) :
    x = .ok (.requeue settings.syncPeriod) ∧ t.isStored ∧
      t.resource.metadata = u.resource.metadata ∧ t.resource.spec = u.resource.spec ∧
      t.resource.state = .failed ∧ outside h = [] := by
  rcases traces_refuse hRefuse with ⟨-, answer, rfl, rfl⟩ | ⟨hFailed, rfl, rfl⟩
  · obtain ⟨v, hStep, hEnd⟩ := Surroundings.path_cons_iff.1 hPath
    obtain rfl := Surroundings.path_nil_iff.1 hEnd
    obtain ⟨rfl, rfl⟩ := stated_of_step hSure hStored hStep
    exact ⟨rfl, hStored, rfl, rfl, rfl, rfl⟩
  · obtain rfl := Surroundings.path_nil_iff.1 hPath
    exact ⟨rfl, hStored, rfl, rfl, hFailed, rfl⟩

/-- A pass over a malformed resource that is not being deleted is due again after the usual time,
and comes to the same end without a write. -/
lemma again_of_malformed (hSure : ¬C.storeMayFail) (hStored : s.isStored) (hLiving : ¬s.isDeleting)
    (hMalformed : s.resource.validate ≠ .ok ()) (hPath : (C.surroundings key).Path s h t)
    (hPassing : Passing settings k key h x) :
    x = .ok (.requeue settings.syncPeriod) ∧ t.isStored ∧
      Pass.Traces (pass settings k key)
        (⟨.store (.get k key), .ok (some t.resource)⟩ :: outside h) x := by
  cases hPassing.attending hPath hStored hLiving with
  | unread =>
    obtain ⟨u, hStep, -⟩ := Surroundings.path_cons_iff.1 hPath
    cases hStep with
    | unread _ hMay => exact absurd hMay hSure
  | ungreeted hGreet =>
    obtain ⟨hTaken, -⟩ := greeted_of_greet hSure hStored (found_of_path hPath).2 hGreet
    cases hTaken
  | living hGreet hCourse =>
    obtain ⟨-, v, rfl, hStill, hMetadata, hSpec, -, hLast, hNone⟩ :=
      greeted_of_path hSure hStored hPath hGreet
    have hBroken : v.resource.validate ≠ .ok () := by
      rwa [Resource.validate, hSpec]
    -- every course but the refusal is of a well-formed resource
    cases hCourse with
    | @refused _ e _ hError hRefuse =>
      obtain ⟨rfl, hStored', hMetadata', hSpec', hFailed, hNone'⟩ :=
        failed_of_refuse hSure hStill hLast hRefuse
      have hNot : ¬t.resource.metadata.isDeleting := by
        rwa [hMetadata', hMetadata]
      refine ⟨rfl, hStored', ?_⟩
      rw [outside_store, outside_append, hNone, hNone', List.nil_append]
      refine traces_pass_of_seen (Resource.not_isUnset_of_failed hFailed) (fun hDeleting =>
        absurd hDeleting hNot) ?_
      have hError' : t.resource.validate = .error e := by
        rwa [Resource.validate, hSpec']
      rw [if_neg hNot, passLiving, hError']
      exact traces_refuse_of_failed hFailed
    | unrestored hValid => exact absurd hValid hBroken
    | unopened hValid => exact absurd hValid hBroken
    | unheld hValid => exact absurd hValid hBroken
    | synced hPrepared =>
      obtain ⟨hValid, -, -⟩ := hPrepared
      exact absurd hValid hBroken
    | created hPrepared =>
      obtain ⟨hValid, -, -⟩ := hPrepared
      exact absurd hValid hBroken

end Lifecycle

end

/-! ## Passes that are repeated -/

/-- A pass with an error that has not given up the entity fails with that error. -/
lemma Ends.eq_failure {e : Error} (hEnds : Ends settings k key h outcome)
    (hError : outcome.error = some e) (hRead : ¬GivesUp k e h) : outcome = .failure e := by
  cases hEnds with
  | unread =>
    cases hError
    rfl
  | absent => cases hError
  | living _ hPersists =>
    cases hPersists with
    | failed =>
      cases hError
      rfl
    | due => cases hError
    | unread hGivesUp =>
      cases hError
      exact absurd hGivesUp hRead
  | dying _ hConcludes =>
    cases hConcludes with
    | failed =>
      cases hError
      rfl
    | finished => cases hError

/-- A pass that gives up the entity has made a call that reads one. -/
lemma GivesUp.exists_reads {e : Error} (hGivesUp : GivesUp k e h) :
    ∃ y ∈ h, y.call.reads? ≠ none := by
  obtain ⟨-, hUnread⟩ := hGivesUp
  refine ⟨_, List.mem_append_right _ List.mem_cons_self, ?_⟩
  cases hUnread with
  | read hReads =>
    rw [Pass.Call.reads?, hReads]
    exact Option.some_ne_none _

/-- A resource of any kind has a status that is absent or was left by earlier passes, over any specs
and in any circumstances.  The store does not fail.  When a pass over it fails in any step but that
of reading the remote entity, then the next pass that is answered as it was fails with the same
error and writes nothing.  When the resource is malformed and not being deleted, another pass is due
after the usual time, and that one writes nothing either and is due again. -/
theorem repeats_of_failed {δ' : Type} {C : Circumstances k δ'} {C' : Circumstances k δ}
    {drifts : δ' → δ' → Prop} {earlier : Settings} {start past : Site k δ'}
    {records : List (PassRecord k δ')} (hPast : Site.Run C drifts earlier key start records past)
    (hUnseen : start.resource.status = none) (hLeft : s.resource.status = past.resource.status)
    (hStored : s.isStored) (hSure : ¬C'.storeMayFail)
    (hPass : (reconcile settings k key).Runs (C'.surroundings key) s trace outcome t) :
    (∀ e, outcome.error = some e → ¬GivesUp k e trace → Repeats settings key trace outcome t) ∧
      (¬s.isDeleting → s.resource.validate ≠ .ok () →
        outcome = .requeue settings.syncPeriod ∧ Repeats settings key trace outcome t) := by
  have hSound : s.resource.statusOrBlank.IsSound := by
    rw [Resource.statusOrBlank, hLeft]
    exact hPast.isSound hUnseen
  obtain ⟨hTrace, hPath⟩ := Program.runs_iff.1 hPass
  obtain ⟨x, hPassing, rfl⟩ := Lifecycle.passing_of_reconcile hTrace
  refine ⟨fun e hError hRead => ?_, fun hLiving hMalformed => ?_⟩
  · have hFails := (ends_of_passing hPassing).eq_failure hError hRead
    obtain ⟨hStored', hAgain⟩ :=
      Lifecycle.again_of_passing hSure hStored hSound hPath hPassing hFails
    exact repeats_of_traces hStored' hAgain
  · obtain ⟨rfl, hStored', hAgain⟩ :=
      Lifecycle.again_of_malformed hSure hStored hLiving hMalformed hPath hPassing
    exact ⟨rfl, repeats_of_traces hStored' hAgain⟩

/-! ## A group whose name is taken -/

namespace Repetition

/-- A store that does not fail, where all else may be answered in every way. -/
def answered : Circumstances .accessGroup Unit :=
  ⟨False, fun _ _ => True, fun _ _ => True, fun _ _ _ _ => True⟩

/-- The site of a group. -/
def site (r : Resource .accessGroup) : Site .accessGroup Unit := ⟨r, true, ()⟩

/-- Another group has the name. -/
def taken : RemoteError := .conflict "the name is taken"

/-- The failure of creating the group. -/
def uncreated : Error := .remote "create access group" taken

/-- The group after its failure was told. -/
def failedGroup : Resource .accessGroup :=
  Auditors.held.moveTo (.failure .accessGroup .create uncreated)

/-- The first pass over the group. -/
def takenTrace : List (Exchange Pass.interface) :=
  [ ⟨.store (.get .accessGroup ⟨"team", "auditors"⟩), .ok (some Auditors.unseen)⟩,
    ⟨.store (.updateStatus .accessGroup Auditors.pending), .ok Auditors.pending⟩,
    ⟨.openAccount "team", .ok ⟨"account"⟩⟩,
    ⟨.store (.update .accessGroup Auditors.held), .ok Auditors.held⟩,
    ⟨.directory (.findGroups "auditors" "account"), .ok []⟩,
    ⟨.directory (.createGroup (AccessGroups.request Auditors.unseen.spec) "account"), .error taken⟩,
    ⟨.store (.updateStatus .accessGroup failedGroup), .ok failedGroup⟩ ]

/-- The pass that fails, after which the failure is told. -/
lemma runs_taken :
    (reconcile {} .accessGroup ⟨"team", "auditors"⟩).Runs
      (answered.surroundings ⟨"team", "auditors"⟩) (site Auditors.unseen) takenTrace
      (.failure uncreated) (site failedGroup) :=
  .ask (t := site Auditors.unseen) (Site.StoreAnswers.found (s := site Auditors.unseen) rfl) <|
    .ask (t := site Auditors.pending)
      (Site.StoreAnswers.stated (s := site Auditors.unseen) Auditors.pending rfl) <|
    .ask (t := site Auditors.pending) ⟨rfl, trivial⟩ <|
    .ask (t := site Auditors.held)
      (Site.StoreAnswers.written (s := site Auditors.pending) Auditors.held rfl) <|
    .ask (t := site Auditors.held) ⟨(), trivial, rfl⟩ <|
    .ask (t := site Auditors.held) ⟨(), trivial, rfl⟩ <|
    .ask (t := site failedGroup)
      (Site.StoreAnswers.stated (s := site Auditors.held) failedGroup rfl) <| .done _ _

/-- The pass has not failed to read the group. -/
lemma unread_taken : ¬GivesUp .accessGroup uncreated takenTrace := by
  intro hGivesUp
  obtain ⟨y, hMem, hReads⟩ := hGivesUp.exists_reads
  have hNone : ∀ y ∈ takenTrace, y.call.reads? = none := by
    simp only [takenTrace, List.forall_mem_cons]
    exact ⟨rfl, rfl, rfl, rfl, rfl, rfl, rfl, List.forall_mem_nil _⟩
  exact hReads (hNone y hMem)

/-- The group without a name. -/
def namelessGroup : Resource .accessGroup :=
  { Auditors.unseen with spec := { Auditors.unseen.spec with name := "" } }

/-- The group without a name after it was written as pending. -/
def pendingNameless : Resource .accessGroup := namelessGroup.moveTo .processing

/-- The group without a name after it was refused. -/
def refusedNameless : Resource .accessGroup :=
  namelessGroup.moveTo (.malformed (.validation "spec.name" "access group name must be set"))

/-- The first pass over the group without a name. -/
def namelessTrace : List (Exchange Pass.interface) :=
  [ ⟨.store (.get .accessGroup ⟨"team", "auditors"⟩), .ok (some namelessGroup)⟩,
    ⟨.store (.updateStatus .accessGroup pendingNameless), .ok pendingNameless⟩,
    ⟨.store (.updateStatus .accessGroup refusedNameless), .ok refusedNameless⟩ ]

/-- The pass that refuses the group. -/
lemma runs_nameless :
    (reconcile {} .accessGroup ⟨"team", "auditors"⟩).Runs
      (answered.surroundings ⟨"team", "auditors"⟩) (site namelessGroup) namelessTrace
      (.requeue 150) (site refusedNameless) :=
  .ask (t := site namelessGroup) (Site.StoreAnswers.found (s := site namelessGroup) rfl) <|
    .ask (t := site pendingNameless)
      (Site.StoreAnswers.stated (s := site namelessGroup) pendingNameless rfl) <|
    .ask (t := site refusedNameless)
      (Site.StoreAnswers.stated (s := site pendingNameless) refusedNameless rfl) <|
    .done _ _

/-- No pass has been before. -/
lemma run_unseen (r : Resource .accessGroup) :
    Site.Run answered (fun _ _ => False) {} ⟨"team", "auditors"⟩ (site r) [] (site r) :=
  .start _

end Repetition

open Repetition in
/-- The group whose name is taken is created again and fails again, without a write; the group
without a name is left alone. -/
theorem repeats_of_taken :
    Repeats {} ⟨"team", "auditors"⟩ takenTrace (.failure uncreated) (site failedGroup) ∧
      Repeats {} ⟨"team", "auditors"⟩ namelessTrace (.requeue 150) (site refusedNameless) := by
  have hTaken := repeats_of_failed (run_unseen Auditors.unseen) rfl rfl rfl not_false runs_taken
  have hNameless := repeats_of_failed (run_unseen namelessGroup) rfl rfl rfl not_false runs_nameless
  have hMalformed : namelessGroup.validate ≠ .ok () := nofun
  exact ⟨hTaken.1 _ rfl unread_taken, (hNameless.2 Bool.false_ne_true hMalformed).2⟩

end IamReconciler
