import IamReconciler.Proofs.Lifecycle.Turns

/-!
# Applied specs are well formed

The status restates the spec that was applied to the remote entity last.  Passes apply only
well-formed specs, and a resource is set back to what was applied when it must not change.  The
invariant is that a status which records an entity restates a well-formed spec (`Status.IsSound`).
It is kept by every pass in any circumstances, with any answers of the service, and so it holds
after every run from a resource without a status (`Site.Run.isSound`).
-/

namespace IamReconciler

variable {k : Kind}

/-! ## Rules -/

/-- A list of rules is passed exactly when none of them is broken. -/
lemma Rule.check_eq_ok_iff {rules : List Rule} : check rules = .ok () ↔ ∀ rule ∈ rules,
    rule.broken = false := by
  unfold check
  split
  · rename_i rule hFound
    refine ⟨nofun, fun hKept => ?_⟩
    have hBroken := List.find?_some hFound
    rw [hKept rule (List.mem_of_find?_eq_some hFound)] at hBroken
    cases hBroken
  · rename_i hNone
    simpa using hNone

/-- A well-formed spec stays well formed when what cannot change is taken from a well-formed one:
each rule looks either at what cannot change or at the rest. -/
lemma Kind.validate_withImmutableOf {spec applied : k.Spec} (hSpec : k.validate spec = .ok ())
    (hApplied : k.validate applied = .ok ()) :
    k.validate (k.withImmutableOf spec applied) = .ok () := by
  cases k with
  | accessGroup => exact hSpec
  | accessPolicy => exact hSpec
  | authorizationPolicy => exact hSpec
  | customRole =>
    have hSpec := Rule.check_eq_ok_iff.1 hSpec
    have hApplied := Rule.check_eq_ok_iff.1 hApplied
    refine Rule.check_eq_ok_iff.2 ?_
    simp only [rules, CustomRoleSpec.rules, List.forall_mem_cons] at hSpec hApplied ⊢
    exact ⟨hApplied.1, hApplied.2.1, hSpec.2.2⟩

/-! ## Sound statuses -/

/-- A status that records an entity restates a well-formed spec. -/
def Status.IsSound (status : Status k) : Prop :=
  status.isRecorded → k.validate status.applied = .ok ()

namespace Resource

variable {r : Resource k}

/-- The status of a resource that no pass has seen records nothing. -/
lemma isSound_of_unseen (hUnseen : r.status = none) : r.statusOrBlank.IsSound := by
  intro hRecorded
  unfold statusOrBlank at hRecorded
  rw [hUnseen] at hRecorded
  cases k <;> exact absurd hRecorded Bool.false_ne_true

/-- A resource that has forgotten its entity records nothing. -/
lemma isSound_forgetRemote : r.forgetRemote.statusOrBlank.IsSound :=
  fun hRecorded => absurd (remoteId_forgetRemote r) (isRecorded_iff.1 hRecorded)

/-- The status in which a well-formed spec is recorded is sound. -/
lemma isSound_recordApplied (hValid : r.validate = .ok ()) (ref : RemoteRef) :
    (r.recordApplied ref).statusOrBlank.IsSound :=
  fun _ => hValid

/-- What is set back is well formed. -/
lemma validate_restoreImmutable (hValid : r.validate = .ok ()) (hSound : r.statusOrBlank.IsSound) :
    r.restoreImmutable.validate = .ok () := by
  unfold restoreImmutable
  split
  · rename_i hDrifted
    exact Kind.validate_withImmutableOf hValid (hSound (((Bool.and_eq_true _ _).mp hDrifted).1))
  · exact hValid

end Resource

/-! ## Passes -/

section

variable {δ : Type} {C : Circumstances k δ} {settings : Settings} {key : Key} {s t u v : Site k δ}
  {h : List (Exchange Pass.interface)} {y : Exchange Pass.interface}

/-- What a pass keeps: the status that is stored is sound, and once the pass examines a well-formed
resource, the stored one is well formed. -/
structure KeepsSound (key : Key) (h : List (Exchange Pass.interface)) (t : Site k δ) : Prop where
  sound : t.resource.statusOrBlank.IsSound
  valid : ExaminesValid k key h → t.resource.validate = .ok ()

/-- The status that a pass writes over a sound one is sound. -/
lemma KeepsSound.stated {w : Resource k} (hKept : KeepsSound key h u)
    (hStates : States k key u.resource h w) : (u.stated w).resource.statusOrBlank.IsSound := by
  cases hStates with
  | greeted => exact hKept.sound
  | failed => exact hKept.sound
  | synchronized => exact hKept.sound
  | forgotten => exact Resource.isSound_forgetRemote (r := u.resource.moveTo _)
  | created _ hValid => exact Resource.isSound_recordApplied (hKept.valid hValid) _
  | updated _ hValid => exact Resource.isSound_recordApplied (hKept.valid hValid) _
  | deleted => exact Resource.isSound_forgetRemote (r := u.resource.moveTo _)

/-- The spec that a pass writes over a well-formed one is well formed. -/
lemma KeepsSound.edited {w : Resource k} (hKept : KeepsSound key h u)
    (hEdits : Edits k key u.resource h w) (hValid : u.resource.validate = .ok ()) :
    (u.written w).resource.validate = .ok () := by
  cases hEdits with
  | restored => exact Resource.validate_restoreImmutable hValid hKept.sound
  | held => exact hValid
  | released => exact hValid

/-- What a pass keeps it keeps with each of its effects. -/
lemma KeepsSound.concat (hKept : KeepsSound key h u) (hEffect : Effect k key h u y v)
    (hReturned : ∀ x : Resource k, Returns x y → v.resource = x) :
    KeepsSound key (h ++ [y]) v where
  sound := by
    cases hEffect with
    | left hSame =>
      rw [hSame]
      exact hKept.sound
    | stated hStates => exact hKept.stated hStates
    | edited => exact hKept.sound
  valid hExamines := by
    rcases hExamines.of_concat with hValid | ⟨x, hReturns, hValid⟩
    · have hBefore := hKept.valid hValid
      cases hEffect with
      | left hSame =>
        rw [hSame]
        exact hBefore
      | stated => exact hBefore
      | edited hEdits => exact hKept.edited hEdits hBefore
    · rw [hReturned x hReturns]
      exact hValid

/-- A pass keeps the status sound, whatever is answered. -/
theorem isSound_of_run {outcome : Outcome} (hSound : s.resource.statusOrBlank.IsSound)
    (hRun : (reconcile settings k key).Runs (C.surroundings key) s h outcome t) :
    t.resource.statusOrBlank.IsSound := by
  obtain ⟨hTrace, hPath⟩ := Program.runs_iff.1 hRun
  have hStart : KeepsSound key [] s := by
    refine ⟨hSound, ?_⟩
    rintro ⟨found, x, hExamined, -⟩
    exact nomatch hExamined.head?
  have hKept := hPath.inTurn (turns_of_traces hTrace)
    (fun before y u v hBefore hStep hTurn hKept =>
      hKept.concat (hTurn.effect hBefore hStep) fun x => resource_of_returns hStep) hStart
  exact hKept.sound

/-! ## Steady sites -/

/-- A stored resource that is not being deleted needs no restoring: its spec is well formed, and
nothing in it that cannot change has changed. -/
structure Steady (s : Site k δ) : Prop where
  stored : s.isStored
  living : ¬s.isDeleting
  wellFormed : s.resource.validate = .ok ()
  unaltered : ¬s.resource.immutableDrifted

/-- A resource that was restored is steady. -/
lemma steady_of_restore (hStored : s.isStored) (hLiving : ¬s.isDeleting)
    (hSound : s.resource.statusOrBlank.IsSound) (hValid : s.resource.validate = .ok ())
    (hPath : (C.surroundings key).Path s h t) {restored : Resource k}
    (hRestore : Pass.Traces (Lifecycle.restore s.resource) h (.ok restored)) : Steady t := by
  have hUnaltered := Bool.eq_false_iff.1 (unaltered_of_restore hPath hRestore)
  rcases Lifecycle.traces_restore_iff.1 hRestore with ⟨-, rfl⟩ | ⟨-, rfl, -⟩
  · obtain ⟨_, hStep, hEnd⟩ := Surroundings.path_cons_iff.1 hPath
    obtain rfl := Surroundings.path_nil_iff.1 hEnd
    cases hStep with
    | written =>
      have hStill : s.resource.restoreImmutable.metadata.isDeleting = false := by
        rw [Resource.metadata_restoreImmutable]
        exact Bool.eq_false_iff.2 hLiving
      refine ⟨Site.isStored_written hStill, Bool.eq_false_iff.1 hStill, ?_, hUnaltered⟩
      exact Resource.validate_restoreImmutable hValid hSound
  · obtain rfl := Surroundings.path_nil_iff.1 hPath
    exact ⟨hStored, hLiving, hValid, hUnaltered⟩

/-- A steady resource that was given the finalizer is steady. -/
lemma steady_of_hold (hSteady : Steady s) (hPath : (C.surroundings key).Path s h t)
    {held : Resource k} (hHold : Pass.Traces (Lifecycle.hold s.resource) h (.ok held)) :
    Steady t ∧ t.isHeld := by
  rcases Lifecycle.traces_hold_iff.1 hHold with ⟨hHeld, rfl, -⟩ | ⟨-, rfl⟩
  · obtain rfl := Surroundings.path_nil_iff.1 hPath
    exact ⟨hSteady, hHeld⟩
  · obtain ⟨_, hStep, hEnd⟩ := Surroundings.path_cons_iff.1 hPath
    obtain rfl := Surroundings.path_nil_iff.1 hEnd
    cases hStep with
    | written =>
      refine ⟨⟨?_, hSteady.living, hSteady.wellFormed, hSteady.unaltered⟩, ?_⟩
      · exact Site.isStored_written (Bool.eq_false_iff.2 hSteady.living)
      · change (s.resource.withFinalizers _).metadata.finalizerSet.has k.finalizer
        rw [Resource.finalizerSet_withFinalizers, Finalizers.has_add]

end

/-- After every run from a resource without a status, in any circumstances, the status is sound. -/
theorem Site.Run.isSound {δ : Type} {C : Circumstances k δ} {drifts : δ → δ → Prop}
    {settings : Settings} {key : Key}
    {start site : Site k δ} {records : List (PassRecord k δ)}
    (hRun : Site.Run C drifts settings key start records site)
    (hUnseen : start.resource.status = none) : site.resource.statusOrBlank.IsSound := by
  induction hRun with
  | start => exact Resource.isSound_of_unseen hUnseen
  | pass _ hPass ih => exact isSound_of_run ih hPass
  | edit _ _ _ ih => exact ih
  | condemn _ _ _ ih => exact ih
  | drift _ _ ih => exact ih

end IamReconciler
