import IamReconciler.Proofs.Resource.Changes

/-!
# Drift of a spec

The status restates the spec that was applied last, and the spec of a recorded resource has drifted
when it declares another state than that.  A spec has parts.  Some are one value, of which every
change counts; some are lists, of which only the members count, so that another order or a repeated
entry declares the same state.  The parts are the whole spec (`Kind.eq_of_same`), so that no edit
goes unseen.

The name and the service of a custom role cannot change once the role exists.  These parts are kept
apart: a change of them is no drift, but is set back.  The main statement is `drifts_iff_changed`.
-/

namespace IamReconciler

/-! ## Parts of a spec -/

/-- A part of a spec: a value, or a list of which only the members count. -/
inductive SpecPart (σ : Type) where
  | value {α : Type} (get : σ → α)
  | members {α : Type} (get : σ → List α)

namespace SpecPart

variable {σ τ : Type} {part : SpecPart σ} {s t : σ}

/-- Two specs are the same in a part, to the letter. -/
def Same : SpecPart σ → σ → σ → Prop
  | value get, s, t => get s = get t
  | members get, s, t => get s = get t

/-- Two specs declare the same in a part: the same value, or a list with the same members. -/
def Agrees : SpecPart σ → σ → σ → Prop
  | value get, s, t => get s = get t
  | members get, s, t => SameMembers (get s) (get t)

/-- A part of a field as a part of what has the field. -/
def within (outer : σ → τ) : SpecPart τ → SpecPart σ
  | value get => value fun s => get (outer s)
  | members get => members fun s => get (outer s)

/-- Every spec is the same as itself in every part. -/
lemma same_refl (part : SpecPart σ) (s : σ) : part.Same s s := by
  cases part <;> rfl

/-- What agrees with one of two specs that are the same agrees with the other. -/
lemma Same.agrees_iff {u : σ} (hSame : part.Same s t) : part.Agrees s u ↔ part.Agrees t u := by
  cases part with
  | value get =>
    have hValues : get s = get t := hSame
    simp only [Agrees, hValues]
  | members get =>
    have hLists : get s = get t := hSame
    simp only [Agrees, hLists]

/-- Specs that are the same in a part agree in it. -/
lemma Same.agrees (hSame : part.Same s t) : part.Agrees s t := by
  rw [hSame.agrees_iff]
  cases part with
  | value get => rfl
  | members get => exact fun _ => Iff.rfl

/-- Agreement has no direction. -/
lemma agrees_comm : part.Agrees s t ↔ part.Agrees t s := by
  cases part with
  | value get => exact eq_comm
  | members get => exact forall_congr' fun _ => iff_comm

/-- The agreement of all parts has no direction. -/
lemma forall_agrees_comm {parts : List (SpecPart σ)} :
    (∀ part ∈ parts, part.Agrees s t) ↔ ∀ part ∈ parts, part.Agrees t s :=
  forall_congr' fun _ => imp_congr_right fun _ => agrees_comm

/-- All parts of a field agree within what has the field. -/
lemma forall_agrees_within {outer : σ → τ} {parts : List (SpecPart τ)} :
    (∀ part ∈ parts.map (within outer), part.Agrees s t) ↔ ∀ part ∈ parts,
    part.Agrees (outer s) (outer t) := by
  rw [List.forall_mem_map]
  refine forall_congr' fun inner => imp_congr_right fun _ => ?_
  cases inner <;> exact Iff.rfl

/-- All parts of a field are the same within what has the field. -/
lemma forall_same_within {outer : σ → τ} {parts : List (SpecPart τ)} :
    (∀ part ∈ parts.map (within outer), part.Same s t) ↔ ∀ part ∈ parts,
    part.Same (outer s) (outer t) := by
  rw [List.forall_mem_map]
  refine forall_congr' fun inner => imp_congr_right fun _ => ?_
  cases inner <;> exact Iff.rfl

/-- A comparison that is false when all parts agree is true when some part does not. -/
lemma exists_not_agrees_iff {parts : List (SpecPart σ)} {differs : Bool}
    (h : differs = false ↔ ∀ part ∈ parts, part.Agrees s t) : differs = true ↔ ∃ part ∈ parts,
    ¬part.Agrees s t := by
  have hDiffers : differs = true ↔ ¬∀ part ∈ parts, part.Agrees s t := by
    simpa only [Bool.not_eq_false] using not_congr h
  simpa only [Classical.not_forall, Classical.not_imp, exists_prop] using hDiffers

end SpecPart

/-- The parts of a subject. -/
def PolicySubject.parts : List (SpecPart PolicySubject) :=
  [.value (·.userEmail), .value (·.serviceId), .value (·.accessGroupId), .value (·.accessGroupDef)]

/-- The parts of the roles of a policy. -/
def PolicyRoles.parts : List (SpecPart PolicyRoles) :=
  [.members (·.definedRoles), .members (·.customRoleNames), .members (·.customRoleRefs)]

/-- The parts of a target. -/
def PolicyTarget.parts : List (SpecPart PolicyTarget) :=
  [.value (·.resourceGroup), .value (·.serviceClass), .value (·.serviceId), .value (·.resourceName),
    .value (·.resourceId), .value (·.resourceKey), .value (·.resourceValue), .value (·.region)]

/-- The parts of one side of an authorization. -/
def ServiceInfo.parts : List (SpecPart ServiceInfo) :=
  [.value (·.serviceClass), .value (·.serviceId), .value (·.resourceName), .value (·.resourceId),
    .value (·.resourceKey), .value (·.resourceValue), .value (·.resourceGroup)]

/-- Roles are equal when all parts are the same. -/
lemma PolicyRoles.eq_of_same {s t : PolicyRoles} (h : ∀ part ∈ parts, part.Same s t) : s = t := by
  cases s; cases t
  simpa [parts, SpecPart.Same] using h

namespace Kind

/-- The parts of a spec that can change. -/
def parts : (k : Kind) → List (SpecPart k.Spec)
  | .accessGroup =>
      [.value (·.name), .value (·.description), .members (·.userEmails), .members (·.serviceIds)]
  | .accessPolicy =>
    PolicySubject.parts.map (.within (·.subject)) ++ PolicyRoles.parts.map (.within (·.roles)) ++
      PolicyTarget.parts.map (.within (·.target))
  | .authorizationPolicy =>
    ServiceInfo.parts.map (.within (·.source)) ++ [.members (·.roles)] ++ ServiceInfo.parts.map
      (.within (·.target))
  | .customRole => [.value (·.displayName), .value (·.description), .members (·.actions)]

/-- The parts of a spec that cannot change once the remote entity exists. -/
def fixedParts : (k : Kind) → List (SpecPart k.Spec)
  | .accessGroup => []
  | .accessPolicy => []
  | .authorizationPolicy => []
  | .customRole => [.value (·.roleName), .value (·.serviceClass)]

end Kind

/-! ## Comparisons by parts -/

/-- Subjects are equal when all parts agree. -/
lemma PolicySubject.eq_iff_agrees {s t : PolicySubject} : s = t ↔ ∀ part ∈ parts,
    part.Agrees s t := by
  cases s; cases t
  simp [parts, SpecPart.Agrees]

/-- Roles do not differ when all parts agree. -/
lemma PolicyRoles.differs_eq_false_iff_agrees {s t : PolicyRoles} :
    s.differs t = false ↔ ∀ part ∈ parts, part.Agrees s t := by
  simp [differs, parts, SpecPart.Agrees, SameMembers, sameElements_iff, and_assoc]

/-- Targets are equal when all parts agree. -/
lemma PolicyTarget.eq_iff_agrees {s t : PolicyTarget} : s = t ↔ ∀ part ∈ parts,
    part.Agrees s t := by
  cases s; cases t
  simp [parts, SpecPart.Agrees]

/-- Sides are equal when all parts agree. -/
lemma ServiceInfo.eq_iff_agrees {s t : ServiceInfo} : s = t ↔ ∀ part ∈ parts, part.Agrees s t := by
  cases s; cases t
  simp [parts, SpecPart.Agrees]

namespace Kind

variable {k : Kind} {s t : k.Spec}

/-- Specs do not differ when all parts agree that can change. -/
lemma differs_eq_false_iff_agrees : k.differs s t = false ↔ ∀ part ∈ k.parts, part.Agrees s t := by
  cases k with
  | accessGroup =>
    simp [differs, AccessGroupSpec.differs, parts, SpecPart.Agrees, SameMembers,
      sameElements_iff, and_assoc]
  | accessPolicy =>
    simp only [parts, List.forall_mem_append, SpecPart.forall_agrees_within,
      ← PolicySubject.eq_iff_agrees, ← PolicyRoles.differs_eq_false_iff_agrees,
      ← PolicyTarget.eq_iff_agrees]
    simp [differs, AccessPolicySpec.differs]
  | authorizationPolicy =>
    simp only [parts, List.forall_mem_append, SpecPart.forall_agrees_within,
      ← ServiceInfo.eq_iff_agrees]
    simp [differs, AuthorizationPolicySpec.differs, SpecPart.Agrees, SameMembers, sameElements_iff]
  | customRole =>
    simp [differs, CustomRoleSpec.differs, parts, SpecPart.Agrees, SameMembers,
      sameElements_iff, and_assoc]

/-- Specs do not differ in what cannot change when all parts of it agree. -/
lemma differsImmutably_eq_false_iff_agrees :
    k.differsImmutably s t = false ↔ ∀ part ∈ k.fixedParts, part.Agrees s t := by
  cases k with
  | customRole =>
      simp [differsImmutably, CustomRoleSpec.differsImmutably, fixedParts, SpecPart.Agrees]
  | accessGroup => simp [differsImmutably, fixedParts]
  | accessPolicy => simp [differsImmutably, fixedParts]
  | authorizationPolicy => simp [differsImmutably, fixedParts]

/-- The parts are the whole spec. -/
theorem eq_of_same (hParts : ∀ part ∈ k.parts, part.Same s t) (hFixed : ∀ part ∈ k.fixedParts,
    part.Same s t) : s = t := by
  cases k with
  | accessGroup =>
    cases s; cases t
    simpa [parts, SpecPart.Same] using hParts
  | accessPolicy =>
    simp only [parts, List.forall_mem_append, SpecPart.forall_same_within] at hParts
    obtain ⟨⟨hSubject, hRoles⟩, hTarget⟩ := hParts
    have hSubjects : s.subject = t.subject :=
      PolicySubject.eq_iff_agrees.2 fun part hPart => (hSubject part hPart).agrees
    have hRoles : s.roles = t.roles := PolicyRoles.eq_of_same hRoles
    have hTargets : s.target = t.target :=
      PolicyTarget.eq_iff_agrees.2 fun part hPart => (hTarget part hPart).agrees
    cases s; cases t
    simp_all
  | authorizationPolicy =>
    simp only [parts, List.forall_mem_append, SpecPart.forall_same_within,
      List.forall_mem_singleton] at hParts
    obtain ⟨⟨hSource, hRoles⟩, hTarget⟩ := hParts
    have hSources : s.source = t.source :=
      ServiceInfo.eq_iff_agrees.2 fun part hPart => (hSource part hPart).agrees
    have hRoles : s.roles = t.roles := hRoles
    have hTargets : s.target = t.target :=
      ServiceInfo.eq_iff_agrees.2 fun part hPart => (hTarget part hPart).agrees
    cases s; cases t
    simp_all
  | customRole =>
    -- the name and the service of a role are not among the parts that may drift
    cases s; cases t
    simp only [parts, fixedParts, SpecPart.Same, List.forall_mem_cons] at hParts hFixed
    simp [hParts, hFixed]

/-- Setting back what cannot change leaves the other parts. -/
lemma same_withImmutableOf (s t : k.Spec) :
    ∀ part ∈ k.parts, part.Same (k.withImmutableOf s t) s := by
  cases k with
  | customRole => simp [parts, SpecPart.Same, withImmutableOf, CustomRoleSpec.withImmutableOf]
  | accessGroup => exact fun part _ => part.same_refl s
  | accessPolicy => exact fun part _ => part.same_refl s
  | authorizationPolicy => exact fun part _ => part.same_refl s

/-- Setting back what cannot change does not touch the comparison of the other parts. -/
lemma differs_withImmutableOf (s t u : k.Spec) :
    k.differs (k.withImmutableOf s t) u = k.differs s u := by
  refine verdict_eq ?_
  rw [differs_eq_false_iff_agrees, differs_eq_false_iff_agrees]
  exact forall_congr' fun part => imp_congr_right fun hPart =>
    (same_withImmutableOf s t part hPart).agrees_iff

end Kind

/-! ## Drift of a resource -/

namespace Resource

variable {k : Kind} {r : Resource k} {s t : k.Spec} {ref : RemoteRef}

/-- The resource with another spec. -/
def withSpec (r : Resource k) (spec : k.Spec) : Resource k :=
  { r with spec := spec }

/-- The resource that declared `s` when it was applied, and declares `t` since then. -/
def edited (r : Resource k) (s : k.Spec) (ref : RemoteRef) (t : k.Spec) : Resource k :=
  ((r.withSpec s).recordApplied ref).withSpec t

/-- What a recorded resource tells about an edit of its spec from `s` to `t`. -/
structure TellsEdit (r : Resource k) (s t : k.Spec) : Prop where
  /-- The spec has drifted when a part that can change declares something else. -/
  drift : r.specDrifted = true ↔ ∃ part ∈ k.parts, ¬part.Agrees s t
  /-- There is something to set back when a part that cannot change declares something else. -/
  fixedDrift : r.immutableDrifted = true ↔ ∃ part ∈ k.fixedParts, ¬part.Agrees s t
  /-- Nothing is left to set back afterwards. -/
  restored : r.restoreImmutable.immutableDrifted = false
  /-- Setting back is no drift and hides none. -/
  steady : r.restoreImmutable.specDrifted = r.specDrifted
  /-- What cannot change is what was applied again. -/
  setBack : ∀ part ∈ k.fixedParts, part.Agrees r.restoreImmutable.spec s
  /-- What can change stays as it was edited. -/
  kept : ∀ part ∈ k.parts, part.Same r.restoreImmutable.spec t

@[simp] lemma remoteId_edited : (r.edited s ref t).remoteId = ref.id :=
  (r.withSpec s).remoteId_recordApplied ref

/-- The spec of a recorded resource has drifted when a part of it declares something else than what
was applied. -/
lemma specDrifted_iff (hRecorded : r.isRecorded) :
    r.specDrifted = true ↔ ∃ part ∈ k.parts, ¬part.Agrees r.statusOrBlank.applied r.spec := by
  have hDrifted : r.specDrifted = k.differs r.spec r.statusOrBlank.applied := by
    rw [specDrifted, hRecorded, Bool.true_and]
  refine SpecPart.exists_not_agrees_iff ?_
  rw [hDrifted, Kind.differs_eq_false_iff_agrees, SpecPart.forall_agrees_comm]

/-- A recorded resource has something to set back when a part that cannot change declares something
else. -/
lemma immutableDrifted_iff (hRecorded : r.isRecorded) :
    r.immutableDrifted = true ↔ ∃ part ∈ k.fixedParts,
      ¬part.Agrees r.statusOrBlank.applied r.spec := by
  have hDrifted : r.immutableDrifted = k.differsImmutably r.spec r.statusOrBlank.applied := by
    rw [immutableDrifted, hRecorded, Bool.true_and]
  refine SpecPart.exists_not_agrees_iff ?_
  rw [hDrifted, Kind.differsImmutably_eq_false_iff_agrees, SpecPart.forall_agrees_comm]

/-- Setting back is no drift and hides none. -/
lemma specDrifted_restoreImmutable (r : Resource k) :
    r.restoreImmutable.specDrifted = r.specDrifted := by
  unfold restoreImmutable
  split
  · exact congrArg (r.isRecorded && ·)
      (Kind.differs_withImmutableOf r.spec r.statusOrBlank.applied _)
  · rfl

/-- What can change is not set back. -/
lemma same_restoreImmutable (r : Resource k) :
    ∀ part ∈ k.parts, part.Same r.restoreImmutable.spec r.spec := by
  unfold restoreImmutable
  split
  · exact Kind.same_withImmutableOf r.spec r.statusOrBlank.applied
  · exact fun part _ => part.same_refl r.spec

/-- What cannot change of a recorded resource is set back to what was applied. -/
lemma agrees_restoreImmutable (hRecorded : r.isRecorded) :
    ∀ part ∈ k.fixedParts, part.Agrees r.restoreImmutable.spec r.statusOrBlank.applied := by
  have hStatus : r.restoreImmutable.statusOrBlank = r.statusOrBlank :=
    congrArg (·.getD (Status.blank k)) r.status_restoreImmutable
  have hStill : r.restoreImmutable.isRecorded := by
    rwa [isRecorded, hStatus]
  have hSame : k.differsImmutably r.restoreImmutable.spec r.restoreImmutable.statusOrBlank.applied =
      false := by
    simpa only [immutableDrifted, hStill, Bool.true_and] using r.immutableDrifted_restoreImmutable
  rw [hStatus] at hSame
  exact Kind.differsImmutably_eq_false_iff_agrees.1 hSame

/-- A resource that was recorded with an identifier tells every edit since then. -/
lemma tellsEdit_edited (hId : ref.id ≠ "") : (r.edited s ref t).TellsEdit s t := by
  have hRecorded : (r.edited s ref t).isRecorded := by
    rw [isRecorded_iff, remoteId_edited]
    exact hId
  constructor
  case drift => exact specDrifted_iff hRecorded
  case fixedDrift => exact immutableDrifted_iff hRecorded
  case restored => exact immutableDrifted_restoreImmutable _
  case steady => exact specDrifted_restoreImmutable _
  case setBack => exact agrees_restoreImmutable hRecorded
  case kept => exact same_restoreImmutable _

/-- A resource that is not recorded has not drifted, and there is nothing to set back. -/
lemma not_drifted_of_unrecorded (hId : r.remoteId = "") :
    r.specDrifted = false ∧ r.immutableDrifted = false ∧ r.restoreImmutable = r := by
  have hUnrecorded : r.isRecorded = false := by
    simpa only [Bool.not_eq_true] using not_isRecorded_iff.2 hId
  have hFixed : r.immutableDrifted = false := by
    rw [immutableDrifted, hUnrecorded, Bool.false_and]
  refine ⟨?_, hFixed, ?_⟩
  · rw [specDrifted, hUnrecorded, Bool.false_and]
  · rw [restoreImmutable, hFixed]
    rfl

/-- **Drift of a spec is a change of what it declares.**  The parts of a spec determine it.  After
`s` was applied to an entity with an identifier, whatever the status held before, the spec `t`
counts as drifted exactly when a part that can change declares something else in `t` than in `s`,
and has something to set back exactly when a part that cannot change does; setting back restores
these parts and nothing else.  Without an identifier nothing ever counts as drifted. -/
theorem drifts_iff_changed (k : Kind) :
    (∀ s t : k.Spec, (∀ part ∈ k.parts, part.Same s t) → (∀ part ∈ k.fixedParts, part.Same s t) →
      s = t) ∧
      (∀ (r : Resource k) (s t : k.Spec) (ref : RemoteRef), ref.id ≠ "" →
        (r.edited s ref t).TellsEdit s t) ∧
      ∀ r : Resource k, r.remoteId = "" →
        r.specDrifted = false ∧ r.immutableDrifted = false ∧ r.restoreImmutable = r :=
  ⟨fun _ _ => Kind.eq_of_same, fun _ _ _ _ => tellsEdit_edited, fun _ => not_drifted_of_unrecorded⟩

/-- A custom role whose name was edited, and whose actions were listed in another order and one of
them twice, has something to set back but has not drifted. -/
theorem drifts_iff_changed_of_renamed :
    let role : CustomRoleSpec := ⟨"Reader", "storage", "Bucket Reader", "", ["get", "list"]⟩
    let edit : CustomRoleSpec := ⟨"Writer", "storage", "Bucket Reader", "", ["list", "get", "list"]⟩
    let found : Resource .customRole := (Resource.mk {} role none).edited role ⟨"role-1", none⟩ edit
    found.immutableDrifted = true ∧ found.specDrifted = false ∧
      found.restoreImmutable.specDrifted = false := by
  intro role edit found
  have hTold : found.TellsEdit role edit :=
    (drifts_iff_changed .customRole).2.1 ⟨{}, role, none⟩ role edit ⟨"role-1", none⟩ (by decide)
  have hFixed : found.immutableDrifted = true :=
    hTold.fixedDrift.2 ⟨.value (·.roleName), by simp [Kind.fixedParts], by
      simp [SpecPart.Agrees, role, edit]⟩
  have hUndrifted : found.specDrifted = false := by
    rw [← Bool.not_eq_true, hTold.drift]
    simp [Kind.parts, SpecPart.Agrees, SameMembers, role, edit, or_comm]
  exact ⟨hFixed, hUndrifted, hTold.steady.trans hUndrifted⟩

end Resource

end IamReconciler
