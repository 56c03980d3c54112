import Mathlib.Tactic.Lemma
import IamReconciler.Resource.Basic

/-!
# What changes of a resource change

For each change that a pass makes to a resource: what becomes of its metadata, its spec, its status
and the identifier of its remote entity.  A change touches one of these and leaves the others alone.
-/

namespace IamReconciler

namespace Finalizers

/-- Finalizers with the same tokens are equal. -/
lemma ext {f g : Finalizers} (h : f.tokens = g.tokens) : f = g := by
  cases f; cases g; cases h; rfl

/-- Adding the tokens of a list in turn appends those that are new, in their order. -/
lemma tokens_foldl_add (f : Finalizers) {tokens : List String}
    (hNodup : (f.tokens ++ tokens).Nodup) : (tokens.foldl add f).tokens = f.tokens ++ tokens := by
  induction tokens generalizing f with
  | nil => rw [List.foldl_nil, List.append_nil]
  | cons token rest ih =>
    have hNew : token ∉ f.tokens := by
      intro hMem
      exact (List.nodup_append.1 hNodup).2.2 token hMem token List.mem_cons_self rfl
    have hAdd : (f.add token).tokens = f.tokens ++ [token] := by
      unfold add
      rw [dif_neg hNew]
    rw [List.foldl_cons, ih (f.add token) (by rwa [hAdd, List.append_assoc]), hAdd,
      List.append_assoc]
    rfl

/-- Finalizers are read back from the list that metadata keeps of them. -/
@[simp] lemma ofList?_toList? (f : Finalizers) : ofList? f.toList? = f := by
  refine ext ?_
  unfold ofList? toList?
  by_cases hEmpty : f.isEmpty
  · rw [if_pos hEmpty]
    exact (List.isEmpty_iff.1 hEmpty).symm
  · rw [if_neg hEmpty]
    exact tokens_foldl_add empty f.nodup

/-- A token is present after it was added. -/
@[simp] lemma has_add (f : Finalizers) (token : String) : (f.add token).has token = true := by
  unfold has add
  split
  · rwa [List.contains_iff_mem]
  · simp

/-- A token is absent after it was removed. -/
@[simp] lemma has_erase (f : Finalizers) (token : String) : (f.erase token).has token = false := by
  simp [has, erase]

/-- Finalizers that hold a token are not empty. -/
lemma isEmpty_of_has {f : Finalizers} {token : String} (h : f.has token) : f.isEmpty = false := by
  cases f with
  | mk tokens _ =>
    cases tokens with
    | nil => exact absurd h Bool.false_ne_true
    | cons => rfl

end Finalizers

namespace Resource

variable {k : Kind} (r : Resource k)

/-- A resource is recorded when it has an identifier. -/
lemma isRecorded_iff {r : Resource k} : r.isRecorded ↔ r.remoteId ≠ "" := by
  simp [isRecorded, Status.isRecorded, remoteId]

/-- A resource that is not recorded has no identifier. -/
lemma not_isRecorded_iff {r : Resource k} : ¬r.isRecorded ↔ r.remoteId = "" := by
  rw [isRecorded_iff, Decidable.not_not]

/-- A resource is well formed when its spec is accepted. -/
lemma isWellFormed_iff {r : Resource k} : r.isWellFormed ↔ r.validate = .ok () := by
  unfold isWellFormed validate
  cases k.validate r.spec with
  | error e => exact iff_of_false Bool.false_ne_true nofun
  | ok => exact iff_of_true rfl rfl

/-! ## Conditions -/

@[simp] lemma metadata_moveTo (c : Condition) : (r.moveTo c).metadata = r.metadata := rfl

@[simp] lemma remoteId_moveTo (c : Condition) : (r.moveTo c).remoteId = r.remoteId := rfl

@[simp] lemma state_moveTo (c : Condition) : (r.moveTo c).state = c.state := rfl

/-! ## Forgetting the remote entity -/

@[simp] lemma metadata_forgetRemote : r.forgetRemote.metadata = r.metadata := by
  unfold forgetRemote
  split <;> rfl

@[simp] lemma remoteId_forgetRemote : r.forgetRemote.remoteId = "" := by
  unfold forgetRemote
  split
  · cases k <;> rfl
  · rename_i hRecorded
    exact not_isRecorded_iff.1 hRecorded

@[simp] lemma state_forgetRemote : r.forgetRemote.state = r.state := by
  unfold forgetRemote
  split <;> rfl

@[simp] lemma applied_forgetRemote :
    r.forgetRemote.statusOrBlank.applied = r.statusOrBlank.applied := by
  unfold forgetRemote
  split <;> rfl

/-! ## Recording a remote entity -/

@[simp] lemma remoteId_recordApplied (ref : RemoteRef) :
    (r.recordApplied ref).remoteId = ref.id := by
  cases k <;> rfl

/-! ## Finalizers -/

@[simp] lemma finalizerSet_withFinalizers (f : Finalizers) :
    (r.withFinalizers f).metadata.finalizerSet = f :=
  Finalizers.ofList?_toList? f

@[simp] lemma isDeleting_withFinalizers (f : Finalizers) :
    (r.withFinalizers f).metadata.isDeleting = r.metadata.isDeleting := rfl

/-! ## Setting back -/

@[simp] lemma metadata_restoreImmutable : r.restoreImmutable.metadata = r.metadata := by
  unfold restoreImmutable
  split <;> rfl

/-- What was set back has not drifted any more. -/
@[simp] lemma immutableDrifted_restoreImmutable : r.restoreImmutable.immutableDrifted = false := by
  unfold restoreImmutable
  split
  · cases k <;> simp [immutableDrifted, Kind.differsImmutably, Kind.withImmutableOf,
      CustomRoleSpec.differsImmutably, CustomRoleSpec.withImmutableOf, statusOrBlank]
  · rename_i hUnaltered
    exact Bool.eq_false_iff.2 hUnaltered

@[simp] lemma status_restoreImmutable : r.restoreImmutable.status = r.status := by
  unfold restoreImmutable
  split <;> rfl

end Resource

/-! ## Comparisons -/

/-- Verdicts are equal when one is favourable exactly when the other is. -/
lemma verdict_eq {verdict other : Bool} (h : verdict = false ↔ other = false) :
    verdict = other := by
  rw [Bool.eq_iff_iff]
  simpa only [Bool.not_eq_false] using not_congr h

/-- A list has the same elements as itself. -/
@[simp] lemma sameElements_self {α : Type} [DecidableEq α] (a : List α) : sameElements a a = true :=
  sameElements_iff.2 fun _ => Iff.rfl

/-- A spec does not differ from itself. -/
@[simp] lemma Kind.differs_self {k : Kind} (spec : k.Spec) : k.differs spec spec = false := by
  cases k with
  | accessGroup => simp [differs, AccessGroupSpec.differs]
  | accessPolicy => simp [differs, AccessPolicySpec.differs, PolicyRoles.differs]
  | authorizationPolicy => simp [differs, AuthorizationPolicySpec.differs]
  | customRole => simp [differs, CustomRoleSpec.differs]

/-- Two lists have the same members, in whatever order and however often. -/
def SameMembers {α : Type} (a b : List α) : Prop :=
  ∀ x, x ∈ a ↔ x ∈ b

/-- Two specs are equal up to the order and the repetition of list entries. -/
def Kind.Restates : (k : Kind) → k.Spec → k.Spec → Prop
  | .accessGroup, s, t =>
      s.name = t.name ∧ s.description = t.description ∧ SameMembers s.userEmails t.userEmails ∧
        SameMembers s.serviceIds t.serviceIds
  | .accessPolicy, s, t =>
      s.subject = t.subject ∧ SameMembers s.roles.definedRoles t.roles.definedRoles ∧
        SameMembers s.roles.customRoleNames t.roles.customRoleNames ∧
      SameMembers s.roles.customRoleRefs t.roles.customRoleRefs ∧ s.target = t.target
  | .authorizationPolicy, s, t =>
      s.source = t.source ∧ SameMembers s.roles t.roles ∧ s.target = t.target
  | .customRole, s, t =>
      s.roleName = t.roleName ∧ s.serviceClass = t.serviceClass ∧ s.displayName = t.displayName ∧
        s.description = t.description ∧ SameMembers s.actions t.actions

/-- A spec restates itself. -/
lemma Kind.restates_refl {k : Kind} (s : k.Spec) : k.Restates s s := by
  cases k <;> simp [Restates, SameMembers]

/-- Specs are equal up to order and repetition exactly when neither comparison tells them apart. -/
lemma Kind.restates_iff {k : Kind} {s t : k.Spec} :
    k.Restates s t ↔ k.differs s t = false ∧ k.differsImmutably s t = false := by
  cases k with
  | accessGroup =>
    simp [Restates, SameMembers, differs, differsImmutably, AccessGroupSpec.differs,
      sameElements_iff, and_assoc]
  | accessPolicy =>
    simp [Restates, SameMembers, differs, differsImmutably, AccessPolicySpec.differs,
      PolicyRoles.differs, sameElements_iff, and_assoc]
  | authorizationPolicy =>
    simp [Restates, SameMembers, differs, differsImmutably, AuthorizationPolicySpec.differs,
      sameElements_iff, and_assoc]
  | customRole =>
    simp only [Restates, SameMembers, differs, differsImmutably, CustomRoleSpec.differs,
      CustomRoleSpec.differsImmutably, Bool.or_eq_false_iff, decide_eq_false_iff_not, ne_eq,
      Decidable.not_not,
      Bool.not_eq_false', sameElements_iff]
    constructor
    · rintro ⟨hName, hClass, hShown, hSaid, hActions⟩
      exact ⟨⟨⟨hShown, hSaid⟩, hActions⟩, hName, hClass⟩
    · rintro ⟨⟨⟨hShown, hSaid⟩, hActions⟩, hName, hClass⟩
      exact ⟨hName, hClass, hShown, hSaid, hActions⟩

end IamReconciler
