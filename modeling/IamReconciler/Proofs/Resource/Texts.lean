import IamReconciler.Proofs.Json.Concurrence
import IamReconciler.Proofs.Json.Fitting
import IamReconciler.Resource.Basic

/-!
# Resources in texts

The formats of resources, and of all that they consist of, read from a text what they read from its
tree, and what they write fits.  Only the metadata of a resource may fail to fit, by their numbers
or by what they tell of managed fields (`Metadata.IsPlain`).
-/

namespace IamReconciler

attribute [local simp] Slot.required Slot.defaulted Slot.concurs_field Slot.fitsIn_field
  Field.concurs_absentable Field.fitsIn_absentable
  AccessGroupSpec.nameSlot AccessGroupSpec.descriptionSlot AccessGroupSpec.userEmailsSlot
  AccessGroupSpec.serviceIdsSlot
  AccessPolicySpec.subjectSlot AccessPolicySpec.rolesSlot AccessPolicySpec.targetSlot
  AuthorizationPolicySpec.sourceSlot AuthorizationPolicySpec.rolesSlot
  AuthorizationPolicySpec.targetSlot
  CustomRoleSpec.roleNameSlot CustomRoleSpec.serviceClassSlot CustomRoleSpec.displayNameSlot
  CustomRoleSpec.descriptionSlot CustomRoleSpec.actionsSlot

/-! ## Parts of specs -/

section

variable (n : Nat)

/-- References to access groups. -/
@[simp] lemma AccessGroupRef.concurs : AccessGroupRef.record.format.Concurs :=
  Record.concurs (by decide) (by simp [record])

/-- References to access groups fit. -/
@[simp] lemma AccessGroupRef.fits (ref : AccessGroupRef) :
    (AccessGroupRef.record.format.write ref).Fits (n + 1) :=
  Record.fits_write (by simp [record])

/-- References to custom roles. -/
@[simp] lemma CustomRoleRef.concurs : CustomRoleRef.record.format.Concurs :=
  Record.concurs (by decide) (by simp [record])

/-- References to custom roles fit. -/
@[simp] lemma CustomRoleRef.fits (ref : CustomRoleRef) :
    (CustomRoleRef.record.format.write ref).Fits (n + 1) :=
  Record.fits_write (by simp [record])

/-- Subjects. -/
@[simp] lemma PolicySubject.concurs : PolicySubject.record.format.Concurs :=
  Record.concurs (by decide) (by simp [record])

/-- Subjects fit. -/
@[simp] lemma PolicySubject.fits (subject : PolicySubject) :
    (PolicySubject.record.format.write subject).Fits (n + 2) :=
  Record.fits_write (by simp [record])

/-- The roles of a policy. -/
@[simp] lemma PolicyRoles.concurs : PolicyRoles.record.format.Concurs :=
  Record.concurs (by decide) (by simp [record, CustomRoleRef.concurs.list])

/-- The roles of a policy fit. -/
@[simp] lemma PolicyRoles.fits (roles : PolicyRoles) :
    (PolicyRoles.record.format.write roles).Fits (n + 3) :=
  Record.fits_write (by simp [record])

/-- Targets. -/
@[simp] lemma PolicyTarget.concurs : PolicyTarget.record.format.Concurs :=
  Record.concurs (by decide) (by simp [record])

/-- Targets fit. -/
@[simp] lemma PolicyTarget.fits (target : PolicyTarget) :
    (PolicyTarget.record.format.write target).Fits (n + 1) :=
  Record.fits_write (by simp [record])

/-- The sides of an authorization. -/
@[simp] lemma ServiceInfo.concurs : ServiceInfo.record.format.Concurs :=
  Record.concurs (by decide) (by simp [record])

/-- The sides of an authorization fit. -/
@[simp] lemma ServiceInfo.fits (info : ServiceInfo) :
    (ServiceInfo.record.format.write info).Fits (n + 1) :=
  Record.fits_write (by simp [record])

end

/-! ## Specs -/

namespace Kind

/-- Specs. -/
lemma concurs_spec (k : Kind) : k.specRecord.format.Concurs := by
  cases k with
  | accessGroup =>
    exact Record.concurs (by decide) (by simp [specRecord, AccessGroupSpec.record])
  | accessPolicy =>
    exact Record.concurs (by decide) (by simp [specRecord, AccessPolicySpec.record])
  | authorizationPolicy =>
    exact Record.concurs (by decide) (by simp [specRecord, AuthorizationPolicySpec.record])
  | customRole =>
    exact Record.concurs (by decide) (by simp [specRecord, CustomRoleSpec.record])

/-- Specs fit. -/
lemma fits_spec (k : Kind) (spec : k.Spec) (n : Nat) :
    (k.specRecord.format.write spec).Fits (n + 4) := by
  cases k with
  | accessGroup => exact Record.fits_write (by simp [specRecord, AccessGroupSpec.record])
  | accessPolicy => exact Record.fits_write (by simp [specRecord, AccessPolicySpec.record])
  | authorizationPolicy =>
    exact Record.fits_write (by simp [specRecord, AuthorizationPolicySpec.record])
  | customRole => exact Record.fits_write (by simp [specRecord, CustomRoleSpec.record])

/-- The fields of a status that restate the spec that was applied last. -/
lemma concurs_applied (k : Kind) : ∀ field ∈ k.appliedFields, field.Concurs := by
  cases k with
  | accessGroup => simp [appliedFields, AccessGroupSpec.appliedFields]
  | accessPolicy => simp [appliedFields, AccessPolicySpec.appliedFields]
  | authorizationPolicy => simp [appliedFields, AuthorizationPolicySpec.appliedFields]
  | customRole => simp [appliedFields, CustomRoleSpec.appliedFields]

/-- The fields of a status that restate the spec that was applied last fit. -/
lemma fits_applied (k : Kind) (spec : k.Spec) (n : Nat) :
    ∀ field ∈ k.appliedFields, field.FitsIn (n + 3) spec := by
  cases k with
  | accessGroup => simp [appliedFields, AccessGroupSpec.appliedFields]
  | accessPolicy => simp [appliedFields, AccessPolicySpec.appliedFields]
  | authorizationPolicy => simp [appliedFields, AuthorizationPolicySpec.appliedFields]
  | customRole => simp [appliedFields, CustomRoleSpec.appliedFields]

/-- The fields of an identity. -/
lemma concurs_identity (k : Kind) : ∀ field ∈ k.identityFields, field.Concurs := by
  cases k <;> simp [identityFields, EntityIdentity.fields, RoleIdentity.fields]

/-- The fields of an identity fit. -/
lemma fits_identity (k : Kind) (identity : k.Identity) (n : Nat) :
    ∀ field ∈ k.identityFields, field.FitsIn n identity := by
  cases k <;> simp [identityFields, EntityIdentity.fields, RoleIdentity.fields]

end Kind

/-! ## Statuses -/

/-- States. -/
lemma State.concurs (emptyCounts : Bool) : (State.format emptyCounts).Concurs := by
  intro n json state hLevels hFits hRead
  refine Scan.Hears.settle fun rest hEnds => ?_
  exact .bind (Scan.hears_plainValue hLevels hFits rest hEnds) (Scan.takes_ofRead hRead)

/-- States fit. -/
@[simp] lemma State.fits (emptyCounts : Bool) (state : State) (n : Nat) :
    ((State.format emptyCounts).write state).Fits n :=
  .str state.name

namespace Condition

/-- The fields of a condition. -/
lemma concurs_fields (emptyCounts : Bool) : ∀ field ∈ fields emptyCounts, field.Concurs := by
  simp [fields, State.concurs]

/-- The fields of a condition fit. -/
lemma fits_fields (emptyCounts : Bool) (condition : Condition) (n : Nat) :
    ∀ field ∈ fields emptyCounts, field.FitsIn n condition := by
  simp [fields]

/-- Conditions that stand alone. -/
lemma concurs : record.format.Concurs :=
  Record.concurs (by decide) (concurs_fields false)

/-- Conditions that stand alone fit. -/
lemma fits (condition : Condition) (n : Nat) : (record.format.write condition).Fits (n + 1) :=
  Record.fits_write (fits_fields false condition n)

end Condition

namespace Status

variable {k : Kind}

/-- Statuses. -/
lemma concurs (k : Kind) : (record k).format.Concurs := by
  refine Record.concurs (by cases k <;> decide) fun field hField => ?_
  simp only [record, List.mem_append, List.mem_map] at hField
  rcases hField with (⟨f, hf, rfl⟩ | ⟨f, hf, rfl⟩) | ⟨f, hf, rfl⟩
  · exact .inlined (.within (Condition.concurs_fields true f hf))
  · exact .within (k.concurs_identity f hf)
  · exact .within (k.concurs_applied f hf)

/-- Statuses fit. -/
lemma fits (s : Status k) (n : Nat) : ((record k).format.write s).Fits (n + 4) := by
  refine Record.fits_write fun field hField => ?_
  simp only [record, List.mem_append, List.mem_map] at hField
  rcases hField with (⟨f, hf, rfl⟩ | ⟨f, hf, rfl⟩) | ⟨f, hf, rfl⟩
  · exact .inlined (.within (Condition.fits_fields true _ _ f hf))
  · exact .within (k.fits_identity _ _ f hf)
  · exact .within (k.fits_applied _ n f hf)

end Status

/-! ## Metadata -/

section

variable (n : Nat)

/-- Timestamps. -/
@[simp] lemma Timestamp.concurs : Timestamp.format.Concurs := by
  refine Format.concurs_scalar (fun items t hRead => ?_) fun fields t hRead => ?_
  · cases hRead
  · cases hRead

/-- Timestamps fit. -/
@[simp] lemma Timestamp.fits (t : Timestamp) : (Timestamp.format.write t).Fits n :=
  .str t.text

/-- References to owners. -/
lemma OwnerReference.concurs : OwnerReference.record.format.Concurs :=
  Record.concurs (by decide) (by
    simp [record, Slot.concurs_lenient, apiVersionSlot, kindSlot, nameSlot, uidSlot, Slot.text])

/-- References to owners fit. -/
@[simp] lemma OwnerReference.fits (owner : OwnerReference) :
    (OwnerReference.record.format.write owner).Fits (n + 1) :=
  Record.fits_write (by
    simp [record, Slot.fitsIn_lenient, apiVersionSlot, kindSlot, nameSlot, uidSlot, Slot.text])

/-- Entries about managed fields. -/
lemma ManagedFields.concurs : ManagedFields.record.format.Concurs :=
  Record.concurs (by decide) (by simp [record])

/-- Entries about managed fields fit when what they tell of does. -/
lemma ManagedFields.fits {m : ManagedFields} (h : ∀ json ∈ m.fields, json.Fits n) :
    (ManagedFields.record.format.write m).Fits (n + 1) := by
  have hFields : ∀ json ∈ m.fields, (Format.any.write json).Fits n := h
  exact Record.fits_write (by simp [record, Field.fitsIn_absentable hFields])

end

namespace Metadata

/-- The numbers of metadata fit into 64 bits, and so many levels suffice for the values that entries
about managed fields tell of. -/
structure IsPlain (m : Metadata) (n : Nat) : Prop where
  deletionGraceSeconds : ∀ i ∈ m.deletionGraceSeconds, Scan.fitsWord i
  generation : ∀ i ∈ m.generation, Scan.fitsWord i
  managedFields : ∀ entries ∈ m.managedFields, ∀ entry ∈ entries, ∀ json ∈ entry.fields, json.Fits n

/-- Metadata. -/
lemma concurs : record.format.Concurs :=
  Record.concurs (by decide) (by
    simp [record, Format.textMap, Format.concurs_text.list, Format.concurs_text.map,
      ManagedFields.concurs.list, OwnerReference.concurs.list])

/-- Plain metadata fit. -/
lemma fits {m : Metadata} {n : Nat} (h : m.IsPlain n) : (record.format.write m).Fits (n + 3) := by
  have hSeconds : ∀ i ∈ m.deletionGraceSeconds, (Format.int64.write i).Fits (n + 2) :=
    fun i hi => .int (h.deletionGraceSeconds i hi)
  have hGeneration : ∀ i ∈ m.generation, (Format.int64.write i).Fits (n + 2) :=
    fun i hi => .int (h.generation i hi)
  have hManaged : ∀ entries ∈ m.managedFields,
      ((Format.list ManagedFields.record.format).write entries).Fits (n + 2) :=
    fun entries hEntries => Format.fits_list fun entry hEntry =>
      ManagedFields.fits n (h.managedFields entries hEntries entry hEntry)
  refine Record.fits_write ?_
  simp [record, Format.textMap, Field.fitsIn_absentable hSeconds,
    Field.fitsIn_absentable hGeneration, Field.fitsIn_absentable hManaged]

end Metadata

/-! ## Resources -/

namespace Resource

variable {k : Kind}

/-- Resources. -/
theorem concurs (k : Kind) : (format k).Concurs := by
  have hRecord : (record k).format.Concurs := by
    refine Record.concurs (by cases k <;> decide) ?_
    simp [record, Metadata.concurs, k.concurs_spec, Field.Concurs.byName, Status.concurs]
  exact hRecord

/-- Resources with plain metadata fit. -/
theorem fits {r : Resource k} {n : Nat} (h : r.metadata.IsPlain (n + 1)) :
    ((format k).write r).Fits (n + 5) := by
  have hStatus : ∀ s ∈ r.status, ((Status.record k).format.write s).Fits (n + 4) :=
    fun s _ => s.fits n
  have hRecord : ((record k).format.write r).Fits (n + 5) := by
    refine Record.fits_write ?_
    simp [record, Metadata.fits h, k.fits_spec, Field.FitsIn.byName,
      Field.fitsIn_absentable hStatus]
  exact (hRecord.setField (.str _)).setField (.str _)

end Resource

end IamReconciler
