import IamReconciler.Proofs.Json.Formats
import IamReconciler.Resource.Basic

/-!
# Laws of the formats of resources

The records that a status consists of are read back as they were written, and so is the status of
each kind.  All of them overwrite but one: the subject of an access policy leaves out the reference
to a declared group when it has none, so that merging it into an older subject keeps the older
reference (`PolicySubject.merges_over`).
-/

namespace IamReconciler

attribute [local simp] Record.bindings Entries.ofList Entries.insert_nil Entries.insert_cons
    Record.readObject
  Record.readEntries
  Record.field? Record.firstMissing? Slot.required Slot.defaulted Slot.field Slot.text Slot.texts
    Field.absentable
  Field.within Field.inlined bind Except.bind Except.map pure Except.pure

/-! ## References -/

/-- References to access groups are read back. -/
lemma AccessGroupRef.faithful : AccessGroupRef.record.format.Faithful :=
  Record.faithful fun _ => by simp [record, ↓String.reduceLT, Format.faithful_text.read_write]

/-- References to access groups overwrite. -/
lemma AccessGroupRef.overwrites : AccessGroupRef.record.format.Overwrites :=
  fun _ _ => Record.merges (by decide) (by simp [record, -Slot.field, -Slot.text])

/-- References to custom roles are read back. -/
lemma CustomRoleRef.faithful : CustomRoleRef.record.format.Faithful :=
  Record.faithful fun _ => by simp [record, ↓String.reduceLT, Format.faithful_text.read_write]

/-! ## Parts of policies -/

/-- Subjects are read back. -/
lemma PolicySubject.faithful : PolicySubject.record.format.Faithful :=
  Record.faithful fun subject => by
    obtain ⟨userEmail, serviceId, accessGroupId, accessGroupDef⟩ := subject
    cases accessGroupDef <;>
      simp [record, ↓String.reduceLT, blank, Format.faithful_text.read_write,
        AccessGroupRef.faithful.read_nullable]

/-- A subject with the reference of an older one where it has none. -/
def PolicySubject.laidOver (new : PolicySubject) (old : Option PolicySubject) : PolicySubject :=
  { new with accessGroupDef := new.accessGroupDef.or (old.bind (·.accessGroupDef)) }

/-- Merging a subject into an older one keeps the older reference where the newer one has none. -/
theorem PolicySubject.merges_over (old : Option PolicySubject) (new : PolicySubject) :
    PolicySubject.record.format.Merges old new (new.laidOver old) :=
  Record.merges (by decide) (by
    simp [record, laidOver, Field.merges_absentable AccessGroupRef.faithful
      AccessGroupRef.overwrites, -Slot.field, -Slot.text, -Field.absentable])

/-- The roles of a policy are read back. -/
lemma PolicyRoles.faithful : PolicyRoles.record.format.Faithful :=
  Record.faithful fun _ => by
    simp [record, ↓String.reduceLT, Format.faithful_text.list.read_write,
      CustomRoleRef.faithful.list.read_write]

/-- The roles of a policy overwrite. -/
lemma PolicyRoles.overwrites : PolicyRoles.record.format.Overwrites :=
  fun _ _ => Record.merges (by decide) (by
    simp [record, Slot.merges_of_overwrites, CustomRoleRef.faithful.list,
      Format.overwrites_list, -Slot.field, -Slot.texts])

/-- Targets are read back. -/
lemma PolicyTarget.faithful : PolicyTarget.record.format.Faithful :=
  Record.faithful fun _ => by simp [record, ↓String.reduceLT, Format.faithful_text.read_write]

/-- Targets overwrite. -/
lemma PolicyTarget.overwrites : PolicyTarget.record.format.Overwrites :=
  fun _ _ => Record.merges (by decide) (by simp [record, -Slot.field, -Slot.text])

/-- The specs of access policies are read back. -/
lemma AccessPolicySpec.faithful : AccessPolicySpec.record.format.Faithful :=
  Record.faithful fun _ => by
    simp [record, ↓String.reduceLT, subjectSlot, rolesSlot, targetSlot,
      PolicySubject.faithful.read_write, PolicyRoles.faithful.read_write,
      PolicyTarget.faithful.read_write]

/-- The sides of an authorization are read back. -/
lemma ServiceInfo.faithful : ServiceInfo.record.format.Faithful :=
  Record.faithful fun _ => by simp [record, ↓String.reduceLT, Format.faithful_text.read_write]

/-- The sides of an authorization overwrite. -/
lemma ServiceInfo.overwrites : ServiceInfo.record.format.Overwrites :=
  fun _ _ => Record.merges (by decide) (by simp [record, -Slot.field, -Slot.text])

/-! ## Specs -/

/-- The specs of access groups are read back. -/
lemma AccessGroupSpec.faithful : AccessGroupSpec.record.format.Faithful :=
  Record.faithful fun _ => by
    simp [record, ↓String.reduceLT, nameSlot, descriptionSlot, userEmailsSlot, serviceIdsSlot,
      Format.faithful_text.read_write, Format.faithful_text.list.read_write]

/-- The specs of authorization policies are read back. -/
lemma AuthorizationPolicySpec.faithful : AuthorizationPolicySpec.record.format.Faithful :=
  Record.faithful fun _ => by
    simp [record, ↓String.reduceLT, sourceSlot, rolesSlot, targetSlot,
      ServiceInfo.faithful.read_write, Format.faithful_text.list.read_write]

/-- The specs of custom roles are read back. -/
lemma CustomRoleSpec.faithful : CustomRoleSpec.record.format.Faithful :=
  Record.faithful fun _ => by
    simp [record, ↓String.reduceLT, roleNameSlot, serviceClassSlot, displayNameSlot,
      descriptionSlot, actionsSlot, Format.faithful_text.read_write,
      Format.faithful_text.list.read_write]

/-- The specs of every kind are read back. -/
theorem Kind.faithful_spec : (k : Kind) → k.specRecord.format.Faithful
  | .accessGroup => AccessGroupSpec.faithful
  | .accessPolicy => AccessPolicySpec.faithful
  | .authorizationPolicy => AuthorizationPolicySpec.faithful
  | .customRole => CustomRoleSpec.faithful

/-! ## Conditions -/

/-- States are read back. -/
lemma State.faithful (emptyCounts : Bool) : (State.format emptyCounts).Faithful where
  read_write state := by cases state <;> rfl
  isNull_write _ := rfl

/-- Conditions that stand alone are read back. -/
lemma Condition.faithful : Condition.record.format.Faithful :=
  Record.faithful fun _ => by
    simp [record, ↓String.reduceLT, fields, (State.faithful false).read_write,
      Format.faithful_text.read_write]

/-- States overwrite. -/
lemma State.overwrites (emptyCounts : Bool) : (State.format emptyCounts).Overwrites :=
  fun _ _ => rfl

/-! ## Statuses -/

namespace Status

/-- The statuses of access groups are read back. -/
lemma faithful_accessGroup : (record .accessGroup).format.Faithful :=
  Record.faithful fun _ => by
    simp [record, ↓String.reduceLT, Condition.fields, Kind.identityFields, Kind.appliedFields,
      EntityIdentity.fields, AccessGroupSpec.appliedFields, AccessGroupSpec.nameSlot,
      AccessGroupSpec.descriptionSlot,
      AccessGroupSpec.userEmailsSlot, AccessGroupSpec.serviceIdsSlot,
      (State.faithful true).read_write,
      Format.faithful_text.read_write, Format.faithful_text.list.read_write]

/-- The statuses of access policies are read back. -/
lemma faithful_accessPolicy : (record .accessPolicy).format.Faithful :=
  Record.faithful fun _ => by
    simp [record, ↓String.reduceLT, Condition.fields, Kind.identityFields, Kind.appliedFields,
      EntityIdentity.fields, AccessPolicySpec.appliedFields, AccessPolicySpec.subjectSlot,
      AccessPolicySpec.rolesSlot,
      AccessPolicySpec.targetSlot, (State.faithful true).read_write,
      Format.faithful_text.read_write,
      PolicySubject.faithful.read_write, PolicyRoles.faithful.read_write,
      PolicyTarget.faithful.read_write]

/-- The statuses of authorization policies are read back. -/
lemma faithful_authorizationPolicy : (record .authorizationPolicy).format.Faithful :=
  Record.faithful fun _ => by
    simp [record, ↓String.reduceLT, Condition.fields, Kind.identityFields, Kind.appliedFields,
      EntityIdentity.fields, AuthorizationPolicySpec.appliedFields,
      AuthorizationPolicySpec.sourceSlot, AuthorizationPolicySpec.rolesSlot,
      AuthorizationPolicySpec.targetSlot, (State.faithful true).read_write,
      Format.faithful_text.read_write,
      Format.faithful_text.list.read_write, ServiceInfo.faithful.read_write]

/-- The statuses of custom roles are read back. -/
lemma faithful_customRole : (record .customRole).format.Faithful :=
  Record.faithful fun _ => by
    simp [record, ↓String.reduceLT, Condition.fields, Kind.identityFields, Kind.appliedFields,
      RoleIdentity.fields, CustomRoleSpec.appliedFields, CustomRoleSpec.roleNameSlot,
      CustomRoleSpec.serviceClassSlot,
      CustomRoleSpec.displayNameSlot, CustomRoleSpec.descriptionSlot, CustomRoleSpec.actionsSlot,
      (State.faithful true).read_write, Format.faithful_text.read_write,
      Format.faithful_text.list.read_write]

/-- The statuses of every kind are read back. -/
lemma faithful : (k : Kind) → (record k).format.Faithful
  | .accessGroup => faithful_accessGroup
  | .accessPolicy => faithful_accessPolicy
  | .authorizationPolicy => faithful_authorizationPolicy
  | .customRole => faithful_customRole

end Status

/-! ## Merged statuses -/

/-- The fields of a condition overwrite. -/
lemma Condition.merges (emptyCounts : Bool) (old : Option Condition) (new : Condition) :
    ∀ field ∈ fields emptyCounts, field.Merges old new new := by
  simp [fields, Slot.merges_of_overwrites, State.faithful, State.overwrites,
    -Slot.field, -Slot.text]

namespace Kind

/-- The fields of an identity overwrite. -/
lemma merges_identity (k : Kind) (old : Option k.Identity) (new : k.Identity) :
    ∀ field ∈ k.identityFields, field.Merges old new new := by
  cases k <;> simp [identityFields, EntityIdentity.fields, RoleIdentity.fields,
    -Slot.field, -Slot.text]

/-- A spec that was applied with what stays of an older one when it is merged into that. -/
def appliedOver : (k : Kind) → k.Spec → Option k.Spec → k.Spec
  | .accessPolicy =>
      fun new old => { new with subject := new.subject.laidOver (old.map (·.subject)) }
  | .accessGroup => fun new _ => new
  | .authorizationPolicy => fun new _ => new
  | .customRole => fun new _ => new

/-- The fields of the spec that was applied last overwrite, but for the subject of an access
policy. -/
lemma merges_applied (k : Kind) (old : Option k.Spec) (new : k.Spec) :
    ∀ field ∈ k.appliedFields, field.Merges old new (k.appliedOver new old) := by
  cases k with
  | accessGroup =>
    simp [appliedFields, appliedOver, AccessGroupSpec.appliedFields, AccessGroupSpec.nameSlot,
      AccessGroupSpec.descriptionSlot, AccessGroupSpec.userEmailsSlot,
      AccessGroupSpec.serviceIdsSlot, -Slot.field,
      -Slot.text, -Slot.texts]
  | accessPolicy =>
    have hSubject := PolicySubject.merges_over (old.map (·.subject)) new.subject
    simp [appliedFields, appliedOver, AccessPolicySpec.appliedFields, AccessPolicySpec.subjectSlot,
      AccessPolicySpec.rolesSlot, AccessPolicySpec.targetSlot, Slot.merges_field,
      Slot.merges_of_overwrites,
      PolicySubject.faithful.isNull_write, hSubject, PolicyRoles.faithful, PolicyRoles.overwrites,
      PolicyTarget.faithful, PolicyTarget.overwrites, -Slot.field]
  | authorizationPolicy =>
    simp [appliedFields, appliedOver, AuthorizationPolicySpec.appliedFields,
      AuthorizationPolicySpec.sourceSlot, AuthorizationPolicySpec.rolesSlot,
      AuthorizationPolicySpec.targetSlot, Slot.merges_of_overwrites,
      ServiceInfo.faithful, ServiceInfo.overwrites, -Slot.field, -Slot.texts]
  | customRole =>
    simp [appliedFields, appliedOver, CustomRoleSpec.appliedFields, CustomRoleSpec.roleNameSlot,
      CustomRoleSpec.serviceClassSlot, CustomRoleSpec.displayNameSlot,
      CustomRoleSpec.descriptionSlot,
      CustomRoleSpec.actionsSlot, -Slot.field, -Slot.text, -Slot.texts]

end Kind

namespace Status

variable {k : Kind}

/-- A status with what stays of an older one when it is merged into that. -/
def laidOver (new : Status k) (old : Option (Status k)) : Status k :=
  { new with applied := k.appliedOver new.applied (old.map (·.applied)) }

/-- A written status that is merged into an older one, or into none. -/
theorem merges_over (old : Option (Status k)) (new : Status k) :
    (record k).format.Merges old new (new.laidOver old) := by
  refine Record.merges (by cases k <;> decide) fun field hField => ?_
  simp only [record, List.mem_append, List.mem_map] at hField
  rcases hField with (⟨f, hf, rfl⟩ | ⟨f, hf, rfl⟩) | ⟨f, hf, rfl⟩
  · exact .inlined (.within (Condition.merges true _ _ f hf))
  · exact .within (k.merges_identity _ _ f hf)
  · exact .within (k.merges_applied _ _ f hf)

end Status

/-! ## Resources -/

/-- Metadata that consist of a name and a namespace are read back. -/
lemma Metadata.read_write_of_names (name ns : String) :
    record.format.read (record.format.write { name := some name, ns := some ns }) =
      .ok { name := some name, ns := some ns } := by
  change record.readObject (Entries.ofList (Record.bindings record.fields _)) = _
  simp [record, ↓String.reduceLT, Format.faithful_text.read_nullable]

namespace Resource

variable {k : Kind}

/-- The fields of a written resource with a status. -/
lemma toJson_withStatus (r : Resource k) (s : Status k) :
    (r.withStatus s).toJson = .obj
      [ ("apiVersion", .str Kind.apiVersion), ("kind", .str k.name),
        ("metadata", Metadata.record.format.write r.metadata),
        ("spec", k.specRecord.format.write r.spec),
        ("status", (Status.record k).format.write s) ] := by
  change Json.obj (Entries.insert "kind" _ (Entries.insert "apiVersion" _
    (Entries.ofList (Record.bindings (record k).fields (r.withStatus s))))) = _
  simp [record, withStatus, ↓String.reduceLT, Field.byName]

/-- A resource with a status is read back when its metadata and its spec are. -/
lemma ofJson_toJson {r : Resource k} (s : Status k)
    (hMetadata : Metadata.record.format.read (Metadata.record.format.write r.metadata) =
      .ok r.metadata)
    (hSpec : k.specRecord.format.read (k.specRecord.format.write r.spec) = .ok r.spec) :
    ofJson k (r.withStatus s).toJson = .ok (r.withStatus s) := by
  rw [toJson_withStatus]
  change (record k).readObject _ = _
  simp [record, withStatus, Field.byName, hMetadata, hSpec, (Status.faithful k).read_nullable]

/-- The fields of a written resource without a status. -/
lemma toJson_of_status_eq_none {r : Resource k} (hStatus : r.status = none) : r.toJson = .obj
    [ ("apiVersion", .str Kind.apiVersion), ("kind", .str k.name),
      ("metadata", Metadata.record.format.write r.metadata),
      ("spec", k.specRecord.format.write r.spec) ] := by
  change Json.obj (Entries.insert "kind" _ (Entries.insert "apiVersion" _
    (Entries.ofList (Record.bindings (record k).fields r)))) = _
  simp [record, hStatus, ↓String.reduceLT, Field.byName]

/-- A resource is read back when its metadata are. -/
lemma ofJson_toJson_of_metadata {r : Resource k}
    (hMetadata : Metadata.record.format.read (Metadata.record.format.write r.metadata) =
      .ok r.metadata) :
    ofJson k r.toJson = .ok r := by
  have hSpec := (k.faithful_spec).read_write r.spec
  obtain ⟨metadata, spec, status⟩ := r
  cases status with
  | some s => exact ofJson_toJson (r := ⟨metadata, spec, none⟩) s hMetadata hSpec
  | none =>
    rw [toJson_of_status_eq_none rfl]
    change (record k).readObject _ = _
    simp [record, Field.byName, hMetadata, hSpec]

end Resource

end IamReconciler
