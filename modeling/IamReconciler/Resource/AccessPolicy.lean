import IamReconciler.Json.Record
import IamReconciler.Resource.Validation
import IamReconciler.SameElements

/-!
# Access policies

An access policy grants roles on a target to a subject: a user, a service identity, or an access
group that is named by its identifier or by its declaration.
-/

namespace IamReconciler

/-! ## Subjects -/

/-- A reference to the declaration of an access group. -/
structure AccessGroupRef where
  name : String
  /-- The namespace of the declaration, empty for the policy's own. -/
  ns : String
  deriving DecidableEq, Repr, Inhabited

/-- The format of a reference to an access group. -/
def AccessGroupRef.record : Record AccessGroupRef where
  expected := "struct AccessGroupRef"
  doc := "Reference to an AccessGroup resource"
  blank := ⟨"", ""⟩
  fields :=
    [ (Slot.text "accessGroupName" (·.name) fun v r => { r with name := v }).required
        "Resource name",
      (Slot.text "accessGroupNamespace" (·.ns) fun v r => { r with ns := v }).defaulted
        "Resource namespace, defaults to the policy's namespace" ]
  layout := .plain

/-- To whom a policy applies; a well-formed policy sets exactly one selector. -/
structure PolicySubject where
  userEmail : String
  serviceId : String
  accessGroupId : String
  accessGroupDef : Option AccessGroupRef
  deriving DecidableEq, Repr, Inhabited

namespace PolicySubject

/-- The subject without a selector. -/
def blank : PolicySubject := ⟨"", "", "", none⟩

/-- The format of a subject. -/
def record : Record PolicySubject where
  expected := "struct PolicySubject"
  doc := "Policy subject; exactly one selector is set"
  blank := blank
  fields :=
    [ (Slot.text "userEmail" (·.userEmail) fun v s => { s with userEmail := v }).defaulted
        "User email",
      (Slot.text "serviceID" (·.serviceId) fun v s => { s with serviceId := v }).defaulted
        "Service ID",
      (Slot.text "accessGroupID" (·.accessGroupId) fun v s =>
          { s with accessGroupId := v }).defaulted
        "Remote access group ID",
      .absentable "accessGroupDef" "Reference to an AccessGroup resource"
        AccessGroupRef.record.format (·.accessGroupDef) fun v s =>
          { s with accessGroupDef := v } ]
  layout := .plain

/-- The names of the selectors that are set. -/
def selectors (s : PolicySubject) : List String :=
  (if s.userEmail.isEmpty then [] else ["userEmail"]) ++
    (if s.serviceId.isEmpty then [] else ["serviceID"]) ++
    (if s.accessGroupId.isEmpty then [] else ["accessGroupID"]) ++
    (if s.accessGroupDef.all (·.name.isEmpty) then [] else ["accessGroupDef"])

end PolicySubject

/-! ## Roles -/

/-- A reference to the declaration of a custom role. -/
structure CustomRoleRef where
  name : String
  /-- The namespace of the declaration, empty for the policy's own. -/
  ns : String
  deriving DecidableEq, Repr, Inhabited

/-- The format of a reference to a custom role. -/
def CustomRoleRef.record : Record CustomRoleRef where
  expected := "struct CustomRoleRef"
  doc := "Reference to a CustomRole resource"
  blank := ⟨"", ""⟩
  fields :=
    [ (Slot.text "customRoleName" (·.name) fun v r => { r with name := v }).required
        "Resource name",
      (Slot.text "customRoleNamespace" (·.ns) fun v r => { r with ns := v }).defaulted
        "Resource namespace, defaults to the policy's namespace" ]
  layout := .plain

/-- The roles that a policy grants. -/
structure PolicyRoles where
  /-- Roles that a service or the platform defines, by display name. -/
  definedRoles : List String
  /-- Custom roles of the account, by display name. -/
  customRoleNames : List String
  /-- Custom roles that are declared. -/
  customRoleRefs : List CustomRoleRef
  deriving DecidableEq, Repr, Inhabited

namespace PolicyRoles

/-- No role. -/
def blank : PolicyRoles := ⟨[], [], []⟩

/-- The format of the roles of a policy. -/
def record : Record PolicyRoles where
  expected := "struct PolicyRoles"
  doc := "Roles granted by the policy"
  blank := blank
  fields :=
    [ (Slot.texts "definedRoles" (·.definedRoles) fun v r => { r with definedRoles := v }).defaulted
        "Service or platform roles by display name",
      (Slot.texts "customRolesDName" (·.customRoleNames) fun v r =>
          { r with customRoleNames := v }).defaulted
        "Existing custom roles by display name",
      Slot.defaulted ⟨"customRolesDef", .list CustomRoleRef.record.format, [], (·.customRoleRefs),
          fun v r => { r with customRoleRefs := v }⟩
        "CustomRole resources managed by this operator" ]
  layout := .plain

/-- No role is asked for. -/
def isEmpty (r : PolicyRoles) : Bool :=
  r.definedRoles.isEmpty && r.customRoleNames.isEmpty && r.customRoleRefs.isEmpty

/-- The roles differ as sets. -/
def differs (r t : PolicyRoles) : Bool :=
  !sameElements r.definedRoles t.definedRoles ||
    !sameElements r.customRoleNames t.customRoleNames ||
    !sameElements r.customRoleRefs t.customRoleRefs

end PolicyRoles

/-! ## Targets -/

/-- What a policy applies to. -/
structure PolicyTarget where
  resourceGroup : String
  serviceClass : String
  serviceId : String
  resourceName : String
  resourceId : String
  resourceKey : String
  resourceValue : String
  region : String
  deriving DecidableEq, Repr, Inhabited

namespace PolicyTarget

/-- The target without any restriction. -/
def blank : PolicyTarget := ⟨"", "", "", "", "", "", "", ""⟩

/-- The format of a target. -/
def record : Record PolicyTarget where
  expected := "struct PolicyTarget"
  doc := "Resource the policy applies to"
  blank := blank
  fields :=
    [ (Slot.text "resourceGroup" (·.resourceGroup) fun v t =>
          { t with resourceGroup := v }).defaulted
        "Resource group ID",
      (Slot.text "serviceClass" (·.serviceClass) fun v t => { t with serviceClass := v }).defaulted
        "Service name (e.g., cloud-object-storage)",
      (Slot.text "serviceID" (·.serviceId) fun v t => { t with serviceId := v }).defaulted
        "Service instance",
      (Slot.text "resourceName" (·.resourceName) fun v t => { t with resourceName := v }).defaulted
        "Resource type",
      (Slot.text "resourceID" (·.resourceId) fun v t => { t with resourceId := v }).defaulted
        "Resource",
      (Slot.text "resourceKey" (·.resourceKey) fun v t => { t with resourceKey := v }).defaulted
        "Free-form attribute name",
      (Slot.text "resourceValue" (·.resourceValue) fun v t =>
          { t with resourceValue := v }).defaulted
        "Free-form attribute value",
      (Slot.text "region" (·.region) fun v t => { t with region := v }).defaulted "Region" ]
  layout := .plain

end PolicyTarget

/-! ## Policies -/

/-- What an access policy is declared to be. -/
structure AccessPolicySpec where
  subject : PolicySubject
  roles : PolicyRoles
  target : PolicyTarget
  deriving DecidableEq, Repr, Inhabited

namespace AccessPolicySpec

/-- The spec in which nothing is declared. -/
def blank : AccessPolicySpec := ⟨.blank, .blank, .blank⟩

/-- The slot of the subject. -/
def subjectSlot : Slot AccessPolicySpec PolicySubject :=
  ⟨"subject", PolicySubject.record.format, .blank, (·.subject), fun v s => { s with subject := v }⟩

/-- The slot of the roles. -/
def rolesSlot : Slot AccessPolicySpec PolicyRoles :=
  ⟨"roles", PolicyRoles.record.format, .blank, (·.roles), fun v s => { s with roles := v }⟩

/-- The slot of the target. -/
def targetSlot : Slot AccessPolicySpec PolicyTarget :=
  ⟨"target", PolicyTarget.record.format, .blank, (·.target), fun v s => { s with target := v }⟩

/-- The format of a spec. -/
def record : Record AccessPolicySpec where
  expected := "struct AccessPolicySpec"
  doc := "AccessPolicy declares a remote IAM access policy.\n\n" ++
    "Exactly one subject selector is set. Roles may come from the service's defined roles, from " ++
    "existing custom roles by display name, or from CustomRole resources managed by this " ++
    "operator.\n\n" ++
    "Example: ```yaml apiVersion: ibmcloud.ibm.com/v1alpha1 kind: AccessPolicy metadata: name: " ++
    "devs-cos-writer spec: subject: accessGroupDef: accessGroupName: developers roles: " ++
    "definedRoles: [Viewer, Writer] target: serviceClass: cloud-object-storage ```"
  blank := blank
  fields :=
    [ subjectSlot.required "Who the policy applies to",
      rolesSlot.required "Roles granted",
      targetSlot.required "What the policy applies to" ]
  layout := .plain

/-- The fields of a spec that was applied last. -/
def appliedFields : List (Field AccessPolicySpec) :=
  [ subjectSlot.defaulted "Last applied subject",
    rolesSlot.defaulted "Last applied roles",
    targetSlot.defaulted "Last applied target" ]

/-- What a spec has to satisfy. -/
def rules (s : AccessPolicySpec) : List Rule :=
  let selectors := s.subject.selectors
  [ ⟨selectors.length ≠ 1, "spec.subject",
      "exactly one of userEmail, serviceID, accessGroupID or accessGroupDef must be set, found [" ++
        ", ".intercalate selectors ++ "]"⟩,
    ⟨s.roles.isEmpty, "spec.roles", "at least one role must be set"⟩,
    .noBlankEntries "spec.roles.definedRoles" s.roles.definedRoles,
    .noBlankEntries "spec.roles.customRolesDName" s.roles.customRoleNames,
    ⟨s.roles.customRoleRefs.any (·.name.isEmpty), "spec.roles.customRolesDef",
      "customRoleName must be set"⟩,
    ⟨s.target.resourceKey.isEmpty ≠ s.target.resourceValue.isEmpty, "spec.target",
      "resourceKey and resourceValue must be set together"⟩ ]

/-- Two specs declare different policies; roles compare as sets. -/
def differs (s t : AccessPolicySpec) : Bool :=
  s.subject ≠ t.subject || s.roles.differs t.roles || s.target ≠ t.target

end AccessPolicySpec

end IamReconciler
