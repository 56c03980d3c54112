import IamReconciler.Json.Record
import IamReconciler.Resource.Validation
import IamReconciler.SameElements

/-!
# Authorization policies

An authorization policy grants a source service roles on a target service.  Either side may be
narrowed to a resource group or to an instance, and within these to a resource.
-/

namespace IamReconciler

/-- One side of an authorization policy: a service and, within it, a resource. -/
structure ServiceInfo where
  serviceClass : String
  serviceId : String
  resourceName : String
  resourceId : String
  resourceKey : String
  resourceValue : String
  resourceGroup : String
  deriving DecidableEq, Repr, Inhabited

namespace ServiceInfo

/-- The side that names nothing. -/
def blank : ServiceInfo := ⟨"", "", "", "", "", "", ""⟩

/-- The format of one side. -/
def record : Record ServiceInfo where
  expected := "struct ServiceInfo"
  doc := "Service (and optionally a resource within it) on one side of the policy"
  blank := blank
  fields :=
    [ (Slot.text "serviceClass" (·.serviceClass) fun v i => { i with serviceClass := v }).defaulted
        "Service name",
      (Slot.text "serviceID" (·.serviceId) fun v i => { i with serviceId := v }).defaulted
        "Service instance; excludes `resourceGroup`",
      (Slot.text "resourceName" (·.resourceName) fun v i => { i with resourceName := v }).defaulted
        "Resource type",
      (Slot.text "resourceID" (·.resourceId) fun v i => { i with resourceId := v }).defaulted
        "Resource",
      (Slot.text "resourceKey" (·.resourceKey) fun v i => { i with resourceKey := v }).defaulted
        "Free-form attribute name",
      (Slot.text "resourceValue" (·.resourceValue) fun v i =>
          { i with resourceValue := v }).defaulted
        "Free-form attribute value",
      (Slot.text "resourceGroup" (·.resourceGroup) fun v i =>
          { i with resourceGroup := v }).defaulted
        "Resource group ID; excludes `serviceID`" ]
  layout := .plain

/-- The side names a resource within the service. -/
def isNarrowed (i : ServiceInfo) : Bool :=
  !i.resourceName.isEmpty || !i.resourceId.isEmpty || !i.resourceKey.isEmpty ||
    !i.resourceValue.isEmpty

/-- What one side has to satisfy. -/
def rules (field : String) (i : ServiceInfo) : List Rule :=
  [ ⟨i.serviceClass.isEmpty, field, "serviceClass must be set"⟩,
    ⟨!i.resourceGroup.isEmpty && !i.serviceId.isEmpty, field,
      "resourceGroup and serviceID are mutually exclusive"⟩,
    ⟨i.isNarrowed && i.resourceGroup.isEmpty && i.serviceId.isEmpty, field,
      "resource attributes require resourceGroup or serviceID"⟩ ]

end ServiceInfo

/-- What an authorization policy is declared to be. -/
structure AuthorizationPolicySpec where
  source : ServiceInfo
  roles : List String
  target : ServiceInfo
  deriving DecidableEq, Repr, Inhabited

namespace AuthorizationPolicySpec

/-- The spec in which nothing is declared. -/
def blank : AuthorizationPolicySpec := ⟨.blank, [], .blank⟩

/-- The slot of the source. -/
def sourceSlot : Slot AuthorizationPolicySpec ServiceInfo :=
  ⟨"source", ServiceInfo.record.format, .blank, (·.source), fun v s => { s with source := v }⟩

/-- The slot of the roles. -/
def rolesSlot : Slot AuthorizationPolicySpec (List String) :=
  .texts "roles" (·.roles) fun v s => { s with roles := v }

/-- The slot of the target. -/
def targetSlot : Slot AuthorizationPolicySpec ServiceInfo :=
  ⟨"target", ServiceInfo.record.format, .blank, (·.target), fun v s => { s with target := v }⟩

/-- The format of a spec. -/
def record : Record AuthorizationPolicySpec where
  expected := "struct AuthorizationPolicySpec"
  doc := "AuthorizationPolicy declares a service-to-service authorization.\n\n" ++
    "Example: ```yaml apiVersion: ibmcloud.ibm.com/v1alpha1 kind: AuthorizationPolicy metadata: " ++
    "name: cos-to-kms spec: source: serviceClass: cloud-object-storage roles: [Reader] target: " ++
    "serviceClass: kms ```"
  blank := blank
  fields :=
    [ sourceSlot.required "Service granted access",
      rolesSlot.defaulted "Authorization roles by display name",
      targetSlot.required "Service access is granted to" ]
  layout := .plain

/-- The fields of a spec that was applied last. -/
def appliedFields : List (Field AuthorizationPolicySpec) :=
  [ sourceSlot.defaulted "Last applied source",
    rolesSlot.defaulted "Last applied roles",
    targetSlot.defaulted "Last applied target" ]

/-- What a spec has to satisfy. -/
def rules (s : AuthorizationPolicySpec) : List Rule :=
  s.source.rules "spec.source" ++ s.target.rules "spec.target" ++
    [ ⟨s.roles.isEmpty, "spec.roles", "at least one role must be set"⟩,
      .noBlankEntries "spec.roles" s.roles ]

/-- Two specs declare different policies; roles compare as sets. -/
def differs (s t : AuthorizationPolicySpec) : Bool :=
  s.source ≠ t.source || !sameElements s.roles t.roles || s.target ≠ t.target

end AuthorizationPolicySpec

end IamReconciler
