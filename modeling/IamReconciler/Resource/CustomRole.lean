import IamReconciler.Json.Record
import IamReconciler.Resource.Validation
import IamReconciler.SameElements

/-!
# Custom roles

A custom role allows actions of one service.  Its name and its service cannot change once it exists.
-/

namespace IamReconciler

/-- What a custom role is declared to be. -/
structure CustomRoleSpec where
  roleName : String
  serviceClass : String
  displayName : String
  description : String
  actions : List String
  deriving DecidableEq, Repr, Inhabited

namespace CustomRoleSpec

/-- The spec in which nothing is declared. -/
def blank : CustomRoleSpec := ⟨"", "", "", "", []⟩

/-! ## Format -/

/-- The slot of the role's name. -/
def roleNameSlot : Slot CustomRoleSpec String :=
  .text "roleName" (·.roleName) fun v s => { s with roleName := v }

/-- The slot of the service. -/
def serviceClassSlot : Slot CustomRoleSpec String :=
  .text "serviceClass" (·.serviceClass) fun v s => { s with serviceClass := v }

/-- The slot of the display name. -/
def displayNameSlot : Slot CustomRoleSpec String :=
  .text "displayName" (·.displayName) fun v s => { s with displayName := v }

/-- The slot of the description. -/
def descriptionSlot : Slot CustomRoleSpec String :=
  .text "description" (·.description) fun v s => { s with description := v }

/-- The slot of the actions. -/
def actionsSlot : Slot CustomRoleSpec (List String) :=
  .texts "actions" (·.actions) fun v s => { s with actions := v }

/-- The format of a spec. -/
def record : Record CustomRoleSpec where
  expected := "struct CustomRoleSpec"
  doc := "CustomRole declares a remote IAM custom role.\n\n" ++
    "`roleName` and `serviceClass` cannot change once the role exists; edits to them are " ++
    "reverted by the controller.\n\n" ++
    "Example: ```yaml apiVersion: ibmcloud.ibm.com/v1alpha1 kind: CustomRole metadata: name: " ++
    "bucket-reader spec: roleName: BucketReader serviceClass: cloud-object-storage displayName: " ++
    "Bucket Reader description: Read objects in buckets actions: " ++
    "[cloud-object-storage.object.get] ```"
  blank := blank
  fields :=
    [ roleNameSlot.required "Role name, immutable",
      serviceClassSlot.required "Service the role belongs to, immutable",
      displayNameSlot.required "Display name used when policies reference the role",
      descriptionSlot.defaulted "Description (the ownership marker is added remotely)",
      actionsSlot.defaulted "Service actions the role allows" ]
  layout := .plain

/-- The fields of a spec that was applied last. -/
def appliedFields : List (Field CustomRoleSpec) :=
  [ roleNameSlot.defaulted "Last applied role name",
    serviceClassSlot.defaulted "Last applied service class",
    displayNameSlot.defaulted "Last applied display name",
    descriptionSlot.defaulted "Last applied description",
    actionsSlot.defaulted "Last applied actions" ]

/-! ## Rules -/

/-- What a spec has to satisfy. -/
def rules (s : CustomRoleSpec) : List Rule :=
  [ ⟨Text.isBlank s.roleName, "spec.roleName", "role name must be set"⟩,
    ⟨Text.isBlank s.serviceClass, "spec.serviceClass", "service class must be set"⟩,
    ⟨Text.isBlank s.displayName, "spec.displayName", "display name must be set"⟩,
    ⟨s.actions.isEmpty, "spec.actions", "at least one action must be set"⟩,
    .noBlankEntries "spec.actions" s.actions ]

/-- Two specs differ in what can change; actions compare as sets. -/
def differs (s t : CustomRoleSpec) : Bool :=
  s.displayName ≠ t.displayName || s.description ≠ t.description ||
    !sameElements s.actions t.actions

/-- Two specs differ in what cannot change. -/
def differsImmutably (s t : CustomRoleSpec) : Bool :=
  s.roleName ≠ t.roleName || s.serviceClass ≠ t.serviceClass

/-- The spec with what cannot change taken from another. -/
def withImmutableOf (s t : CustomRoleSpec) : CustomRoleSpec :=
  { s with roleName := t.roleName, serviceClass := t.serviceClass }

end CustomRoleSpec

end IamReconciler
