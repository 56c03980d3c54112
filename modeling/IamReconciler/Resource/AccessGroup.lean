import IamReconciler.Json.Record
import IamReconciler.Resource.Validation
import IamReconciler.SameElements

/-!
# Access groups

An access group collects users and service identities under a name.
-/

namespace IamReconciler

/-- What an access group is declared to be. -/
structure AccessGroupSpec where
  name : String
  description : String
  userEmails : List String
  serviceIds : List String
  deriving DecidableEq, Repr, Inhabited

namespace AccessGroupSpec

/-- The spec in which nothing is declared. -/
def blank : AccessGroupSpec := ⟨"", "", [], []⟩

/-! ## Format -/

/-- The slot of the group's name. -/
def nameSlot : Slot AccessGroupSpec String := .text "name" (·.name) fun v s => { s with name := v }

/-- The slot of the description. -/
def descriptionSlot : Slot AccessGroupSpec String :=
  .text "description" (·.description) fun v s => { s with description := v }

/-- The slot of the users. -/
def userEmailsSlot : Slot AccessGroupSpec (List String) :=
  .texts "userEmails" (·.userEmails) fun v s => { s with userEmails := v }

/-- The slot of the service identities. -/
def serviceIdsSlot : Slot AccessGroupSpec (List String) :=
  .texts "serviceIDs" (·.serviceIds) fun v s => { s with serviceIds := v }

/-- The format of a spec. -/
def record : Record AccessGroupSpec where
  expected := "struct AccessGroupSpec"
  doc := "AccessGroup declares a remote IAM access group with user and service ID members.\n\n" ++
    "Example: ```yaml apiVersion: ibmcloud.ibm.com/v1alpha1 kind: AccessGroup metadata: name: " ++
    "developers spec: name: developers description: Application developers userEmails: " ++
    "[dev@example.com] serviceIDs: [ServiceId-1234] ```"
  blank := blank
  fields :=
    [ nameSlot.required "Name of the remote access group",
      descriptionSlot.defaulted "Description (the ownership marker is added remotely)",
      userEmailsSlot.defaulted "Users to add, by email; users not yet in the account are invited",
      serviceIdsSlot.defaulted "Service IDs to add" ]
  layout := .plain

/-- The fields of a spec that was applied last. -/
def appliedFields : List (Field AccessGroupSpec) :=
  [ nameSlot.defaulted "Last applied name",
    descriptionSlot.defaulted "Last applied description",
    userEmailsSlot.defaulted "Last applied user emails",
    serviceIdsSlot.defaulted "Last applied service IDs" ]

/-! ## Rules -/

/-- What a spec has to satisfy. -/
def rules (s : AccessGroupSpec) : List Rule :=
  [ ⟨Text.isBlank s.name, "spec.name", "access group name must be set"⟩,
    ⟨s.userEmails.isEmpty && s.serviceIds.isEmpty, "spec",
      "at least one of userEmails or serviceIDs must be set"⟩,
    .noBlankEntries "spec.userEmails" s.userEmails,
    .noBlankEntries "spec.serviceIDs" s.serviceIds ]

/-- Two specs declare different groups; users and service identities compare as sets. -/
def differs (s t : AccessGroupSpec) : Bool :=
  s.name ≠ t.name || s.description ≠ t.description ||
    !sameElements s.userEmails t.userEmails || !sameElements s.serviceIds t.serviceIds

end AccessGroupSpec

end IamReconciler
