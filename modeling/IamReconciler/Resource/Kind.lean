import IamReconciler.Resource.AccessGroup
import IamReconciler.Resource.AccessPolicy
import IamReconciler.Resource.AuthorizationPolicy
import IamReconciler.Resource.CustomRole

/-!
# Kinds

The four kinds of declared resources.  Each kind has a type of specs and a type of identities, which
say what a status records of the remote entity: its identifier, and for a custom role also its
resource name.

The functions of this file give, kind by kind, the names, formats and rules that the rest of the
library uses without looking at the kind.
-/

namespace IamReconciler

/-- The kinds of declared resources. -/
inductive Kind where
  | accessGroup
  | accessPolicy
  | authorizationPolicy
  | customRole
  deriving DecidableEq, Repr, Inhabited

namespace Kind

/-! ## Names -/

/-- All kinds, in the order of their manifests. -/
def all : List Kind := [.accessGroup, .accessPolicy, .authorizationPolicy, .customRole]

/-- The name of a kind. -/
def name : Kind → String
  | .accessGroup => "AccessGroup"
  | .accessPolicy => "AccessPolicy"
  | .authorizationPolicy => "AuthorizationPolicy"
  | .customRole => "CustomRole"

/-- The kind of a name. -/
def ofName? (name : String) : Option Kind :=
  all.find? fun kind => kind.name = name

/-- The name of a kind in messages. -/
def noun : Kind → String
  | .accessGroup => "access group"
  | .accessPolicy => "access policy"
  | .authorizationPolicy => "authorization policy"
  | .customRole => "custom role"

/-- The name of one resource of a kind in manifests. -/
def singular : Kind → String
  | .accessGroup => "accessgroup"
  | .accessPolicy => "accesspolicy"
  | .authorizationPolicy => "authorizationpolicy"
  | .customRole => "customrole"

/-- The name of the resources of a kind in paths. -/
def plural : Kind → String
  | .accessGroup => "accessgroups"
  | .accessPolicy => "accesspolicies"
  | .authorizationPolicy => "authorizationpolicies"
  | .customRole => "customroles"

/-- The group of all kinds. -/
def apiGroup : String := "ibmcloud.ibm.com"

/-- The version of all kinds. -/
def version : String := "v1alpha1"

/-- The group and the version of all kinds. -/
def apiVersion : String := apiGroup ++ "/" ++ version

/-- The finalizer that holds back the deletion of a resource. -/
def finalizer (k : Kind) : String :=
  k.singular ++ "." ++ apiGroup

/-! ## Specs -/

/-- What a resource of a kind declares. -/
@[reducible] def Spec : Kind → Type
  | .accessGroup => AccessGroupSpec
  | .accessPolicy => AccessPolicySpec
  | .authorizationPolicy => AuthorizationPolicySpec
  | .customRole => CustomRoleSpec

instance decidableEqSpec : (k : Kind) → DecidableEq k.Spec
  | .accessGroup => inferInstanceAs (DecidableEq AccessGroupSpec)
  | .accessPolicy => inferInstanceAs (DecidableEq AccessPolicySpec)
  | .authorizationPolicy => inferInstanceAs (DecidableEq AuthorizationPolicySpec)
  | .customRole => inferInstanceAs (DecidableEq CustomRoleSpec)

/-- The spec in which nothing is declared. -/
def blankSpec : (k : Kind) → k.Spec
  | .accessGroup => AccessGroupSpec.blank
  | .accessPolicy => AccessPolicySpec.blank
  | .authorizationPolicy => AuthorizationPolicySpec.blank
  | .customRole => CustomRoleSpec.blank

/-- The format of specs. -/
def specRecord : (k : Kind) → Record k.Spec
  | .accessGroup => AccessGroupSpec.record
  | .accessPolicy => AccessPolicySpec.record
  | .authorizationPolicy => AuthorizationPolicySpec.record
  | .customRole => CustomRoleSpec.record

/-- The fields by which a status restates the spec that was applied last. -/
def appliedFields : (k : Kind) → List (Field k.Spec)
  | .accessGroup => AccessGroupSpec.appliedFields
  | .accessPolicy => AccessPolicySpec.appliedFields
  | .authorizationPolicy => AuthorizationPolicySpec.appliedFields
  | .customRole => CustomRoleSpec.appliedFields

/-- What a spec has to satisfy. -/
def rules : (k : Kind) → k.Spec → List Rule
  | .accessGroup => AccessGroupSpec.rules
  | .accessPolicy => AccessPolicySpec.rules
  | .authorizationPolicy => AuthorizationPolicySpec.rules
  | .customRole => CustomRoleSpec.rules

/-- A spec is well formed when it breaks no rule. -/
def validate (k : Kind) (spec : k.Spec) : Except Error Unit :=
  Rule.check (k.rules spec)

/-- Two specs declare different states of the remote entity. -/
def differs : (k : Kind) → k.Spec → k.Spec → Bool
  | .accessGroup => AccessGroupSpec.differs
  | .accessPolicy => AccessPolicySpec.differs
  | .authorizationPolicy => AuthorizationPolicySpec.differs
  | .customRole => CustomRoleSpec.differs

/-- Two specs differ in what cannot change once the remote entity exists. -/
def differsImmutably : (k : Kind) → k.Spec → k.Spec → Bool
  | .customRole => CustomRoleSpec.differsImmutably
  | .accessGroup => fun _ _ => false
  | .accessPolicy => fun _ _ => false
  | .authorizationPolicy => fun _ _ => false

/-- The spec with what cannot change taken from another. -/
def withImmutableOf : (k : Kind) → k.Spec → k.Spec → k.Spec
  | .customRole => CustomRoleSpec.withImmutableOf
  | .accessGroup => fun s _ => s
  | .accessPolicy => fun s _ => s
  | .authorizationPolicy => fun s _ => s

end Kind

/-! ## Identities -/

/-- How a remote entity is known after it was created or updated. -/
structure RemoteRef where
  id : String
  /-- The resource name, if the service gave one. -/
  crn : Option String
  deriving DecidableEq, Repr, Inhabited

/-- The identity of an entity that is known by its identifier alone. -/
structure EntityIdentity where
  id : String
  deriving DecidableEq, Repr, Inhabited

/-- The identity of a custom role: its identifier and its resource name. -/
structure RoleIdentity where
  id : String
  crn : String
  deriving DecidableEq, Repr, Inhabited

/-- The field of an identifier. -/
def EntityIdentity.fields (name doc : String) : List (Field EntityIdentity) :=
  [(Slot.text name (·.id) fun v i => { i with id := v }).defaulted doc]

/-- The fields of a custom role's identity. -/
def RoleIdentity.fields : List (Field RoleIdentity) :=
  [ (Slot.text "roleID" (·.id) fun v i => { i with id := v }).defaulted "Remote role ID",
    (Slot.text "roleCRN" (·.crn) fun v i => { i with crn := v }).defaulted "Remote role CRN" ]

namespace Kind

/-- What a status records of the remote entity. -/
@[reducible] def Identity : Kind → Type
  | .accessGroup => EntityIdentity
  | .accessPolicy => EntityIdentity
  | .authorizationPolicy => EntityIdentity
  | .customRole => RoleIdentity

instance decidableEqIdentity : (k : Kind) → DecidableEq k.Identity
  | .accessGroup => inferInstanceAs (DecidableEq EntityIdentity)
  | .accessPolicy => inferInstanceAs (DecidableEq EntityIdentity)
  | .authorizationPolicy => inferInstanceAs (DecidableEq EntityIdentity)
  | .customRole => inferInstanceAs (DecidableEq RoleIdentity)

/-- The identity of no entity. -/
def noIdentity : (k : Kind) → k.Identity
  | .accessGroup => ⟨""⟩
  | .accessPolicy => ⟨""⟩
  | .authorizationPolicy => ⟨""⟩
  | .customRole => ⟨"", ""⟩

/-- The identifier in an identity, empty for no entity. -/
def idOf : (k : Kind) → k.Identity → String
  | .accessGroup => EntityIdentity.id
  | .accessPolicy => EntityIdentity.id
  | .authorizationPolicy => EntityIdentity.id
  | .customRole => RoleIdentity.id

/-- The identity of the entity that a remote reference gives; a role without a new resource name
keeps its old one. -/
def identify : (k : Kind) → k.Identity → RemoteRef → k.Identity
  | .accessGroup => fun _ ref => ⟨ref.id⟩
  | .accessPolicy => fun _ ref => ⟨ref.id⟩
  | .authorizationPolicy => fun _ ref => ⟨ref.id⟩
  | .customRole => fun old ref => ⟨ref.id, ref.crn.getD old.crn⟩

/-- The fields of an identity in a status. -/
def identityFields : (k : Kind) → List (Field k.Identity)
  | .accessGroup => EntityIdentity.fields "groupID" "Remote access group ID"
  | .accessPolicy => EntityIdentity.fields "policyID" "Remote policy ID"
  | .authorizationPolicy => EntityIdentity.fields "policyID" "Remote policy ID"
  | .customRole => RoleIdentity.fields

end Kind

end IamReconciler
