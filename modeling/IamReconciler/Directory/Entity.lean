import IamReconciler.Attributes

/-!
# Remote entities

What the remote IAM service keeps for an account: groups with their members, policies, custom roles,
users and service identities, and the roles that can be granted.
-/

namespace IamReconciler

/-- The mark before every description that the operator writes. -/
def ownershipMark : String := "OPERATOR OWNED: "

/-- A description with the ownership mark. -/
def ownedDescription (description : String) : String :=
  ownershipMark ++ description

/-- A token that a read returns and that an update has to present. -/
structure Etag where
  token : String
  deriving DecidableEq, Repr, Inhabited

/-! ## Groups -/

/-- The name and the description that a group is to have. -/
structure GroupRequest where
  name : String
  description : String
  deriving DecidableEq, Repr, Inhabited

/-- A group. -/
structure RemoteGroup where
  id : String
  name : String
  description : String
  deriving DecidableEq, Repr, Inhabited

/-- Whether a member is a user or a service. -/
inductive MemberKind where
  | user
  | service
  deriving DecidableEq, Repr, Inhabited

/-- A member of a group, known by its IAM identifier. -/
structure GroupMember where
  id : String
  kind : MemberKind
  deriving DecidableEq, Repr, Inhabited

/-! ## Identities -/

/-- A user of the account. -/
structure AccountUser where
  id : String
  /-- The login, which is an email address. -/
  userId : String
  iamId : String
  state : String
  deriving DecidableEq, Repr, Inhabited

/-- The state of a user who has not accepted an invitation. -/
def pendingUserState : String := "PENDING"

/-- A user can be referred to when login and identifier are known and the invitation is not
pending. -/
def AccountUser.isUsable (u : AccountUser) : Bool :=
  !u.userId.isEmpty && !u.iamId.isEmpty && u.state ≠ pendingUserState

/-- A service identity. -/
structure ServiceIdentity where
  id : String
  iamId : String
  deriving DecidableEq, Repr, Inhabited

/-! ## Policies -/

/-- A role that a policy can grant, with its display name. -/
structure PolicyRole where
  id : String
  name : String
  deriving DecidableEq, Repr, Inhabited

/-- Whether a policy grants a subject access or authorizes a service. -/
inductive PolicyKind where
  | access
  | authorization
  deriving DecidableEq, Repr, Inhabited

/-- What a policy says. -/
structure Policy where
  kind : PolicyKind
  subjects : List Attributes
  roles : List PolicyRole
  resources : List Attributes
  deriving DecidableEq, Inhabited

/-- A policy with its identifier. -/
structure RemotePolicy where
  id : String
  policy : Policy
  deriving DecidableEq, Inhabited

/-! ## Custom roles -/

/-- What a custom role is to be. -/
structure RoleRequest where
  name : String
  serviceName : String
  accountId : String
  displayName : String
  description : String
  actions : List String
  deriving DecidableEq, Repr, Inhabited

/-- What of a custom role is to change. -/
structure RoleUpdate where
  displayName : String
  description : String
  actions : List String
  deriving DecidableEq, Repr, Inhabited

/-- A custom role. -/
structure RemoteRole where
  id : String
  crn : String
  name : String
  serviceName : String
  displayName : String
  description : String
  actions : List String
  deriving DecidableEq, Repr, Inhabited

/-- A custom role as a role that a policy can grant. -/
def RemoteRole.asPolicyRole (r : RemoteRole) : PolicyRole :=
  ⟨r.crn, r.displayName⟩

end IamReconciler
