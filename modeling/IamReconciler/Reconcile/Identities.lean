import IamReconciler.Reconcile.Pass

/-!
# Resolving identities and roles

A spec names users by email, service identities by their identifiers and roles by their display
names; the remote service knows all of them by other identifiers.  A user who is not in the account
may be invited, or a look-up may be confined to users who are there already.
-/

namespace IamReconciler

/-- How users who are missing from the account are treated. -/
inductive UserLookup where
  /-- They are invited, and a user who cannot be used is an error. -/
  | invite
  /-- Nothing is changed, and a user who is missing or cannot be used is passed over. -/
  | existing
  deriving DecidableEq, Repr

namespace Resolve

/-- The user of an email. -/
def findUser (accountId email : String) : Pass (Option AccountUser) :=
  Pass.remote "find account user" (.findUser accountId email)

/-- The identifier of a user who is in the account and can be used. -/
def existingUser (accountId email : String) : Pass (Option String) := do
  let user ← findUser accountId email
  pure ((user.filter (·.isUsable)).map (·.iamId))

/-- The user of an email, who is invited when there is none. -/
def findOrInvite (accountId email : String) : Pass (Option AccountUser) := do
  match ← findUser accountId email with
  | some user => pure (some user)
  | none =>
    let () ← Pass.remote "invite account user" (.inviteUser accountId email)
    findUser accountId email

/-- The identifier of a user, who is invited when missing; a user who cannot be used is removed from
the account. -/
def invitedUser (accountId email : String) : Pass String := do
  match ← findOrInvite accountId email with
  | none => throw (.resolution ("user " ++ email) "user not found after invitation")
  | some user =>
    if user.isUsable then pure user.iamId
    else
      let _ ← Pass.directory (.removeUser accountId user.id)
      throw (.resolution ("user " ++ email) "user email is not valid")

/-- The identifier of a user under either treatment of missing users. -/
def user (lookup : UserLookup) (accountId email : String) : Pass (Option String) :=
  match lookup with
  | .invite => some <$> invitedUser accountId email
  | .existing => existingUser accountId email

/-- The identifier of a service identity. -/
def serviceIdentity (id : String) : Pass String := do
  let identity ← Pass.remote "get service ID" (.getServiceIdentity id)
  pure identity.iamId

/-- The first role of a display name. -/
def role (available : List PolicyRole) (name : String) : Except Error PolicyRole :=
  match available.find? fun role => role.name = name with
  | some role => .ok role
  | none => .error (.resolution ("role " ++ name) "no role with this name is available")

/-- The roles of display names, one for each name. -/
def roles (available : List PolicyRole) (names : List String) : Except Error (List PolicyRole) :=
  names.mapM (role available)

end Resolve

end IamReconciler
