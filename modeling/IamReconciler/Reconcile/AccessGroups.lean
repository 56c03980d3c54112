import IamReconciler.Reconcile.Identities
import IamReconciler.Reconcile.Strategy

/-!
# Keeping access groups

A group is created only when no group has its name, and its members are added at once; when that
fails the new group is deleted again.  An update first writes name and description under the token
that was read, and then removes the members that are not wanted and adds those that are missing.
-/

namespace IamReconciler

namespace AccessGroups

/-- The name and the description that a spec asks for. -/
def request (spec : AccessGroupSpec) : GroupRequest :=
  ⟨spec.name, ownedDescription spec.description⟩

/-- The member that an email stands for. -/
def userMember (lookup : UserLookup) (accountId email : String) : Pass (Option GroupMember) := do
  let iamId ← Resolve.user lookup accountId email
  pure (iamId.map fun id => ⟨id, .user⟩)

/-- The member that a service identity stands for; a missing one is passed over where nothing is
invited. -/
def serviceMember (lookup : UserLookup) (id : String) : Pass (Option GroupMember) := do
  match ← Pass.attempt (Resolve.serviceIdentity id) with
  | .ok iamId => pure (some ⟨iamId, .service⟩)
  | .error e => if lookup = .existing ∧ e.isNotFound then pure none else throw e

/-- The members that a spec lists, users before services. -/
def members (lookup : UserLookup) (accountId : String) (spec : AccessGroupSpec) :
    Pass (List GroupMember) := do
  let users ← spec.userEmails.mapM (userMember lookup accountId)
  let services ← spec.serviceIds.mapM (serviceMember lookup)
  pure ((users ++ services).filterMap id)

/-- Adds members to a group, unless there are none. -/
def addMembers (groupId : String) (members : List GroupMember) : Pass Unit :=
  if members.isEmpty then pure ()
  else Pass.remote "add access group members" (.addMembers groupId members)

/-- Adds the members that a spec lists to a new group. -/
def populate (accountId : String) (spec : AccessGroupSpec) (groupId : String) : Pass Unit := do
  addMembers groupId (← members .invite accountId spec)

/-- Creates a group with its members. -/
def create (scope : Scope) (spec : AccessGroupSpec) (request : GroupRequest) : Pass RemoteRef := do
  let existing ← Pass.remote "find access group" (.findGroups request.name scope.accountId)
  if !existing.isEmpty then
    throw (.remote "create access group"
      (.conflict ("access group " ++ request.name ++ " already exists in the account")))
  let group ← Pass.remote "create access group" (.createGroup request scope.accountId)
  match ← Pass.attempt (populate scope.accountId spec group.id) with
  | .ok () => pure ⟨group.id, none⟩
  | .error e =>
    let _ ← Pass.directory (.deleteGroup group.id)
    throw e

/-- Reads a group with its members. -/
def fetch (id : String) : Pass (GroupSnapshot × Etag) := do
  let (group, etag) ← Pass.remote "get access group" (.getGroup id)
  let members ← Pass.remote "list access group members" (.listMembers id)
  pure (⟨group, members⟩, etag)

/-- What a spec asks of a group; users are not invited for it. -/
def updateRequest (scope : Scope) (spec : AccessGroupSpec) : Pass GroupUpdate := do
  let members ← members .existing scope.accountId spec
  pure ⟨request spec, Entries.distinct (members.map (·.id))⟩

/-- The members of a group that are not wanted. -/
def surplus (current wanted : List GroupMember) : List GroupMember :=
  current.filter fun member => !wanted.any fun other => other.id = member.id

/-- Removes members from a group. -/
def removeMembers (groupId : String) (members : List GroupMember) : Pass Unit :=
  members.forM fun member =>
    Pass.remote "remove access group member" (.removeMember groupId member.id)

/-- Updates a group and its members. -/
def update (scope : Scope) (spec : AccessGroupSpec) (id : String) (desired : GroupUpdate)
    (remote : GroupSnapshot) (etag : Etag) : Pass RemoteRef := do
  let _ ← Pass.remote "update access group" (.updateGroup id desired.request etag)
  let wanted ← members .invite scope.accountId spec
  removeMembers id (surplus remote.members wanted)
  addMembers id (surplus wanted remote.members)
  pure ⟨id, none⟩

/-- A group differs in its name, its description or its set of members. -/
def differs (desired : GroupUpdate) (remote : GroupSnapshot) : Bool :=
  desired.request.name ≠ remote.group.name ||
    desired.request.description ≠ remote.group.description ||
    !sameElements desired.memberIds (remote.members.map (·.id))

/-- How access groups are kept. -/
def strategy : Strategy .accessGroup where
  createRequest _ spec := pure (request spec)
  updateRequest := updateRequest
  create := create
  fetch := fetch
  update := update
  delete id := Pass.directory (.deleteGroup id)
  differs := differs

end AccessGroups

end IamReconciler
