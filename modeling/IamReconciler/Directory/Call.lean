import IamReconciler.Directory.Entity
import IamReconciler.Error
import IamReconciler.Program

/-!
# Calls of the remote service

The calls that the remote IAM service understands, and the value that each returns when it succeeds.
-/

namespace IamReconciler

namespace Directory

/-- A call of the remote service. -/
inductive Call where
  | findGroups (name accountId : String)
  | createGroup (request : GroupRequest) (accountId : String)
  | getGroup (id : String)
  | updateGroup (id : String) (request : GroupRequest) (etag : Etag)
  | deleteGroup (id : String)
  | listMembers (groupId : String)
  | addMembers (groupId : String) (members : List GroupMember)
  | removeMember (groupId memberId : String)
  | createPolicy (policy : Policy)
  | getPolicy (id : String)
  | updatePolicy (id : String) (policy : Policy) (etag : Etag)
  | deletePolicy (id : String)
  | listRoles (accountId serviceName : String)
  | createRole (request : RoleRequest)
  | getRole (id : String)
  | updateRole (id : String) (update : RoleUpdate) (etag : Etag)
  | deleteRole (id : String)
  | systemRoles
  | serviceRoles (serviceName : String)
  | authorizationRoles (source target : String)
  | findUser (accountId email : String)
  | inviteUser (accountId email : String)
  | removeUser (accountId userId : String)
  | getServiceIdentity (id : String)
  deriving DecidableEq

namespace Call

/-- What a call returns when it succeeds. -/
@[reducible] def Value : Call → Type
  | .findGroups .. => List RemoteGroup
  | .createGroup .. => RemoteGroup
  | .getGroup .. => RemoteGroup × Etag
  | .updateGroup .. => RemoteGroup
  | .deleteGroup .. => Unit
  | .listMembers .. => List GroupMember
  | .addMembers .. => Unit
  | .removeMember .. => Unit
  | .createPolicy .. => RemotePolicy
  | .getPolicy .. => RemotePolicy × Etag
  | .updatePolicy .. => RemotePolicy
  | .deletePolicy .. => Unit
  | .listRoles .. => List RemoteRole
  | .createRole .. => RemoteRole
  | .getRole .. => RemoteRole × Etag
  | .updateRole .. => RemoteRole
  | .deleteRole .. => Unit
  | .systemRoles => List PolicyRole
  | .serviceRoles .. => List PolicyRole
  | .authorizationRoles .. => List PolicyRole
  | .findUser .. => Option AccountUser
  | .inviteUser .. => Unit
  | .removeUser .. => Unit
  | .getServiceIdentity .. => ServiceIdentity

/-- The answer to a call. -/
@[reducible] def Answer (c : Call) : Type := Except RemoteError c.Value

/-- The name of a call. -/
def name : Call → String
  | .findGroups .. => "groups.find_by_name"
  | .createGroup .. => "groups.create"
  | .getGroup .. => "groups.get"
  | .updateGroup .. => "groups.update"
  | .deleteGroup .. => "groups.delete"
  | .listMembers .. => "groups.list_members"
  | .addMembers .. => "groups.add_members"
  | .removeMember .. => "groups.remove_member"
  | .createPolicy .. => "policies.create"
  | .getPolicy .. => "policies.get"
  | .updatePolicy .. => "policies.update"
  | .deletePolicy .. => "policies.delete"
  | .listRoles .. => "roles.list"
  | .createRole .. => "roles.create"
  | .getRole .. => "roles.get"
  | .updateRole .. => "roles.update"
  | .deleteRole .. => "roles.delete"
  | .systemRoles => "catalog.system_roles"
  | .serviceRoles .. => "catalog.service_roles"
  | .authorizationRoles .. => "catalog.authorization_roles"
  | .findUser .. => "identities.find_user"
  | .inviteUser .. => "identities.invite_user"
  | .removeUser .. => "identities.remove_user"
  | .getServiceIdentity .. => "identities.service_id"

end Call

end Directory

end IamReconciler
