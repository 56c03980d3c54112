import IamReconciler.Reconcile.Strategy

/-!
# Keeping custom roles

A custom role is created only when its service has no custom role of its name.  What the service
returns gives the identifier and the resource name of the role.
-/

namespace IamReconciler

namespace CustomRoles

/-- What of a role a spec asks to change. -/
def roleUpdate (spec : CustomRoleSpec) : RoleUpdate :=
  ⟨spec.displayName, ownedDescription spec.description, spec.actions⟩

/-- The role that a spec asks for. -/
def request (scope : Scope) (spec : CustomRoleSpec) : RoleRequest :=
  ⟨spec.roleName, spec.serviceClass, scope.accountId, spec.displayName,
    ownedDescription spec.description, spec.actions⟩

/-- How a role is known. -/
def reference (role : RemoteRole) : RemoteRef :=
  ⟨role.id, some role.crn⟩

/-- Creates a role. -/
def create (request : RoleRequest) : Pass RemoteRef := do
  let existing ← Pass.remote "list custom roles" (.listRoles request.accountId request.serviceName)
  if existing.any fun role => role.name = request.name then
    throw (.remote "create custom role"
      (.conflict ("custom role " ++ request.name ++ " already exists for service " ++
        request.serviceName)))
  let role ← Pass.remote "create custom role" (.createRole request)
  pure (reference role)

/-- Reads a role. -/
def fetch (id : String) : Pass (RemoteRole × Etag) :=
  Pass.remote "get custom role" (.getRole id)

/-- Updates a role. -/
def update (id : String) (desired : RoleUpdate) (etag : Etag) : Pass RemoteRef := do
  let role ← Pass.remote "update custom role" (.updateRole id desired etag)
  pure (reference role)

/-- A role differs in its display name, its description or its set of actions. -/
def differs (desired : RoleUpdate) (remote : RemoteRole) : Bool :=
  desired.displayName ≠ remote.displayName || desired.description ≠ remote.description ||
    !sameElements desired.actions remote.actions

/-- How custom roles are kept. -/
def strategy : Strategy .customRole where
  createRequest scope spec := pure (request scope spec)
  updateRequest _ spec := pure (roleUpdate spec)
  create _ _ := create
  fetch := fetch
  update _ _ id desired _ := update id desired
  delete id := Pass.directory (.deleteRole id)
  differs := differs

end CustomRoles

end IamReconciler
