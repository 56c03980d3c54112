import IamReconciler.Reconcile.Pass

/-!
# Strategies

What a pass has to know of a kind: how the spec becomes the request that creates or updates the
remote entity, how that entity is created, read, updated and deleted, and when it differs from the
request.
-/

namespace IamReconciler

/-- What a group is to be: its name and description, and the members it is to have, in order and
each once. -/
structure GroupUpdate where
  request : GroupRequest
  memberIds : List String
  deriving DecidableEq, Repr, Inhabited

/-- A group as it was read. -/
structure GroupSnapshot where
  group : RemoteGroup
  members : List GroupMember
  deriving DecidableEq, Repr, Inhabited

namespace Kind

/-- The request that creates a remote entity. -/
@[reducible] def CreateRequest : Kind → Type
  | .accessGroup => GroupRequest
  | .accessPolicy => Policy
  | .authorizationPolicy => Policy
  | .customRole => RoleRequest

/-- The request that updates a remote entity. -/
@[reducible] def UpdateRequest : Kind → Type
  | .accessGroup => GroupUpdate
  | .accessPolicy => Policy
  | .authorizationPolicy => Policy
  | .customRole => RoleUpdate

/-- A remote entity as it is read. -/
@[reducible] def Remote : Kind → Type
  | .accessGroup => GroupSnapshot
  | .accessPolicy => Policy
  | .authorizationPolicy => Policy
  | .customRole => RemoteRole

end Kind

/-- The session and the namespace in which a pass works. -/
structure Scope where
  session : Session
  ns : String
  deriving DecidableEq, Repr, Inhabited

/-- The account of a scope. -/
def Scope.accountId (scope : Scope) : String :=
  scope.session.accountId

/-- What a pass has to know of a kind. -/
structure Strategy (k : Kind) where
  /-- The request that creates the entity of a spec. -/
  createRequest : Scope → k.Spec → Pass k.CreateRequest
  /-- The request that updates the entity of a spec. -/
  updateRequest : Scope → k.Spec → Pass k.UpdateRequest
  /-- Creates an entity. -/
  create : Scope → k.Spec → k.CreateRequest → Pass RemoteRef
  /-- Reads the entity of an identifier. -/
  fetch : String → Pass (k.Remote × Etag)
  /-- Updates the entity of an identifier, which was read with a token. -/
  update : Scope → k.Spec → String → k.UpdateRequest → k.Remote → Etag → Pass RemoteRef
  /-- The call that deletes the entity of an identifier. -/
  delete : String → Program Pass.interface (Except RemoteError Unit)
  /-- The entity differs from what an update would make of it. -/
  differs : k.UpdateRequest → k.Remote → Bool

end IamReconciler
