import IamReconciler.Reconcile.Strategy

/-!
# Keeping policies

Access policies and authorization policies are kept by the same calls of the remote service.  They
differ in how a spec becomes a policy.
-/

namespace IamReconciler

namespace Policies

/-- Creates a policy. -/
def create (policy : Policy) : Pass RemoteRef := do
  let created ← Pass.remote "create policy" (.createPolicy policy)
  pure ⟨created.id, none⟩

/-- Reads a policy. -/
def fetch (id : String) : Pass (Policy × Etag) := do
  let (remote, etag) ← Pass.remote "get policy" (.getPolicy id)
  pure (remote.policy, etag)

/-- Replaces a policy. -/
def update (id : String) (policy : Policy) (etag : Etag) : Pass RemoteRef := do
  let updated ← Pass.remote "update policy" (.updatePolicy id policy etag)
  pure ⟨updated.id, none⟩

/-- Deletes a policy. -/
def delete (id : String) : Program Pass.interface (Except RemoteError Unit) :=
  Pass.directory (.deletePolicy id)

/-- Policies differ in their sets of subjects, of role identifiers, or of resources. -/
def differs (desired remote : Policy) : Bool :=
  !sameElements desired.subjects remote.subjects ||
    !sameElements (desired.roles.map (·.id)) (remote.roles.map (·.id)) ||
    !sameElements desired.resources remote.resources

end Policies

end IamReconciler
