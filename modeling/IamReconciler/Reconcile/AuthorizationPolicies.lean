import IamReconciler.Reconcile.Identities
import IamReconciler.Reconcile.Policies

/-!
# Keeping authorization policies

The policy of a spec has one set of attributes for its source, one for its target, and the roles
that the spec names among those that the target offers to the source.
-/

namespace IamReconciler

namespace AuthorizationPolicies

/-- The attributes of one side in an account. -/
def serviceAttributes (info : ServiceInfo) (accountId : String) : Attributes :=
  let fixed := Attributes.ofList [
    (Attributes.serviceName, info.serviceClass),
    (Attributes.serviceInstance, info.serviceId),
    (Attributes.resourceType, info.resourceName),
    (Attributes.resource, info.resourceId),
    (Attributes.resourceGroupId, info.resourceGroup),
    (Attributes.accountId, accountId)]
  if info.resourceKey.isEmpty then fixed else fixed.set info.resourceKey info.resourceValue

/-- The policy that a spec asks for. -/
def policy (scope : Scope) (spec : AuthorizationPolicySpec) : Pass Policy := do
  let available ← Pass.remote "list authorization roles"
    (.authorizationRoles spec.source.serviceClass spec.target.serviceClass)
  let roles ← Resolve.roles available spec.roles
  pure ⟨.authorization, [serviceAttributes spec.source scope.accountId], roles,
    [serviceAttributes spec.target scope.accountId]⟩

/-- How authorization policies are kept. -/
def strategy : Strategy .authorizationPolicy where
  createRequest := policy
  updateRequest := policy
  create _ _ := Policies.create
  fetch := Policies.fetch
  update _ _ id desired _ := Policies.update id desired
  delete := Policies.delete
  differs := Policies.differs

end AuthorizationPolicies

end IamReconciler
