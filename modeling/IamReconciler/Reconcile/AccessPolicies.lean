import IamReconciler.Reconcile.Identities
import IamReconciler.Reconcile.Policies

/-!
# Keeping access policies

The policy of a spec has one set of attributes for its subject, one for its resource, and the roles
that the spec asks for: first those that the service or the platform defines, then custom roles of
the account, then custom roles that are declared.
-/

namespace IamReconciler

namespace AccessPolicies

/-- The namespace of a reference, which is the policy's own when it names none. -/
def orNamespace (named own : String) : String :=
  if named.isEmpty then own else named

/-- The remote identifier of a declared group that is recorded. -/
def declaredGroup (scope : Scope) (ref : AccessGroupRef) : Pass String := do
  let ns := orNamespace ref.ns scope.ns
  let what := "access group " ++ ns ++ "/" ++ ref.name
  match ← Pass.lookUpGroup ns ref.name with
  | none => throw (.resolution what "resource does not exist")
  | some group =>
    if group.isRecorded then pure group.remoteId
    else throw (.resolution what "access group is not synchronized yet")

/-- The attributes of a subject. -/
def subjectAttributes (scope : Scope) (subject : PolicySubject) : Pass Attributes := do
  if !subject.userEmail.isEmpty then
    let iamId ← Resolve.invitedUser scope.accountId subject.userEmail
    pure (Attributes.empty.set Attributes.iamId iamId)
  else if !subject.serviceId.isEmpty then
    let iamId ← Resolve.serviceIdentity subject.serviceId
    pure (Attributes.empty.set Attributes.iamId iamId)
  else if !subject.accessGroupId.isEmpty then
    let (group, _) ← Pass.remote "get access group" (.getGroup subject.accessGroupId)
    pure (Attributes.empty.set Attributes.accessGroupId group.id)
  else
    match subject.accessGroupDef with
    | some ref =>
      let groupId ← declaredGroup scope ref
      pure (Attributes.empty.set Attributes.accessGroupId groupId)
    | none => pure Attributes.empty

/-- The roles that a service defines, or the platform where no service is named. -/
def definedRoles (serviceClass : String) (names : List String) : Pass (List PolicyRole) := do
  if names.isEmpty then pure []
  else
    let catalog ←
      if serviceClass.isEmpty then Pass.remote "list service roles" .systemRoles
      else Pass.remote "list service roles" (.serviceRoles serviceClass)
    Resolve.roles catalog names

/-- The custom roles of the account, of one service or of all, as roles that can be granted. -/
def customRoles (scope : Scope) (serviceClass : String) : Pass (List PolicyRole) := do
  let roles ← Pass.remote "list custom roles" (.listRoles scope.accountId serviceClass)
  pure (roles.map (·.asPolicyRole))

/-- The custom roles of display names. -/
def namedRoles (scope : Scope) (names : List String) : Pass (List PolicyRole) := do
  if names.isEmpty then pure []
  else Resolve.roles (← customRoles scope "") names

/-- The custom role that is declared. -/
def declaredRole (scope : Scope) (ref : CustomRoleRef) : Pass PolicyRole := do
  let ns := orNamespace ref.ns scope.ns
  match ← Pass.lookUpRole ns ref.name with
  | none => throw (.resolution ("custom role " ++ ns ++ "/" ++ ref.name) "resource does not exist")
  | some role => Resolve.role (← customRoles scope role.spec.serviceClass) role.spec.displayName

/-- The roles that a policy grants on a service. -/
def grantedRoles (scope : Scope) (serviceClass : String) (roles : PolicyRoles) :
    Pass (List PolicyRole) := do
  let defined ← definedRoles serviceClass roles.definedRoles
  let named ← namedRoles scope roles.customRoleNames
  let declared ← roles.customRoleRefs.mapM (declaredRole scope)
  pure (defined ++ named ++ declared)

/-- The attributes of a target in an account. -/
def targetAttributes (target : PolicyTarget) (accountId : String) : Attributes :=
  let fixed := Attributes.ofList [
    (Attributes.serviceName, target.serviceClass),
    (Attributes.serviceInstance, target.serviceId),
    (Attributes.resourceType, target.resourceName),
    (Attributes.resource, target.resourceId),
    (Attributes.resourceGroupId, target.resourceGroup),
    (Attributes.region, target.region),
    (Attributes.accountId, accountId)]
  if target.resourceKey.isEmpty then fixed else fixed.set target.resourceKey target.resourceValue

/-- The policy that a spec asks for. -/
def policy (scope : Scope) (spec : AccessPolicySpec) : Pass Policy := do
  let subject ← subjectAttributes scope spec.subject
  let roles ← grantedRoles scope spec.target.serviceClass spec.roles
  pure ⟨.access, [subject], roles, [targetAttributes spec.target scope.accountId]⟩

/-- How access policies are kept. -/
def strategy : Strategy .accessPolicy where
  createRequest := policy
  updateRequest := policy
  create _ _ := Policies.create
  fetch := Policies.fetch
  update _ _ id desired _ := Policies.update id desired
  delete := Policies.delete
  differs := Policies.differs

end AccessPolicies

end IamReconciler
