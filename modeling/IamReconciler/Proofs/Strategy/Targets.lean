import IamReconciler.Proofs.Attributes
import IamReconciler.Proofs.Passes
import IamReconciler.Proofs.Lifecycle.Applied

/-!
# Targets of access policies

The resource of an access policy is described by attributes: the account, what the target declares
in fields of its own, and one attribute that the target names freely.  The free attribute is set
last, under any name.  It therefore takes the place of an attribute that the target or the account
gives under the same name, and this is the only way in which a granted resource leaves the account
(`get?_granted_iff`).
-/

namespace IamReconciler

namespace AccessPolicies

/-- What the account and the fields of a target give under a name; a field that is empty gives
nothing. -/
inductive Declares (target : PolicyTarget) (accountId : String) : String → String → Prop where
  | account : Declares target accountId Attributes.accountId accountId
  | serviceName (hSet : target.serviceClass ≠ "") :
      Declares target accountId Attributes.serviceName target.serviceClass
  | serviceInstance (hSet : target.serviceId ≠ "") :
      Declares target accountId Attributes.serviceInstance target.serviceId
  | resourceType (hSet : target.resourceName ≠ "") :
      Declares target accountId Attributes.resourceType target.resourceName
  | resource (hSet : target.resourceId ≠ "") :
      Declares target accountId Attributes.resource target.resourceId
  | resourceGroup (hSet : target.resourceGroup ≠ "") :
      Declares target accountId Attributes.resourceGroupId target.resourceGroup
  | region (hSet : target.region ≠ "") : Declares target accountId Attributes.region target.region

/-- What a target gives under a name: the free attribute under its own name, and what is declared
under all others. -/
def Grants (target : PolicyTarget) (accountId name value : String) : Prop :=
  if target.resourceKey ≠ "" ∧ name = target.resourceKey then value = target.resourceValue
  else Declares target accountId name value

variable {target : PolicyTarget} {accountId : String}

/-- The bindings of the account and of the fields of a target. -/
def declaredBindings (target : PolicyTarget) (accountId : String) : List (String × String) :=
  [(Attributes.serviceName, target.serviceClass), (Attributes.serviceInstance, target.serviceId),
    (Attributes.resourceType, target.resourceName), (Attributes.resource, target.resourceId),
    (Attributes.resourceGroupId, target.resourceGroup), (Attributes.region, target.region),
    (Attributes.accountId, accountId)]

/-- The attributes of a target are its bindings, and then the free attribute. -/
lemma targetAttributes_eq (target : PolicyTarget) (accountId : String) :
    targetAttributes target accountId =
      if target.resourceKey.isEmpty then Attributes.ofList (declaredBindings target accountId)
      else (Attributes.ofList (declaredBindings target accountId)).set target.resourceKey
      target.resourceValue := rfl

/-- No two bindings of a target have the same name. -/
lemma nodup_declaredBindings (target : PolicyTarget) (accountId : String) :
    ((declaredBindings target accountId).map Prod.fst).Nodup := by
  have hNames : (declaredBindings target accountId).map Prod.fst =
      [Attributes.serviceName, Attributes.serviceInstance, Attributes.resourceType,
        Attributes.resource, Attributes.resourceGroupId, Attributes.region,
        Attributes.accountId] := rfl
  rw [hNames]
  decide

/-- A binding with a value is what its name declares. -/
lemma declares_iff_mem {name value : String} (hAccount : accountId ≠ "") :
    Declares target accountId name value ↔ (name, value) ∈ declaredBindings target accountId ∧
      value ≠ "" := by
  simp only [declaredBindings, List.mem_cons, List.not_mem_nil, or_false, Prod.mk.injEq]
  constructor
  · rintro (_ | hSet | hSet | hSet | hSet | hSet | hSet)
    · simp [hAccount]
    all_goals simp [hSet]
  · rintro ⟨⟨rfl, rfl⟩ | ⟨rfl, rfl⟩ | ⟨rfl, rfl⟩ | ⟨rfl, rfl⟩ | ⟨rfl, rfl⟩ | ⟨rfl,
      rfl⟩ | ⟨rfl, rfl⟩, hSet⟩
    · exact .serviceName hSet
    · exact .serviceInstance hSet
    · exact .resourceType hSet
    · exact .resource hSet
    · exact .resourceGroup hSet
    · exact .region hSet
    · exact .account

/-- The free attribute of a well-formed target has a value exactly when it has a name. -/
lemma resourceKey_ne_empty_iff {spec : AccessPolicySpec}
    (hValid : Kind.accessPolicy.validate spec = .ok ()) :
    spec.target.resourceKey ≠ "" ↔ spec.target.resourceValue ≠ "" := by
  have hRules := Rule.check_eq_ok_iff.1 hValid
  simp only [Kind.rules, AccessPolicySpec.rules, List.forall_mem_cons] at hRules
  obtain ⟨-, -, -, -, -, hTogether, -⟩ := hRules
  have hSame : spec.target.resourceKey.isEmpty = spec.target.resourceValue.isEmpty := by
    simpa using hTogether
  rw [Ne, Ne, ← String.isEmpty_iff, ← String.isEmpty_iff, hSame]

/-- The attributes of a well-formed target in an account are what the target grants, and nothing
else. -/
lemma get?_targetAttributes_iff {spec : AccessPolicySpec}
    (hValid : Kind.accessPolicy.validate spec = .ok ()) (hAccount : accountId ≠ "")
    (name value : String) :
    (targetAttributes spec.target accountId).get? name = some value ↔
      Grants spec.target accountId name value := by
  have hSame : (spec.target.resourceKey ≠ "" ∧ spec.target.resourceValue ≠ "" ∧
    spec.target.resourceKey = name) ↔
      spec.target.resourceKey ≠ "" ∧ name = spec.target.resourceKey :=
    and_congr_right fun hKey =>
      (and_iff_right ((resourceKey_ne_empty_iff hValid).1 hKey)).trans eq_comm
  rw [targetAttributes_eq, Attributes.get?_set_ofList_iff
    (nodup_declaredBindings spec.target accountId), Grants]
  simp only [hSame, declares_iff_mem hAccount]

/-- The policy of a spec has one resource, which the attributes of its target describe. -/
lemma ensures_policy {σ : Type} {S : Surroundings Pass.interface σ} {s : σ} (scope : Scope)
    (spec : AccessPolicySpec) :
    Pass.Ensures S (policy scope spec) s
      (fun policy _ => policy.resources = [targetAttributes spec.target scope.accountId])
      fun _ _ => True := by
  refine (Pass.ensures_true (subjectAttributes scope spec.subject)).bind fun subject t _ => ?_
  refine (Pass.ensures_true (grantedRoles scope _ spec.roles)).bind fun roles u _ => ?_
  exact Pass.ensures_pure_iff.2 rfl

end AccessPolicies

/-- The resource of a well-formed access policy in an account.  Whatever is answered while a policy
is resolved, to be created or to be updated, its only resource is the one of its target.  This maps
the free attribute of the target, if there is one, to its value, maps every other name to what the
account and the fields of the target declare under it, and holds nothing else. -/
theorem get?_granted_iff {scope : Scope} {spec : AccessPolicySpec}
    (hValid : Kind.accessPolicy.validate spec = .ok ()) (hAccount : scope.accountId ≠ "") :
    (∀ name value,
      (AccessPolicies.targetAttributes spec.target scope.accountId).get? name = some value ↔
        AccessPolicies.Grants spec.target scope.accountId name value) ∧
      ∀ trace policy,
        (Kind.accessPolicy.strategy.createRequest scope spec).run.Runs (.free _) () trace
            (.ok policy) () ∨
          (Kind.accessPolicy.strategy.updateRequest scope spec).run.Runs (.free _) () trace
            (.ok policy) () →
          policy.resources = [AccessPolicies.targetAttributes spec.target scope.accountId] := by
  refine ⟨AccessPolicies.get?_targetAttributes_iff hValid hAccount, fun trace policy hRun => ?_⟩
  have hResources : Pass.Ensures (.free _) (AccessPolicies.policy scope spec) () _ _ :=
    AccessPolicies.ensures_policy scope spec
  rcases hRun with hCreate | hUpdate
  · exact hResources trace (.ok policy) () hCreate
  · exact hResources trace (.ok policy) () hUpdate

/-! ## A free attribute under a reserved name -/

namespace AccessPolicies

/-- An access policy on a bucket, whose free attribute says which objects in the bucket are
meant. -/
def prefixSpec : AccessPolicySpec where
  subject := { PolicySubject.blank with serviceId := "service-1" }
  roles := { PolicyRoles.blank with definedRoles := ["Viewer"] }
  target :=
    { PolicyTarget.blank with
      serviceClass := "storage", resourceKey := "path", resourceValue := "logs" }

/-- The same access policy, whose free attribute names the account. -/
def retargetedSpec : AccessPolicySpec :=
  { prefixSpec with
    target := { prefixSpec.target with
      resourceKey := Attributes.accountId, resourceValue := "other" } }

/-- The session of an account. -/
def ownScope : Scope := ⟨⟨"account"⟩, "team"⟩

/-- The role that the service defines. -/
def viewer : PolicyRole := ⟨"role-viewer", "Viewer"⟩

/-- The policy that is resolved for the service identity. -/
def prefixPolicy : Policy :=
  ⟨.access, [Attributes.empty.set Attributes.iamId "iam-service-1"], [viewer],
    [targetAttributes prefixSpec.target ownScope.accountId]⟩

/-- The service knows the service identity and the role. -/
def prefixTrace : List (Exchange Pass.interface) :=
  [ ⟨.directory (.getServiceIdentity "service-1"), .ok ⟨"service-1", "iam-service-1"⟩⟩,
    ⟨.directory (.serviceRoles "storage"), .ok [viewer]⟩ ]

/-- The policy is resolved when the service knows the service identity and the role. -/
lemma runs_prefixPolicy :
    (Kind.accessPolicy.strategy.createRequest ownScope prefixSpec).run.Runs (.free _) () prefixTrace
      (.ok prefixPolicy) () :=
  .answered _ <| .answered _ <| .done _ _

end AccessPolicies

/-- The policy that was resolved grants what its target says, in the account of the session. -/
theorem get?_granted_prefix :
    ∃ resource, AccessPolicies.prefixPolicy.resources = [resource] ∧
      resource.get? Attributes.accountId = some "account" ∧ resource.get? "path" = some "logs" := by
  obtain ⟨hGrants, hResources⟩ :=
    @get?_granted_iff AccessPolicies.ownScope AccessPolicies.prefixSpec rfl (by decide)
  refine ⟨_, hResources _ _ (.inl AccessPolicies.runs_prefixPolicy), (hGrants _ _).2 ?_,
    (hGrants _ _).2 ?_⟩
  · rw [AccessPolicies.Grants, if_neg (by decide)]
    exact .account
  · rw [AccessPolicies.Grants, if_pos (by decide)]
    rfl

/-- A well-formed access policy may grant a resource of another account. -/
theorem granted_outside_account :
    ¬∀ (scope : Scope) (spec : AccessPolicySpec), Kind.accessPolicy.validate spec = .ok () →
      scope.accountId ≠ "" →
        (AccessPolicies.targetAttributes spec.target scope.accountId).get? Attributes.accountId =
          some scope.accountId := by
  intro hClaim
  have hOwn := hClaim AccessPolicies.ownScope AccessPolicies.retargetedSpec rfl (by decide)
  exact absurd hOwn (by decide)

end IamReconciler
