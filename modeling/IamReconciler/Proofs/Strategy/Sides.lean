import IamReconciler.Proofs.Strategy.Targets

/-!
# Sides of authorization policies

The source and the target of an authorization policy are each described by attributes: what the side
declares in fields of its own, the account, and one attribute that the side names freely.  A free
attribute that has only a name, or only a value, is left out without a word, and a spec with such a
side counts as well-formed.

This is all that is ever lost.  When the free attribute has a name that no field uses, the
attributes determine the side up to a free attribute that is not whole
(`serviceAttributes_told_apart`).
-/

namespace IamReconciler

namespace ServiceInfo

/-- The free attribute of a side, if it has both a name and a value. -/
def free? (info : ServiceInfo) : Option (String × String) :=
  if info.resourceKey = "" ∨ info.resourceValue = "" then
    none else some (info.resourceKey, info.resourceValue)

/-- The free attribute has a name exactly when it has a value. -/
def IsWhole (info : ServiceInfo) : Prop :=
  info.resourceKey = "" ↔ info.resourceValue = ""

instance (info : ServiceInfo) : Decidable info.IsWhole := inferInstanceAs (Decidable (_ ↔ _))

/-- The side without a free attribute that has only a name or only a value. -/
def restriction (info : ServiceInfo) : ServiceInfo :=
  let free := info.free?.getD ("", "")
  { info with resourceKey := free.1, resourceValue := free.2 }

/-- A side with a whole free attribute, or with none, is its own restriction. -/
lemma restriction_eq_self {info : ServiceInfo} (hWhole : info.IsWhole) :
    info.restriction = info := by
  obtain ⟨serviceClass, serviceId, resourceName, resourceId, key, value, group⟩ := info
  simp only [IsWhole] at hWhole
  by_cases hKey : key = ""
  · obtain rfl := hKey
    obtain rfl := hWhole.1 rfl
    rfl
  · have hFree : ¬(key = "" ∨ value = "") := not_or.2 ⟨hKey, fun hValue => hKey (hWhole.2 hValue)⟩
    simp [restriction, free?, hFree]

end ServiceInfo

namespace AuthorizationPolicies

/-- The names that the fields of a side and the account use. -/
def reservedNames : List String :=
  [Attributes.serviceName, Attributes.serviceInstance, Attributes.resourceType, Attributes.resource,
    Attributes.resourceGroupId, Attributes.accountId]

/-- The bindings of the fields of a side and of the account. -/
def declaredBindings (info : ServiceInfo) (accountId : String) : List (String × String) :=
  [(Attributes.serviceName, info.serviceClass), (Attributes.serviceInstance, info.serviceId),
    (Attributes.resourceType, info.resourceName), (Attributes.resource, info.resourceId),
    (Attributes.resourceGroupId, info.resourceGroup), (Attributes.accountId, accountId)]

variable {info a b : ServiceInfo} {accountId name value : String}

/-- The attributes of a side are its bindings, and then the free attribute. -/
lemma serviceAttributes_eq (info : ServiceInfo) (accountId : String) :
    serviceAttributes info accountId =
      if info.resourceKey.isEmpty then Attributes.ofList (declaredBindings info accountId)
      else (Attributes.ofList (declaredBindings info accountId)).set info.resourceKey
      info.resourceValue := rfl

/-- The bindings of a side use each reserved name once. -/
lemma nodup_declaredBindings (info : ServiceInfo) (accountId : String) :
    ((declaredBindings info accountId).map Prod.fst).Nodup := by
  have hNames : (declaredBindings info accountId).map Prod.fst = reservedNames := rfl
  rw [hNames]
  decide

/-- The name of a whole free attribute is the one that the side gives. -/
lemma resourceKey_of_free (hFree : info.free? = some (name, value)) : info.resourceKey = name := by
  unfold ServiceInfo.free? at hFree
  split at hFree
  · cases hFree
  · exact congrArg Prod.fst (Option.some.inj hFree)

/-- What a side declares stands under a reserved name. -/
lemma mem_reservedNames (hMem : (name, value) ∈ declaredBindings info accountId) :
    name ∈ reservedNames :=
  List.mem_map_of_mem (f := Prod.fst) hMem

/-- The attributes of a side are what it declares and its whole free attribute, when this has a name
of its own. -/
lemma get?_serviceAttributes_iff (hKey : info.resourceKey ∉ reservedNames) :
    (serviceAttributes info accountId).get? name = some value ↔
      (name, value) ∈ declaredBindings info accountId ∧ value ≠ "" ∨
      info.free? = some (name, value) := by
  rw [serviceAttributes_eq, Attributes.get?_set_ofList_iff (nodup_declaredBindings info accountId)]
  by_cases hFree : info.resourceKey = "" ∨ info.resourceValue = ""
  · have hNone : info.free? = none := if_pos hFree
    rw [if_neg fun h => hFree.elim h.1 h.2.1, hNone, or_iff_left nofun]
  have hWhole : info.free? = some (info.resourceKey, info.resourceValue) := if_neg hFree
  obtain ⟨hNamed, hSet⟩ := not_or.1 hFree
  rw [hWhole, Option.some.injEq, Prod.mk.injEq]
  -- a free attribute under a reserved name would take the place of what is declared there
  by_cases hName : info.resourceKey = name
  · have hUndeclared : (name, value) ∉ declaredBindings info accountId := fun hMem =>
      hKey (hName ▸ mem_reservedNames hMem)
    rw [if_pos ⟨hNamed, hSet, hName⟩, or_iff_right fun h => hUndeclared h.1, and_iff_right hName]
    exact eq_comm
  · rw [if_neg fun h => hName h.2.2, or_iff_left fun h => hName h.1]

/-- A free attribute that is not whole adds nothing. -/
lemma serviceAttributes_restriction (info : ServiceInfo) (accountId : String) :
    serviceAttributes info.restriction accountId = serviceAttributes info accountId := by
  have hDeclared : declaredBindings info.restriction accountId = declaredBindings info accountId :=
    rfl
  rw [serviceAttributes_eq, serviceAttributes_eq, hDeclared]
  by_cases hKey : info.resourceKey = ""
  · simp [ServiceInfo.restriction, ServiceInfo.free?, hKey]
  by_cases hValue : info.resourceValue = ""
  · simp [ServiceInfo.restriction, ServiceInfo.free?, hValue, Attributes.set]
  · simp [ServiceInfo.restriction, ServiceInfo.free?, hKey, hValue]

/-- Of two sides with the same attributes, the one declares what the other declares under a name and
does not leave empty. -/
lemma eq_of_declared (hA : a.resourceKey ∉ reservedNames) (hB : b.resourceKey ∉ reservedNames)
    (hSame : serviceAttributes a accountId = serviceAttributes b accountId) {other : String}
    (hOfA : (name, value) ∈ declaredBindings a accountId)
    (hOfB : (name, other) ∈ declaredBindings b accountId) (hSet : value ≠ "") : value = other := by
  have hGet : (serviceAttributes b accountId).get? name = some value :=
    hSame ▸ (get?_serviceAttributes_iff hA).2 (.inl ⟨hOfA, hSet⟩)
  rcases (get?_serviceAttributes_iff hB).1 hGet with ⟨hMem, -⟩ | hFree
  · have hOnce := nodup_declaredBindings b accountId
    rw [← Entries.get?_eq_some_iff hOnce] at hMem hOfB
    exact Option.some.inj (hMem.symm.trans hOfB)
  · exact absurd (resourceKey_of_free hFree ▸ mem_reservedNames hOfA) hB

/-- Sides with the same attributes declare the same under a name. -/
lemma declared_eq (hA : a.resourceKey ∉ reservedNames) (hB : b.resourceKey ∉ reservedNames)
    (hSame : serviceAttributes a accountId = serviceAttributes b accountId) {other : String}
    (hOfA : (name, value) ∈ declaredBindings a accountId)
    (hOfB : (name, other) ∈ declaredBindings b accountId) : value = other := by
  by_cases hValue : value = ""
  · by_cases hOther : other = ""
    · exact hValue.trans hOther.symm
    · exact (eq_of_declared hB hA hSame.symm hOfB hOfA hOther).symm
  · exact eq_of_declared hA hB hSame hOfA hOfB hValue

/-- Of two sides with the same attributes, the one has the whole free attribute of the other. -/
lemma free_of_eq (hA : a.resourceKey ∉ reservedNames) (hB : b.resourceKey ∉ reservedNames)
    (hSame : serviceAttributes a accountId = serviceAttributes b accountId)
    (hFree : a.free? = some (name, value)) : b.free? = some (name, value) := by
  have hGet : (serviceAttributes b accountId).get? name = some value :=
    hSame ▸ (get?_serviceAttributes_iff hA).2 (.inr hFree)
  refine ((get?_serviceAttributes_iff hB).1 hGet).resolve_left fun hDeclared => hA ?_
  rw [resourceKey_of_free hFree]
  exact mem_reservedNames hDeclared.1

/-- Under names that no field uses, the attributes determine a side up to a free attribute that is
not whole. -/
lemma serviceAttributes_eq_iff (hA : a.resourceKey ∉ reservedNames)
    (hB : b.resourceKey ∉ reservedNames) :
    serviceAttributes a accountId =
      serviceAttributes b accountId ↔ a.restriction = b.restriction := by
  constructor
  · intro hSame
    have hDeclared {name value other : String} (hOfA : (name, value) ∈ declaredBindings a accountId)
        (hOfB : (name, other) ∈ declaredBindings b accountId) : value = other :=
        declared_eq hA hB hSame hOfA hOfB
    have hClass : a.serviceClass = b.serviceClass := hDeclared (.head _) (.head _)
    have hService : a.serviceId = b.serviceId := hDeclared (.tail _ (.head _)) (.tail _ (.head _))
    have hType : a.resourceName = b.resourceName :=
      hDeclared (.tail _ (.tail _ (.head _))) (.tail _ (.tail _ (.head _)))
    have hResource : a.resourceId = b.resourceId :=
      hDeclared (.tail _ (.tail _ (.tail _ (.head _)))) (.tail _ (.tail _ (.tail _ (.head _))))
    have hGroup : a.resourceGroup = b.resourceGroup :=
      hDeclared (.tail _ (.tail _ (.tail _ (.tail _ (.head _)))))
        (.tail _ (.tail _ (.tail _ (.tail _ (.head _)))))
    have hFree : a.free? = b.free? := Option.ext fun _ =>
      ⟨free_of_eq hA hB hSame, free_of_eq hB hA hSame.symm⟩
    simp only [ServiceInfo.restriction, hClass, hService, hType, hResource, hGroup, hFree]
  · intro hRestriction
    rw [← serviceAttributes_restriction a, hRestriction, serviceAttributes_restriction]

/-- The policy of a spec has one subject and one resource, which the attributes of its sides
describe. -/
lemma ensures_policy {σ : Type} {S : Surroundings Pass.interface σ} {s : σ} (scope : Scope)
    (spec : AuthorizationPolicySpec) :
    Pass.Ensures S (policy scope spec) s
      (fun policy _ => policy.subjects = [serviceAttributes spec.source scope.accountId] ∧
        policy.resources = [serviceAttributes spec.target scope.accountId]) fun _ _ => True := by
  refine (Pass.ensures_true _).bind fun available t _ => ?_
  refine (Pass.ensures_true _).bind fun roles u _ => ?_
  exact Pass.ensures_pure_iff.2 ⟨rfl, rfl⟩

end AuthorizationPolicies

open AuthorizationPolicies in
/-- **What an authorization policy keeps of its sides.**  When the free attributes have names that
no field uses, the attributes of a side are what its fields declare, the account and the free
attribute, if that has both a name and a value.  Two sides therefore have the same attributes
exactly when they are equal but for free attributes that are not whole; sides whose free attribute
has a name exactly when it has a value are told apart.  A policy that is resolved, to be created or
to be updated, has these attributes for its source and for its target. -/
theorem serviceAttributes_told_apart {scope : Scope} {a b : ServiceInfo}
    (hA : a.resourceKey ∉ reservedNames) (hB : b.resourceKey ∉ reservedNames) :
    (∀ name value, (serviceAttributes a scope.accountId).get? name = some value ↔
        (name, value) ∈ declaredBindings a scope.accountId ∧ value ≠ "" ∨
          a.free? = some (name, value)) ∧
      (serviceAttributes a scope.accountId = serviceAttributes b scope.accountId ↔
        a.restriction = b.restriction) ∧
      (a.IsWhole → b.IsWhole → a ≠ b →
        serviceAttributes a scope.accountId ≠ serviceAttributes b scope.accountId) ∧
      ∀ (spec : AuthorizationPolicySpec) trace policy,
        (Kind.authorizationPolicy.strategy.createRequest scope spec).run.Runs (.free _) ()
            trace (.ok policy) () ∨
          (Kind.authorizationPolicy.strategy.updateRequest scope spec).run.Runs (.free _) ()
            trace (.ok policy) () →
          policy.subjects = [serviceAttributes spec.source scope.accountId] ∧
            policy.resources = [serviceAttributes spec.target scope.accountId] := by
  have hSame : serviceAttributes a scope.accountId = serviceAttributes b scope.accountId ↔
      a.restriction = b.restriction := serviceAttributes_eq_iff hA hB
  refine ⟨fun name value => get?_serviceAttributes_iff hA, hSame, fun hWholeA hWholeB hNe hEq =>
    hNe ?_, ?_⟩
  · rw [← ServiceInfo.restriction_eq_self hWholeA, hSame.1 hEq,
      ServiceInfo.restriction_eq_self hWholeB]
  · intro spec trace policy hRun
    have hPolicy : Pass.Ensures (.free _) (AuthorizationPolicies.policy scope spec) () _ _ :=
      AuthorizationPolicies.ensures_policy scope spec
    rcases hRun with hCreate | hUpdate
    · exact hPolicy trace (.ok policy) () hCreate
    · exact hPolicy trace (.ok policy) () hUpdate

/-! ## A free attribute that is not whole -/

namespace AuthorizationPolicies

/-- An instance of a service, as a whole. -/
def instanceSide : ServiceInfo :=
  { ServiceInfo.blank with serviceClass := "storage", serviceId := "instance-1" }

/-- One bucket in the instance. -/
def bucketSide : ServiceInfo :=
  { instanceSide with resourceKey := "bucket", resourceValue := "logs" }

/-- The instance narrowed to a value without a name. -/
def namelessSide : ServiceInfo := { instanceSide with resourceValue := "logs" }

/-- An authorization of the bucket. -/
def bucketSpec : AuthorizationPolicySpec := ⟨bucketSide, ["Reader"], instanceSide⟩

/-- The service offers the role. -/
def bucketTrace : List (Exchange Pass.interface) :=
  [⟨.directory (.authorizationRoles "storage" "storage"), .ok [⟨"role-reader", "Reader"⟩]⟩]

/-- The policy that is resolved for the bucket. -/
def bucketPolicy : Policy :=
  ⟨.authorization, [serviceAttributes bucketSide "account"], [⟨"role-reader", "Reader"⟩],
    [serviceAttributes instanceSide "account"]⟩

/-- The policy is resolved when the service offers the role. -/
lemma runs_bucketPolicy :
    (Kind.authorizationPolicy.strategy.createRequest AccessPolicies.ownScope bucketSpec).run.Runs
      (.free _) ()
      bucketTrace (.ok bucketPolicy) () :=
  .answered _ <| .done _ _

end AuthorizationPolicies

open AuthorizationPolicies in
/-- A bucket and the whole instance are told apart, and the policy is for the bucket. -/
theorem serviceAttributes_bucketSide :
    bucketSide.resourceKey ∉ reservedNames ∧ instanceSide.resourceKey ∉ reservedNames ∧
      serviceAttributes bucketSide "account" ≠ serviceAttributes instanceSide "account" ∧
      ∃ subject, bucketPolicy.subjects = [subject] ∧ subject.get? "bucket" = some "logs" := by
  have hBucket : bucketSide.resourceKey ∉ reservedNames := by decide
  have hInstance : instanceSide.resourceKey ∉ reservedNames := by decide
  obtain ⟨hGet, -, hApart, hPolicy⟩ :=
    @serviceAttributes_told_apart AccessPolicies.ownScope _ _ hBucket hInstance
  refine ⟨hBucket, hInstance, hApart (by decide) (by decide) (by decide), _,
    (hPolicy _ _ _ (.inl runs_bucketPolicy)).1, ?_⟩
  exact (hGet "bucket" "logs").2 (.inr rfl)

open AuthorizationPolicies in
/-- Two different sides may both be well-formed and have the same attributes. -/
theorem serviceAttributes_not_told_apart :
    ¬∀ (a b : ServiceInfo) (field accountId : String), Rule.check (a.rules field) = .ok () →
      Rule.check (b.rules field) = .ok () → a.resourceKey ∉ reservedNames →
      b.resourceKey ∉ reservedNames → accountId ≠ "" → a ≠ b →
        serviceAttributes a accountId ≠ serviceAttributes b accountId := by
  intro hClaim
  have hApart := hClaim namelessSide instanceSide "spec.source" "account" rfl rfl
    (by decide) (by decide) (by decide) (by decide)
  exact absurd rfl hApart

end IamReconciler
