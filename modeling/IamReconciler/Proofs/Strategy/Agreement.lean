import IamReconciler.Proofs.NameMap
import IamReconciler.Proofs.Strategy.Resolution

/-!
# Reaching agreement

An entity agrees with a spec when another pass, which only looks, resolves the spec to something
from which the entity does not differ (`Agrees`).  For each kind there are three ways to get there
(`Strategy.Converges`): the entity is created; it is updated; or it is read and does not differ.

The desired state is built along different ways before and after.  A group is compared by the set of
its members, which its creation adds and its update brings about by removals and additions; policies
and roles are compared with what was written.
-/

namespace IamReconciler

open Directory (Call)

/-! ## Agreement -/

section Agreement

variable {U V : Type}

/-- A spec is resolved by looking, and so is the entity of an identifier read, and they do not
differ. -/
def Agrees (nb : Neighbours) (k : Kind) (key : Key) (resolve : Pass U)
    (fetch : String →
      Pass (V × Etag)) (differs : U → V → Bool) (id : String) (d : Contents) : Prop :=
  ∃ desired, Finds nb k key resolve d desired ∧
    ∀ s : Site k Contents, s.remote = d →
      Pass.Looks (nb.strictly k key) s (fetch id) (fun found =>
        differs desired found.1 = false) fun _ => False

/-- A part of a pass that ends with a value ends with an entity that agrees, and touches nothing but
the service. -/
def Settles (nb : Neighbours) (k : Kind) (key : Key) (resolve : Pass U)
    (fetch : String →
      Pass (V × Etag)) (differs : U → V → Bool) (p : Pass RemoteRef) (s : Site k Contents) : Prop :=
  Pass.Ensures (nb.loosely k key) p s
    (fun ref t => ref.id ≠ "" ∧ ∃ d, t = { s with remote := d } ∧
      Agrees nb k key resolve fetch differs ref.id d)
    fun _ _ => True

end Agreement

/-- The ways of a strategy to agreement with a spec: creation, update, and comparison. -/
structure Strategy.Converges {k : Kind} (strategy : Strategy k) (nb : Neighbours)
    (key : Key) (scope : Scope) (spec : k.Spec) : Prop where
  creates : ∀ s : Site k Contents, Pass.Ensures (nb.loosely k key)
    (strategy.createRequest scope spec) s (fun request t => ∃ d, t = { s with remote := d } ∧
      Settles nb k key (strategy.updateRequest scope spec) strategy.fetch strategy.differs
        (strategy.create scope spec request) t)
    fun _ _ => True
  syncs : ∀ id ≠ "", ∀ s : Site k Contents, Pass.Ensures (nb.loosely k key) (strategy.fetch id) s
    (fun found t => t = s ∧ Pass.Ensures (nb.loosely k key) (strategy.updateRequest scope spec) s
      (fun desired u => (∃ d, u = { s with remote := d }) ∧
        (strategy.differs desired found.1 = false →
          Agrees nb k key (strategy.updateRequest scope spec) strategy.fetch
          strategy.differs id u.remote) ∧
        Settles nb k key (strategy.updateRequest scope spec) strategy.fetch strategy.differs
          (strategy.update scope spec id desired found.1 found.2) u)
      fun _ _ => True)
    fun _ _ => True

variable {nb : Neighbours} {k : Kind} {key : Key} {scope : Scope}

/-! ## Policies -/

namespace Policies

/-- A policy does not differ from itself. -/
lemma differs_self (policy : Policy) : differs policy policy = false := by
  simp [differs]

/-- A policy that is there as it was asked for agrees. -/
lemma agrees {resolve : Pass Policy} {id : String} {d : Contents} {policy remote : Policy}
    (hFound : Finds nb k key resolve d policy) (hThere : d.policy id = some remote)
    (hSame : differs policy remote = false) : Agrees nb k key resolve fetch differs id d := by
  refine ⟨policy, hFound, ?_⟩
  rintro s rfl
  refine Pass.looks_bind_iff.2
    (Neighbours.looks_read rfl ⟨(⟨id, remote⟩, ⟨""⟩), hThere⟩ fun found hShown => ?_)
  have hRemote : found.1.policy = remote := Option.some.inj ((Eq.symm hShown).trans hThere)
  change differs policy found.1.policy = false
  rw [hRemote]
  exact hSame

/-- Writing a policy that is resolved again makes it agree. -/
lemma settles_of_write {resolve : Pass Policy} {policy : Policy} {s : Site k Contents}
    {d : Contents} {id : String}
    (hFound : ∀ d', s.remote.Later k d' →
      Finds nb k key resolve d' policy) (hOnly : s.remote.OnlyPolicies d)
    (hThere : d.policy id = some policy) : Agrees nb k key resolve fetch differs id d := by
  have hLater : s.remote.Later k d := by
    rw [hOnly]
    exact ⟨fun _ _ _ h => h, rfl, fun _ => rfl, fun _ => rfl⟩
  exact agrees (hFound d hLater) hThere (differs_self policy)

/-- A policy that is created agrees. -/
lemma settles_create {resolve : Pass Policy} {policy : Policy} {s : Site k Contents}
    (hFound : ∀ d', s.remote.Later k d' → Finds nb k key resolve d' policy) :
    Settles nb k key resolve fetch differs (create policy) s := by
  refine Neighbours.ensures_changing_bind rfl fun created d hBecomes => ?_
  obtain ⟨hId, hOnly, hThere⟩ := hBecomes
  exact Pass.ensures_pure_iff.2 ⟨hId, d, rfl, settles_of_write hFound hOnly hThere⟩

/-- A policy that is updated agrees. -/
lemma settles_update {resolve : Pass Policy} {id : String} {policy : Policy} {etag : Etag}
    {s : Site k Contents} (hFound : ∀ d', s.remote.Later k d' → Finds nb k key resolve d' policy) :
    Settles nb k key resolve fetch differs (update id policy etag) s := by
  refine Neighbours.ensures_changing_bind rfl fun updated d hBecomes => ?_
  obtain ⟨hId, hOnly, hThere⟩ := hBecomes
  exact Pass.ensures_pure_iff.2 ⟨hId, d, rfl, settles_of_write hFound hOnly hThere⟩

/-- A policy agrees after it was created as it was resolved. -/
lemma ensures_creation {resolve : Pass Policy}
    (hRecalls : Recalls nb k key (Contents.Later k) resolve resolve) (s : Site k Contents) :
    Pass.Ensures (nb.loosely k key) resolve s
      (fun policy t => ∃ d, t = { s with remote := d } ∧ Settles nb k key resolve fetch differs
        (create policy) t)
      fun _ _ => True := by
  refine (hRecalls s).imp ?_
  rintro policy _ ⟨d, rfl, -, -, hAgain⟩
  exact ⟨d, rfl, settles_create hAgain⟩

/-- A policy that is read and compared agrees unless it differs, and agrees after an update. -/
lemma ensures_sync {resolve : Pass Policy}
    (hRecalls : Recalls nb k key (Contents.Later k) resolve resolve) (id : String)
    (s : Site k Contents) : Pass.Ensures (nb.loosely k key) (fetch id) s
      (fun found t => t = s ∧ Pass.Ensures (nb.loosely k key) resolve s
        (fun desired u => (∃ d, u = { s with remote := d }) ∧
          (differs desired found.1 = false → Agrees nb k key resolve fetch differs id u.remote) ∧
          Settles nb k key resolve fetch differs (update id desired found.2) u)
        fun _ _ => True)
      fun _ _ => True := by
  refine Neighbours.ensures_read_bind rfl fun found hFound => ?_
  refine Pass.ensures_pure_iff.2 ⟨rfl, (hRecalls s).imp ?_⟩
  rintro desired _ ⟨_, rfl, ⟨user, rfl⟩, -, hAgain⟩
  refine ⟨⟨_, rfl⟩, fun hSame => ?_, settles_update hAgain⟩
  exact agrees (hAgain _ ((Contents.lasts_later k).refl _)) hFound hSame

end Policies

namespace AccessPolicies

/-- An access policy is created as its spec is resolved, and compared with what the spec is resolved
to. -/
lemma converges (spec : AccessPolicySpec) : strategy.Converges nb key scope spec where
  creates s := Policies.ensures_creation (recalls_policy spec) s
  syncs id _ s := Policies.ensures_sync (recalls_policy spec) id s

end AccessPolicies

namespace AuthorizationPolicies

/-- An authorization policy is created as its spec is resolved, and compared with what the spec is
resolved to. -/
lemma converges (spec : AuthorizationPolicySpec) : strategy.Converges nb key scope spec where
  creates s := Policies.ensures_creation (recalls_policy spec) s
  syncs id _ s := Policies.ensures_sync (recalls_policy spec) id s

end AuthorizationPolicies

/-! ## Access groups -/

namespace AccessGroups

/-! ### Members -/

/-- The members that are not wanted. -/
lemma mem_surplus_iff {current wanted : List GroupMember} {m : String} :
    m ∈ (surplus current wanted).map (·.id) ↔ m ∈ current.map (·.id) ∧ m ∉ wanted.map (·.id) := by
  simp only [surplus, List.mem_map, List.mem_filter, Bool.not_eq_true', List.any_eq_false,
    decide_eq_true_eq]
  constructor
  · rintro ⟨member, ⟨hCurrent, hUnwanted⟩, rfl⟩
    exact ⟨⟨member, hCurrent, rfl⟩, fun ⟨other, hWanted, hSame⟩ => hUnwanted other hWanted hSame⟩
  · rintro ⟨⟨member, hCurrent, rfl⟩, hUnwanted⟩
    exact ⟨member, ⟨hCurrent, fun other hWanted hSame => hUnwanted ⟨other, hWanted, hSame⟩⟩, rfl⟩

/-- Added members are in the group afterwards. -/
lemma ensures_addMembers (id : String) (members : List GroupMember) (s : Site k Contents) :
    Pass.Ensures (nb.loosely k key) (addMembers id members) s
      (fun _ t => ∃ d, t = { s with remote := d } ∧ s.remote.OnlyGroups d ∧
        d.group id = s.remote.group id ∧ ∀ m, m ∈ d.members id ↔ m ∈ s.remote.members id ∨
        m ∈ members.map (·.id)) fun _ _ => True := by
  refine Pass.ensures_ite_iff.2 ⟨fun hEmpty =>
    Pass.ensures_pure_iff.2 ⟨s.remote, rfl, rfl, rfl, fun m => ?_⟩, fun _ => ?_⟩
  · rw [List.isEmpty_iff.1 hEmpty]
    exact (or_iff_left List.not_mem_nil).symm
  · exact Neighbours.ensures_changing rfl (fun _ d hBecomes => ⟨d, rfl, hBecomes⟩) fun _ _ =>
      trivial

/-- Removed members are not in the group afterwards. -/
lemma ensures_removeMembers (id : String) (members : List GroupMember) (s : Site k Contents) :
    Pass.Ensures (nb.loosely k key) (removeMembers id members) s
      (fun _ t => ∃ d, t = { s with remote := d } ∧ s.remote.OnlyGroups d ∧
        d.group id = s.remote.group id ∧ ∀ m, m ∈ d.members id ↔ m ∈ s.remote.members id ∧
        m ∉ members.map (·.id)) fun _ _ => True := by
  induction members generalizing s with
  | nil =>
    exact Pass.ensures_pure_iff.2 ⟨s.remote, rfl, rfl, rfl, fun _ =>
      (and_iff_left List.not_mem_nil).symm⟩
  | cons member rest ih =>
    refine Neighbours.ensures_changing_bind rfl fun _ d hBecomes => ?_
    obtain ⟨hOnly, hGroup, hMembers⟩ := hBecomes
    refine (ih { s with remote := d }).imp ?_
    rintro _ _ ⟨d', rfl, hOnly', hGroup', hMembers'⟩
    refine ⟨d', rfl, hOnly.trans hOnly', hGroup'.trans hGroup, fun m => ?_⟩
    rw [hMembers', hMembers, List.map_cons, List.mem_cons, not_or, and_assoc]

/-! ### Agreement -/

/-- A group differs neither in its name, nor in its description, nor in its members exactly when it
is as it is to be. -/
lemma differs_eq_false_iff {desired : GroupUpdate} {remote : GroupSnapshot} :
    differs desired remote = false ↔ desired.request.name = remote.group.name ∧
      desired.request.description = remote.group.description ∧
        ∀ m, m ∈ desired.memberIds ↔ m ∈ remote.members.map (·.id) := by
  simp [differs, sameElements_iff, and_assoc]

/-- The read of a group shows its name, its description and its members. -/
lemma ensures_fetch (id : String) (s : Site k Contents) :
    Pass.Ensures (nb.loosely k key) (fetch id) s
      (fun found t => t = s ∧ s.remote.group id = some found.1.group ∧
        ∀ m, m ∈ found.1.members.map (·.id) ↔ m ∈ s.remote.members id) fun _ _ => True := by
  refine Neighbours.ensures_read_bind rfl fun group hGroup => ?_
  refine Neighbours.ensures_read_bind rfl fun members hMembers => ?_
  exact Pass.ensures_pure_iff.2 ⟨rfl, hGroup, hMembers⟩

/-- A group agrees with a spec whose members are found again and are its members. -/
lemma agrees {spec : AccessGroupSpec} {wanted : List GroupMember} {id : String} {d : Contents}
    (hFound : Finds nb k key (members .existing scope.accountId spec) d wanted)
    (hGroup : d.HasGroup id (request spec))
    (hMembers : ∀ m, m ∈ wanted.map (·.id) ↔ m ∈ d.members id) :
    Agrees nb k key (updateRequest scope spec) fetch differs id d := by
  refine ⟨⟨request spec, Entries.distinct (wanted.map (·.id))⟩, hFound.bind (finds_pure d _), ?_⟩
  rintro s rfl
  obtain ⟨group, hThere, hName, hDescription⟩ := hGroup
  refine Pass.looks_bind_iff.2
    (Neighbours.looks_read rfl ⟨(group, ⟨""⟩), hThere⟩ fun found hShown => ?_)
  obtain rfl : found.1 = group := Option.some.inj ((Eq.symm hShown).trans hThere)
  -- the kinds of members are not compared, so that any will do
  have hListed : s.remote.Shows (.listMembers id) ((s.remote.members id).map (⟨·, .user⟩)) := by
    intro m
    rw [List.map_map]
    exact iff_of_eq (congrArg (m ∈ ·) (List.map_id _))
  refine Pass.looks_bind_iff.2 (Neighbours.looks_read rfl ⟨_, hListed⟩ fun listed hShows => ?_)
  exact differs_eq_false_iff.2 ⟨hName.symm, hDescription.symm, fun m =>
    Entries.mem_distinct.trans ((hMembers m).trans (hShows m).symm)⟩

/-! ### Ways to agreement -/

/-- A group without members is populated with members that are found again. -/
lemma ensures_populate {spec : AccessGroupSpec} {id : String} {s : Site .accessGroup Contents}
    (hNone : s.remote.members id = []) :
    Pass.Ensures (nb.loosely .accessGroup key) (populate scope.accountId spec id) s
      (fun _ t => ∃ d wanted, t = { s with remote := d } ∧ d.group id = s.remote.group id ∧
        Finds nb .accessGroup key (members .existing scope.accountId spec) d wanted ∧
          ∀ m, m ∈ wanted.map (·.id) ↔ m ∈ d.members id) fun _ _ => True := by
  refine (recalls_invitedMembers spec s).bind ?_
  rintro wanted _ ⟨_, rfl, ⟨user, rfl⟩, -, hAgain⟩
  refine (ensures_addMembers id wanted _).imp ?_
  rintro _ _ ⟨d, rfl, hOnly, hSame, hMembers⟩
  refine ⟨d, wanted, rfl, hSame, hAgain d (hOnly.later nofun), fun m => ?_⟩
  have hFresh : m ∉ s.remote.members id := by
    rw [hNone]
    exact List.not_mem_nil
  exact ((hMembers m).trans (or_iff_right hFresh)).symm

/-- A group agrees after it was created with its members. -/
lemma settles_create {spec : AccessGroupSpec} (s : Site .accessGroup Contents) :
    Settles nb .accessGroup key (updateRequest scope spec) fetch differs
      (create scope spec (request spec)) s := by
  refine Neighbours.ensures_read_bind rfl fun existing _ => ?_
  refine Pass.ensures_ite_iff.2 ⟨fun _ => Pass.ensures_throw_iff.2 trivial, fun _ => ?_⟩
  refine Neighbours.ensures_changing_bind rfl fun group d hBecomes => ?_
  obtain ⟨hId, -, hGroup, hNone⟩ := hBecomes
  refine Pass.ensures_bind_iff.2 (Pass.ensures_attempt_iff.2
    ((ensures_populate (s := { s with remote := d }) hNone).mono ?_ ?_))
  · rintro _ _ ⟨d', wanted, rfl, hSame, hFound, hMembers⟩
    exact Pass.ensures_pure_iff.2 ⟨hId, d', rfl, agrees hFound (hGroup.of_eq hSame) hMembers⟩
  · -- the group is taken back, and the pass ends with an error
    rintro e t -
    refine Pass.ensures_bind_iff.2
      (Pass.ensures_lift_iff.2 (Pass.ensures_directory_iff.2 fun _ _ _ => ?_))
    exact Pass.ensures_throw_iff.2 trivial

/-- A group agrees after it was updated and its members were removed and added. -/
lemma settles_update {spec : AccessGroupSpec} {id : String} (hId : id ≠ "") {desired : GroupUpdate}
    (hDesired : desired.request = request spec) {remote : GroupSnapshot} {etag : Etag}
    {s : Site .accessGroup Contents}
    (hRemote : ∀ m, m ∈ remote.members.map (·.id) ↔ m ∈ s.remote.members id) :
    Settles nb .accessGroup key (updateRequest scope spec) fetch differs
      (update scope spec id desired remote etag) s := by
  refine Neighbours.ensures_changing_bind rfl fun _ d hBecomes => ?_
  obtain ⟨-, hGroup, hMembers⟩ := hBecomes
  rw [hDesired] at hGroup
  refine (recalls_invitedMembers spec { s with remote := d }).bind ?_
  rintro wanted _ ⟨_, rfl, ⟨user, rfl⟩, -, hAgain⟩
  refine (ensures_removeMembers id _ _).bind ?_
  rintro _ _ ⟨d', rfl, hOnly', hSame', hMembers'⟩
  refine (ensures_addMembers id _ _).bind ?_
  rintro _ _ ⟨d'', rfl, hOnly'', hSame'', hMembers''⟩
  refine Pass.ensures_pure_iff.2
    ⟨hId, d'', rfl, agrees (hAgain d'' ((hOnly'.trans hOnly'').later nofun)) ?_ fun m => ?_⟩
  · exact hGroup.of_eq (hSame''.trans hSame')
  · rw [hMembers'', hMembers', mem_surplus_iff, mem_surplus_iff]
    change _ ↔ m ∈ d.members id ∧ _ ∨ _
    rw [hMembers, hRemote]
    by_cases hThere : m ∈ s.remote.members id
    · simp [hThere]
    · simp [hThere]

/-- A group is created with its members, and compared and updated by them. -/
lemma converges (spec : AccessGroupSpec) : strategy.Converges nb key scope spec where
  creates s := Pass.ensures_pure_iff.2 ⟨s.remote, rfl, settles_create s⟩
  syncs id hId s := by
    refine (ensures_fetch id s).imp ?_
    rintro found _ ⟨rfl, hGroup, hMembers⟩
    refine ⟨rfl, (recalls_existingMembers spec _).bind ?_⟩
    rintro wanted _ ⟨_, rfl, ⟨user, rfl⟩, hSame, hAgain⟩
    refine Pass.ensures_pure_iff.2 ⟨⟨_, rfl⟩, fun hSame => ?_, settles_update hId rfl hMembers⟩
    obtain ⟨hName, hDescription, hListed⟩ := differs_eq_false_iff.1 hSame
    refine agrees (hAgain _ rfl) ⟨found.1.group, hGroup, hName.symm, hDescription.symm⟩ fun m => ?_
    exact Entries.mem_distinct.symm.trans ((hListed m).trans (hMembers m))

end AccessGroups

/-! ## Custom roles -/

namespace CustomRoles

/-- A role differs neither in its names nor in its actions exactly when it is as it was asked
for. -/
lemma differs_eq_false_iff {desired : RoleUpdate} {remote : RemoteRole} :
    differs desired remote = false ↔ desired.displayName = remote.displayName ∧
      desired.description = remote.description ∧ ∀ action, action ∈ desired.actions ↔
        action ∈ remote.actions := by
  simp [differs, sameElements_iff, and_assoc]

/-- A role that is there as its spec asks for it agrees. -/
lemma agrees {spec : CustomRoleSpec} {id : String} {d : Contents} {role : RemoteRole}
    (hThere : d.role id = some role) (hSame : differs (roleUpdate spec) role = false) :
    Agrees nb k key (strategy.updateRequest scope spec) fetch differs id d := by
  refine ⟨roleUpdate spec, finds_pure d _, ?_⟩
  rintro s rfl
  refine Neighbours.looks_read rfl ⟨(role, ⟨""⟩), hThere⟩ fun found hShown => ?_
  rwa [Option.some.inj ((Eq.symm hShown).trans hThere)]

/-- A role that was made as its spec asks for it agrees. -/
lemma agrees_of_hasRole {spec : CustomRoleSpec} {id : String} {d : Contents}
    (hRole : d.HasRole id (roleUpdate spec)) :
    Agrees nb k key (strategy.updateRequest scope spec) fetch differs id d := by
  obtain ⟨role, hThere, hName, hDescription, hActions⟩ := hRole
  refine agrees hThere (differs_eq_false_iff.2 ⟨hName.symm, hDescription.symm, fun action => ?_⟩)
  rw [hActions]

/-- A role is created and updated as its spec asks for it. -/
lemma converges (spec : CustomRoleSpec) : strategy.Converges nb key scope spec where
  creates s := by
    refine Pass.ensures_pure_iff.2 ⟨s.remote, rfl, ?_⟩
    refine Neighbours.ensures_read_bind rfl fun existing _ => ?_
    refine Pass.ensures_ite_iff.2 ⟨fun _ => Pass.ensures_throw_iff.2 trivial, fun _ => ?_⟩
    refine Neighbours.ensures_changing_bind rfl fun role d hBecomes => ?_
    exact Pass.ensures_pure_iff.2 ⟨hBecomes.1, d, rfl, agrees_of_hasRole hBecomes.2.2⟩
  syncs id _ s := by
    refine Neighbours.ensures_read rfl (fun found hFound => ?_) fun _ _ => trivial
    refine ⟨rfl, Pass.ensures_pure_iff.2 ⟨⟨s.remote, rfl⟩, agrees hFound, ?_⟩⟩
    refine Neighbours.ensures_changing_bind rfl fun role d hBecomes => ?_
    exact Pass.ensures_pure_iff.2 ⟨hBecomes.1, d, rfl, agrees_of_hasRole hBecomes.2.2⟩

end CustomRoles

/-! ## All kinds -/

/-- The strategy of every kind reaches agreement. -/
theorem Kind.converges (k : Kind) (spec : k.Spec) : k.strategy.Converges nb key scope spec := by
  cases k with
  | accessGroup => exact AccessGroups.converges spec
  | accessPolicy => exact AccessPolicies.converges spec
  | authorizationPolicy => exact AuthorizationPolicies.converges spec
  | customRole => exact CustomRoles.converges spec

end IamReconciler
