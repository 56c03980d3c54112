import IamReconciler.Proofs.Looking
import IamReconciler.Proofs.Site

/-!
# What the remote service contains

The contents of a remote service are what its reads show.  A read that succeeds shows the contents,
and a read is answered by there being no such entity only when nothing can be shown.  A change that
succeeds gives the contents that was asked for, under an identifier that is not empty, and touches
nothing else.  Tokens, the order of members and what is found by name are left open.

In these circumstances the account, the references, the service identities and the roles that can be
granted stay the same.  The contents as they are later on (`Contents.Later`) differ by the entities
that passes over one kind keep, and by users who were missing before.
-/

namespace IamReconciler

open Directory (Call)

/-- What no pass changes: the service identities, and the roles that can be granted. -/
structure Registry where
  service : String → Option ServiceIdentity
  systemRoles : List PolicyRole
  serviceRoles : String → List PolicyRole
  authorizationRoles : String → String → List PolicyRole

/-- What the reads of a remote service show. -/
structure Contents where
  group : String → Option RemoteGroup
  /-- The identifiers of the members of a group. -/
  members : String → List String
  policy : String → Option Policy
  role : String → Option RemoteRole
  /-- The custom roles of an account and a service. -/
  listed : String → String → List RemoteRole
  /-- The user of an account and an email. -/
  user : String → String → Option AccountUser
  registry : Registry

namespace Contents

/-! ## Reads -/

/-- A read shows a value. -/
def Shows (d : Contents) : (c : Call) → c.Value → Prop
  | .findGroups .., _ => True
  | .getGroup id, found => d.group id = some found.1
  | .listMembers id, members => ∀ m, m ∈ members.map (·.id) ↔ m ∈ d.members id
  | .getPolicy id, found => d.policy id = some found.1.policy
  | .listRoles accountId serviceName, roles => roles = d.listed accountId serviceName
  | .getRole id, found => d.role id = some found.1
  | .systemRoles, roles => roles = d.registry.systemRoles
  | .serviceRoles serviceName, roles => roles = d.registry.serviceRoles serviceName
  | .authorizationRoles source target, roles => roles = d.registry.authorizationRoles source target
  | .findUser accountId email, user => user = d.user accountId email
  | .getServiceIdentity id, identity => d.registry.service id = some identity
  | _, _ => False

/-! ## Changes -/

/-- There is a group with a name and a description. -/
def HasGroup (d : Contents) (id : String) (request : GroupRequest) : Prop :=
  ∃ group, d.group id = some group ∧ group.name = request.name ∧
    group.description = request.description

/-- There is a custom role with a display name, a description and actions. -/
def HasRole (d : Contents) (id : String) (update : RoleUpdate) : Prop :=
  ∃ role, d.role id = some role ∧ role.displayName = update.displayName ∧
    role.description = update.description ∧ role.actions = update.actions

/-- Only groups and their members have changed. -/
def OnlyGroups (before after : Contents) : Prop :=
  after = { before with group := after.group, members := after.members }

/-- Only policies have changed. -/
def OnlyPolicies (before after : Contents) : Prop :=
  after = { before with policy := after.policy }

/-- Only custom roles have changed. -/
def OnlyRoles (before after : Contents) : Prop :=
  after = { before with role := after.role, listed := after.listed }

/-- What a call that succeeds with a value makes of the contents.  Deletions and removals of users
may make anything, as no pass goes on after them. -/
def Becomes (before after : Contents) : (c : Call) → c.Value → Prop
  | .createGroup request _, group =>
    group.id ≠ "" ∧ before.OnlyGroups after ∧ after.HasGroup group.id request ∧
      after.members group.id = []
  | .updateGroup id request _, _ =>
    before.OnlyGroups after ∧ after.HasGroup id request ∧ after.members id = before.members id
  | .addMembers id members, _ =>
    before.OnlyGroups after ∧ after.group id = before.group id ∧
      ∀ m, m ∈ after.members id ↔ m ∈ before.members id ∨ m ∈ members.map (·.id)
  | .removeMember id memberId, _ =>
    before.OnlyGroups after ∧ after.group id = before.group id ∧
      ∀ m, m ∈ after.members id ↔ m ∈ before.members id ∧ m ≠ memberId
  | .createPolicy policy, created =>
      created.id ≠ "" ∧ before.OnlyPolicies after ∧ after.policy created.id = some policy
  | .updatePolicy _ policy _, updated =>
    updated.id ≠ "" ∧ before.OnlyPolicies after ∧ after.policy updated.id = some policy
  | .createRole request, role =>
    role.id ≠ "" ∧ before.OnlyRoles after ∧
      after.HasRole role.id ⟨request.displayName, request.description, request.actions⟩
  | .updateRole _ update _, role =>
      role.id ≠ "" ∧ before.OnlyRoles after ∧ after.HasRole role.id update
  | .inviteUser accountId email, _ =>
    after = { before with user := after.user } ∧
      ∀ account other, (account, other) ≠ (accountId, email) → after.user account other =
        before.user account other
  | _, _ => True

/-- How a call may be answered, and what the contents may be after that.  Reads fail for other
reasons than absence only where that is allowed; changes may fail in any case, and may then have any
effect. -/
inductive Serves (mayFail : Prop) : (c : Call) → c.Answer → Contents → Contents → Prop where
  | shown {c : Call} {v : c.Value} {d : Contents} (hRead : c.isRead) (hShows : d.Shows c v) :
      Serves mayFail c (.ok v) d d
  | absent {c : Call} {e : RemoteError} {d : Contents} (hRead : c.isRead) (hNotFound : e.isNotFound)
      (hAbsent : ∀ v, ¬d.Shows c v) : Serves mayFail c (.error e) d d
  | unread {c : Call} {e : RemoteError} {d : Contents} (hRead : c.isRead) (hOther : ¬e.isNotFound)
      (hMay : mayFail) : Serves mayFail c (.error e) d d
  | changed {c : Call} {v : c.Value} {d d' : Contents} (hRead : c.isRead = false)
      (hBecomes : d.Becomes d' c v) : Serves mayFail c (.ok v) d d'
  | refused {c : Call} {e : RemoteError} {d d' : Contents} (hRead : c.isRead = false) :
      Serves mayFail c (.error e) d d'

/-- A read that succeeds shows the contents and leaves them. -/
lemma Serves.of_ok {mayFail : Prop} {c : Call} {v : c.Value} {d d' : Contents} (hRead : c.isRead)
    (h : Serves mayFail c (.ok v) d d') : d' = d ∧ d.Shows c v := by
  cases h with
  | shown _ hShows => exact ⟨rfl, hShows⟩
  | changed hChange _ => exact absurd (hRead.symm.trans hChange) Bool.noConfusion

/-- A read that fails leaves the contents; it had nothing to show, or it failed for another
reason. -/
lemma Serves.of_error {mayFail : Prop} {c : Call} {e : RemoteError} {d d' : Contents}
    (hRead : c.isRead) (h : Serves mayFail c (.error e) d d') :
    d' = d ∧ (e.isNotFound ∧ (∀ v, ¬d.Shows c v) ∨ ¬e.isNotFound ∧ mayFail) := by
  cases h with
  | absent _ hNotFound hAbsent => exact ⟨rfl, .inl ⟨hNotFound, hAbsent⟩⟩
  | unread _ hOther hMay => exact ⟨rfl, .inr ⟨hOther, hMay⟩⟩
  | refused hChange => exact absurd (hRead.symm.trans hChange) Bool.noConfusion

/-- A change that succeeds makes what was asked for. -/
lemma Serves.of_change {mayFail : Prop} {c : Call} {v : c.Value} {d d' : Contents}
    (hChange : c.isRead = false) (h : Serves mayFail c (.ok v) d d') : d.Becomes d' c v := by
  cases h with
  | shown hRead _ => exact absurd (hRead.symm.trans hChange) Bool.noConfusion
  | changed _ hBecomes => exact hBecomes

/-! ## Later contents -/

/-- A relation between contents and those later on. -/
structure Lasts (R : Contents → Contents → Prop) : Prop where
  refl : ∀ d, R d d
  trans : ∀ {d d' d''}, R d d' → R d' d'' → R d d''

/-- Contents that stay the same. -/
lemma lasts_eq : Lasts Eq :=
  ⟨fun _ => rfl, Eq.trans⟩

/-- The contents later on, when passes over one kind were at work: no user has changed who was
there, the registry is the same, and so are the groups and the listed roles that access policies
refer to. -/
structure Later (k : Kind) (before after : Contents) : Prop where
  user : ∀ accountId email u, before.user accountId email = some u →
    after.user accountId email = some u
  registry : after.registry = before.registry
  group : k = .accessPolicy → after.group = before.group
  listed : k = .accessPolicy → after.listed = before.listed

lemma lasts_later (k : Kind) : Lasts (Later k) where
  refl _ := ⟨fun _ _ _ h => h, rfl, fun _ => rfl, fun _ => rfl⟩
  trans h h' :=
    ⟨fun accountId email u hu => h'.user accountId email u (h.user accountId email u hu),
      h'.registry.trans h.registry, fun hk => (h'.group hk).trans (h.group hk),
      fun hk => (h'.listed hk).trans (h.listed hk)⟩

/-- Changes of groups and their members, one after the other, change only these. -/
lemma OnlyGroups.trans {d d' d'' : Contents} (h : d.OnlyGroups d') (h' : d'.OnlyGroups d'') :
    d.OnlyGroups d'' := by
  unfold OnlyGroups at *
  rw [h', h]

/-- Contents of which only groups have changed are later ones, unless access policies refer to
groups. -/
lemma OnlyGroups.later {k : Kind} {d d' : Contents} (h : d.OnlyGroups d')
    (hKind : k ≠ .accessPolicy) : d.Later k d' := by
  rw [h]
  exact ⟨fun _ _ _ h => h, rfl, fun hk => absurd hk hKind, fun _ => rfl⟩

/-- A group with the request is there as long as the group is the same. -/
lemma HasGroup.of_eq {d d' : Contents} {id : String} {request : GroupRequest}
    (h : d.HasGroup id request) (hSame : d'.group id = d.group id) : d'.HasGroup id request := by
  unfold HasGroup
  rwa [hSame]

end Contents

/-! ## Circumstances -/

/-- What a pass finds around the resource and the service: the session of the account, and the
resources that references name. -/
structure Neighbours where
  session : Session
  group : String → String → Option (Resource .accessGroup)
  role : String → String → Option (Resource .customRole)

namespace Neighbours

/-- How the account may be opened. -/
def opens (nb : Neighbours) (mayFail : Prop) : Except Error Session → Prop
  | .ok session => session = nb.session
  | .error _ => mayFail

/-- What references may show. -/
def refers (nb : Neighbours) (mayFail : Prop) : (c : ReferenceCall) → c.Answer → Prop
  | .accessGroup ns name, .ok found => found = nb.group ns name
  | .accessGroup .., .error _ => mayFail
  | .customRole ns name, .ok found => found = nb.role ns name
  | .customRole .., .error _ => mayFail

/-- Circumstances among neighbours in which everything but absence may fail, or nothing. -/
def circumstances (nb : Neighbours) (k : Kind) (mayFail : Prop) : Circumstances k Contents where
  storeMayFail := mayFail
  opens _ := nb.opens mayFail
  refers := nb.refers mayFail
  serves c answer s d := Contents.Serves mayFail c answer s.remote d

end Neighbours

end IamReconciler
