import IamReconciler.Proofs.Directory.Entities
import IamReconciler.Proofs.Traces
import IamReconciler.Reconcile.Lifecycle

/-!
# What strategies call

The courses that the parts of a strategy take: their calls in order, with their results.  A spec is
resolved by looking things up, by inviting users whose emails it lists, and by removing such users
when they cannot be used.  An entity is created by one call, after a look-up that shows that it has
no rival; it is read by calls that name it, one of which gives its token; it is updated by one call
that names it and presents the token; and it is deleted by one call.

A group has members besides.  They are added after it was created, and exchanged after it was
updated, by calls that resolve the spec or change the members of this group.
-/

namespace IamReconciler

open Directory (Call Entity EntityKind)

variable {k : Kind} {scope : Scope} {h : List (Exchange Pass.interface)}

/-- The emails of the users that a spec names. -/
def Kind.emails : (k : Kind) → k.Spec → List String
  | .accessGroup, spec => spec.userEmails
  | .accessPolicy, spec => [spec.subject.userEmail]
  | .authorizationPolicy, _ => []
  | .customRole, _ => []

/-! ## Resolving -/

/-- A user who can be used has an identifier. -/
lemma AccountUser.iamId_ne_empty {user : AccountUser} (hUsable : user.isUsable) :
    user.iamId ≠ "" := by
  intro hEmpty
  simp [AccountUser.isUsable, hEmpty] at hUsable

/-- An exchange that may follow others while a spec with given emails is resolved in an account, for
an entity of some kind.  No entity of this kind is read. -/
inductive MayResolve (kind : EntityKind) (accountId : String) (emails : List String)
    (before : List (Exchange Pass.interface)) : Exchange Pass.interface → Prop where
  | referred {c : ReferenceCall} (answer : c.Answer) : MayResolve kind accountId emails before
      ⟨.reference c, answer⟩
  | read {c : Call} (hRead : c.isRead) (hOther : ∀ e, c.reads? = some e → e.kind ≠ kind)
      (answer : c.Answer) : MayResolve kind accountId emails before ⟨.directory c, answer⟩
  | invited {email : String} (hListed : email ∈ emails) (answer : Except RemoteError Unit) :
      MayResolve kind accountId emails before ⟨.directory (.inviteUser accountId email), answer⟩
  | removed {email : String} {user : AccountUser} (hListed : email ∈ emails)
      (hFound : ⟨.directory (.findUser accountId email), .ok (some user)⟩ ∈ before)
      (hUnusable : ¬user.isUsable)
      (answer : Except RemoteError Unit) :
      MayResolve kind accountId emails before ⟨.directory (.removeUser accountId user.id), answer⟩

/-- A call that looks something up and reads no entity may always be made. -/
lemma MayResolve.looked {kind : EntityKind} {accountId : String} {emails : List String}
    {before : List (Exchange Pass.interface)} {c : Call} (hRead : c.isRead)
    (hNone : c.reads? = none) (answer : c.Answer) : MayResolve kind accountId emails before
      ⟨.directory c, answer⟩ := by
  refine .read hRead (fun e hReads => ?_) answer
  rw [hNone] at hReads
  cases hReads

/-- What may follow some exchanges may follow more. -/
lemma lasting_mayResolve (kind : EntityKind) (accountId : String) (emails : List String) :
    Lasting (MayResolve kind accountId emails) := by
  rintro earlier before y (answer | ⟨hRead, hOther, answer⟩ | ⟨hListed, answer⟩ | ⟨hListed, hFound,
    hUnusable, answer⟩)
  · exact .referred answer
  · exact .read hRead hOther answer
  · exact .invited hListed answer
  · exact .removed hListed (List.mem_append_right earlier hFound) hUnusable answer

namespace Resolve

variable {kind : EntityKind} {accountId email : String} {emails : List String}

/-- The courses of finding a user, who is invited when there is none. -/
inductive Seeking (accountId email : String) :
    List (Exchange Pass.interface) → Except Error (Option AccountUser) → Prop where
  | found (user : AccountUser) :
      Seeking accountId email [⟨.directory (.findUser accountId email), .ok (some user)⟩]
        (.ok (some user))
  | unknown (e : RemoteError) :
      Seeking accountId email [⟨.directory (.findUser accountId email), .error e⟩]
        (.error (.remote "find account user" e))
  | uninvited (e : RemoteError) :
      Seeking accountId email
        [⟨.directory (.findUser accountId email), .ok none⟩,
          ⟨.directory (.inviteUser accountId email), .error e⟩]
        (.error (.remote "invite account user" e))
  | invited (answer : Except RemoteError (Option AccountUser)) :
      Seeking accountId email
        [⟨.directory (.findUser accountId email), .ok none⟩,
          ⟨.directory (.inviteUser accountId email), .ok ()⟩,
          ⟨.directory (.findUser accountId email), answer⟩]
        (answer.mapError (.remote "find account user"))

/-- The courses of resolving a user who may be invited. -/
inductive Inviting (accountId email : String) : List (Exchange Pass.interface) →
    Except Error String → Prop where
  | failed {h : List (Exchange Pass.interface)} {e : Error}
      (hSought : Seeking accountId email h (.error e)) : Inviting accountId email h (.error e)
  | absent {h : List (Exchange Pass.interface)} (hSought : Seeking accountId email h (.ok none)) :
      Inviting accountId email h
        (.error (.resolution ("user " ++ email) "user not found after invitation"))
  | usable {h : List (Exchange Pass.interface)} {user : AccountUser}
      (hSought : Seeking accountId email h (.ok (some user))) (hUsable : user.isUsable) :
      Inviting accountId email h (.ok user.iamId)
  | unusable {h : List (Exchange Pass.interface)} {user : AccountUser}
      (hSought : Seeking accountId email h (.ok (some user))) (hUnusable : ¬user.isUsable)
      (answer : Except RemoteError Unit) :
      Inviting accountId email (h ++ [⟨.directory (.removeUser accountId user.id), answer⟩])
        (.error (.resolution ("user " ++ email) "user email is not valid"))

/-- Finding a user takes one of its courses. -/
lemma seeking_of_traces {x : Except Error (Option AccountUser)}
    (hTrace : Pass.Traces (findOrInvite accountId email) h x) : Seeking accountId email h x := by
  rcases Pass.traces_remote_bind_iff.1 hTrace with ⟨e, rfl, rfl⟩ | ⟨user, rest, hRest, rfl⟩
  · exact .unknown e
  cases user with
  | some user =>
    obtain ⟨rfl, rfl⟩ := Pass.traces_pure_iff.1 hRest
    exact .found user
  | none =>
    rcases Pass.traces_remote_bind_iff.1 hRest with ⟨e, rfl, rfl⟩ | ⟨_, last, hLast, rfl⟩
    · exact .uninvited e
    · obtain ⟨answer, rfl, rfl⟩ := Pass.traces_remote_iff.1 hLast
      exact .invited answer

/-- Resolving a user who may be invited takes one of its courses. -/
lemma inviting_of_traces {x : Except Error String}
    (hTrace : Pass.Traces (invitedUser accountId email) h x) : Inviting accountId email h x := by
  rcases Pass.traces_bind_iff.1 hTrace with ⟨e, hSought, rfl⟩ | ⟨first, found, rest,
    hSought, hRest, rfl⟩
  · exact .failed (seeking_of_traces hSought)
  replace hSought := seeking_of_traces hSought
  cases found with
  | none =>
    obtain ⟨rfl, rfl⟩ := Pass.traces_throw_iff.1 hRest
    rw [List.append_nil]
    exact .absent hSought
  | some user =>
    dsimp only at hRest
    split at hRest
    · obtain ⟨rfl, rfl⟩ := Pass.traces_pure_iff.1 hRest
      rw [List.append_nil]
      exact .usable hSought ‹_›
    · obtain ⟨removal, answer, rest, hRemoval, hThrow, rfl⟩ := Pass.traces_lift_bind_iff.1 hRest
      obtain rfl := Pass.traces_directory_iff.1 hRemoval
      obtain ⟨rfl, rfl⟩ := Pass.traces_throw_iff.1 hThrow
      exact .unusable hSought ‹_› answer

/-- A user who was found was returned by the last look-up, and by no other. -/
lemma Seeking.last {user : AccountUser} (hSought : Seeking accountId email h (.ok (some user))) :
    ∃ earlier, h = earlier ++ [⟨.directory (.findUser accountId email), .ok (some user)⟩] ∧
      ∀ other, ⟨.directory (.findUser accountId email), .ok (some other)⟩ ∉ earlier := by
  generalize hResult : Except.ok (some user) = x at hSought
  cases hSought with
  | found =>
    cases hResult
    exact ⟨[], rfl, fun _ => List.not_mem_nil⟩
  | unknown => cases hResult
  | uninvited => cases hResult
  | invited answer =>
    cases answer with
    | error => cases hResult
    | ok =>
      cases hResult
      refine ⟨[_, _], rfl, fun other hMem => ?_⟩
      rcases List.mem_cons.1 hMem with hFirst | hSecond
      · cases hFirst
      · cases List.mem_singleton.1 hSecond

/-- A user who was found was returned by a look-up. -/
lemma Seeking.mem {user : AccountUser} (hSought : Seeking accountId email h (.ok (some user))) :
    ⟨.directory (.findUser accountId email), .ok (some user)⟩ ∈ h := by
  obtain ⟨earlier, rfl, -⟩ := hSought.last
  exact List.mem_append_right earlier List.mem_cons_self

/-- Finding a user follows a rule by which the user may always be looked up, and may be invited
after a first look-up that found nobody. -/
lemma Seeking.inTurn_of {R : List (Exchange Pass.interface) → Exchange Pass.interface → Prop}
    {x : Except Error (Option AccountUser)}
    (hFind : ∀ before answer, R before ⟨.directory (.findUser accountId email), answer⟩)
    (hInvite : ∀ answer, R [⟨.directory (.findUser accountId email), .ok none⟩]
      ⟨.directory (.inviteUser accountId email), answer⟩)
    (hSought : Seeking accountId email h x) : InTurn R h := by
  have hFirst (answer : Except RemoteError (Option AccountUser)) :
      InTurn R [⟨.directory (.findUser accountId email), answer⟩] :=
    inTurn_singleton_iff.2 (hFind [] answer)
  have hSecond (answer : Except RemoteError Unit) :=
    inTurn_concat_iff.2 ⟨hFirst (.ok none), hInvite answer⟩
  cases hSought with
  | found user => exact hFirst _
  | unknown e => exact hFirst _
  | uninvited e => exact hSecond _
  | invited answer => exact inTurn_concat_iff.2 ⟨hSecond _, hFind _ answer⟩

/-- Finding a user invites nobody but this user. -/
lemma Seeking.inTurn (hListed : email ∈ emails) {x : Except Error (Option AccountUser)}
    (hSought : Seeking accountId email h x) : InTurn (MayResolve kind accountId emails) h :=
  hSought.inTurn_of (fun _ answer => .looked (c := .findUser accountId email) rfl rfl answer)
    fun answer =>
    .invited hListed answer

/-- A user who may be invited is resolved as the spec allows. -/
lemma heeds_invitedUser (hListed : email ∈ emails) :
    Pass.Heeds (MayResolve kind accountId emails) (invitedUser accountId email) := by
  intro h x hTrace
  cases inviting_of_traces hTrace with
  | failed hSought => exact hSought.inTurn hListed
  | absent hSought => exact hSought.inTurn hListed
  | usable hSought _ => exact hSought.inTurn hListed
  | unusable hSought hUnusable answer =>
    exact inTurn_concat_iff.2 ⟨hSought.inTurn hListed,
      .removed hListed hSought.mem hUnusable answer⟩

/-- A user is resolved as the spec allows, which matters only where users are invited. -/
lemma heeds_user (lookup : UserLookup) (hListed : lookup = .invite → email ∈ emails) :
    Pass.Heeds (MayResolve kind accountId emails) (user lookup accountId email) := by
  cases lookup with
  | invite => exact (heeds_invitedUser (hListed rfl)).map _
  | existing =>
    have hLasting := lasting_mayResolve kind accountId emails
    exact (Pass.heeds_remote fun answer => .looked rfl rfl answer).bind hLasting fun _ =>
      Pass.heeds_pure _

/-- A service identity is resolved as every spec allows. -/
lemma heeds_serviceIdentity (id : String) : Pass.Heeds (MayResolve kind accountId emails)
    (serviceIdentity id) :=
  (Pass.heeds_remote fun answer => .looked rfl rfl answer).bind (lasting_mayResolve _ _ _) fun _ =>
    Pass.heeds_pure _

end Resolve

namespace AccessGroups

/-- The members that a spec lists are resolved as it allows, which matters only where users are
invited. -/
lemma heeds_members {emails : List String} (lookup : UserLookup) (accountId : String)
    {spec : AccessGroupSpec} (hListed : lookup = .invite → spec.userEmails ⊆ emails) :
    Pass.Heeds (MayResolve .group accountId emails) (members lookup accountId spec) := by
  have hLasting := lasting_mayResolve .group accountId emails
  refine Pass.Heeds.bind hLasting (Pass.Heeds.mapM hLasting fun email hMem => ?_) fun _ =>
    Pass.Heeds.bind hLasting (Pass.Heeds.mapM hLasting fun id _ => ?_) fun _ => Pass.heeds_pure _
  · exact (Resolve.heeds_user lookup fun hInvite => hListed hInvite hMem).bind hLasting fun _ =>
      Pass.heeds_pure _
  · refine (Resolve.heeds_serviceIdentity id).attempt_bind hLasting ?_
    rintro (e | iamId)
    · dsimp only
      split
      · exact Pass.heeds_pure _
      · exact Pass.heeds_throw _
    · exact Pass.heeds_pure _

end AccessGroups

namespace AccessPolicies

/-- A subject is resolved as its email allows, which matters only where it has one. -/
lemma heeds_subjectAttributes {emails : List String} (scope : Scope) (subject : PolicySubject)
    (hListed : subject.userEmail ≠ "" → subject.userEmail ∈ emails) :
    Pass.Heeds (MayResolve .policy scope.accountId emails) (subjectAttributes scope subject) := by
  have hLasting := lasting_mayResolve .policy scope.accountId emails
  unfold subjectAttributes
  split
  · rename_i hSet
    have hNamed : subject.userEmail ≠ "" := by simpa using hSet
    exact (Resolve.heeds_invitedUser (hListed hNamed)).bind hLasting fun _ => Pass.heeds_pure _
  split
  · exact (Resolve.heeds_serviceIdentity _).bind hLasting fun _ => Pass.heeds_pure _
  split
  · have hGroup (e : Entity) (hReads : (Call.getGroup subject.accessGroupId).reads? = some e) :
        e.kind ≠ .policy := by
      cases hReads
      exact EntityKind.noConfusion
    exact (Pass.heeds_remote fun answer => .read rfl hGroup answer).bind hLasting fun _ =>
      Pass.heeds_pure _
  split
  · refine Pass.Heeds.bind hLasting (Pass.Heeds.bind hLasting (Pass.heeds_lookUpGroup fun answer =>
      .referred (c := .accessGroup _ _) answer) ?_) fun _ =>
      Pass.heeds_pure _
    rintro (_ | group)
    · exact Pass.heeds_throw _
    · dsimp only
      split
      · exact Pass.heeds_pure _
      · exact Pass.heeds_throw _
  · exact Pass.heeds_pure _

/-- Roles are resolved as every spec allows. -/
lemma heeds_grantedRoles {emails : List String} (scope : Scope) (serviceClass : String)
    (roles : PolicyRoles) :
    Pass.Heeds (MayResolve .policy scope.accountId emails)
      (grantedRoles scope serviceClass roles) := by
  have hLasting := lasting_mayResolve .policy scope.accountId emails
  have hCustom (serviceClass : String) :
      Pass.Heeds (MayResolve .policy scope.accountId emails) (customRoles scope serviceClass) :=
    (Pass.heeds_remote fun answer => .looked rfl rfl answer).bind hLasting fun _ =>
      Pass.heeds_pure _
  refine Pass.Heeds.bind hLasting ?_ fun _ => Pass.Heeds.bind hLasting ?_ fun _ =>
    Pass.Heeds.bind hLasting (Pass.Heeds.mapM hLasting fun ref _ => ?_) fun _ => Pass.heeds_pure _
  · unfold definedRoles
    split
    · exact Pass.heeds_pure _
    split
    · exact (Pass.heeds_remote fun answer => .looked rfl rfl answer).bind hLasting fun _ =>
        Pass.heeds_liftExcept _
    · exact (Pass.heeds_remote fun answer => .looked rfl rfl answer).bind hLasting fun _ =>
        Pass.heeds_liftExcept _
  · unfold namedRoles
    split
    · exact Pass.heeds_pure _
    · exact (hCustom _).bind hLasting fun _ => Pass.heeds_liftExcept _
  · refine (Pass.heeds_lookUpRole fun answer =>
      .referred (c := .customRole _ _) answer).bind hLasting ?_
    rintro (_ | role)
    · exact Pass.heeds_throw _
    · exact (hCustom _).bind hLasting fun _ => Pass.heeds_liftExcept _

/-- The policy of a spec is resolved as the spec allows. -/
lemma heeds_policy (scope : Scope) (spec : AccessPolicySpec) :
    Pass.Heeds (MayResolve .policy scope.accountId [spec.subject.userEmail]) (policy scope spec) :=
  have hLasting := lasting_mayResolve .policy scope.accountId [spec.subject.userEmail]
  (heeds_subjectAttributes scope spec.subject fun _ => List.mem_cons_self).bind hLasting fun _ =>
    (heeds_grantedRoles scope _ spec.roles).bind hLasting fun _ => Pass.heeds_pure _

end AccessPolicies

/-- The policy of a spec is resolved as every spec allows. -/
lemma AuthorizationPolicies.heeds_policy {emails : List String} (scope : Scope)
    (spec : AuthorizationPolicySpec) :
    Pass.Heeds (MayResolve .policy scope.accountId emails) (policy scope spec) :=
  have hLasting := lasting_mayResolve .policy scope.accountId emails
  (Pass.heeds_remote fun answer => .looked rfl rfl answer).bind hLasting fun _ =>
    (Pass.heeds_liftExcept _).bind hLasting fun _ => Pass.heeds_pure _

namespace Kind

/-- The request that creates an entity is resolved as the spec allows. -/
lemma heeds_createRequest (k : Kind) (scope : Scope) (spec : k.Spec) :
    Pass.Heeds (MayResolve k.entityKind scope.accountId (k.emails spec))
      (k.strategy.createRequest scope spec) := by
  cases k with
  | accessGroup => exact Pass.heeds_pure _
  | accessPolicy => exact AccessPolicies.heeds_policy scope spec
  | authorizationPolicy => exact AuthorizationPolicies.heeds_policy scope spec
  | customRole => exact Pass.heeds_pure _

/-- The request that updates an entity is resolved as the spec allows. -/
lemma heeds_updateRequest (k : Kind) (scope : Scope) (spec : k.Spec) :
    Pass.Heeds (MayResolve k.entityKind scope.accountId (k.emails spec))
      (k.strategy.updateRequest scope spec) := by
  have hLasting := lasting_mayResolve k.entityKind scope.accountId (k.emails spec)
  cases k with
  | accessGroup =>
    exact (AccessGroups.heeds_members .existing scope.accountId nofun).bind hLasting fun _ =>
      Pass.heeds_pure _
  | accessPolicy => exact AccessPolicies.heeds_policy scope spec
  | authorizationPolicy => exact AuthorizationPolicies.heeds_policy scope spec
  | customRole => exact Pass.heeds_pure _

end Kind

/-! ## Members -/

/-- An exchange that may follow others while an entity is given what its spec lists: it resolves the
spec, or it changes the members of the entity. -/
inductive MaySettle (accountId : String) (emails : List String) (entity : Entity)
    (before : List (Exchange Pass.interface)) : Exchange Pass.interface → Prop where
  | resolved {y : Exchange Pass.interface}
      (hMay : MayResolve entity.kind accountId emails before y) :
      MaySettle accountId emails entity before y
  | regrouped {c : Call} (hRegroups : c.regroups? = some entity) (answer : c.Answer) :
      MaySettle accountId emails entity before ⟨.directory c, answer⟩

/-- What may follow some exchanges may follow more. -/
lemma lasting_maySettle (accountId : String) (emails : List String) (entity : Entity) :
    Lasting (MaySettle accountId emails entity) := by
  rintro earlier before y (hMay | ⟨hRegroups, answer⟩)
  · exact .resolved (lasting_mayResolve entity.kind accountId emails earlier before y hMay)
  · exact .regrouped hRegroups answer

namespace AccessGroups

variable {accountId : String} {emails : List String}

/-- Adding members changes the members of the group. -/
lemma heeds_addMembers (groupId : String) (members : List GroupMember) :
    Pass.Heeds (MaySettle accountId emails ⟨.group, groupId⟩) (addMembers groupId members) := by
  unfold addMembers
  split
  · exact Pass.heeds_pure _
  · exact Pass.heeds_remote fun answer => .regrouped rfl answer

/-- Removing members changes the members of the group. -/
lemma heeds_removeMembers (groupId : String) (members : List GroupMember) :
    Pass.Heeds (MaySettle accountId emails ⟨.group, groupId⟩) (removeMembers groupId members) :=
  Pass.Heeds.forM (lasting_maySettle _ _ _) fun _ _ => Pass.heeds_remote fun answer =>
    .regrouped rfl answer

/-- Populating a group resolves the spec and changes the members of the group. -/
lemma heeds_populate (accountId : String) (spec : AccessGroupSpec) (groupId : String) :
    Pass.Heeds (MaySettle accountId spec.userEmails ⟨.group, groupId⟩)
      (populate accountId spec groupId) :=
  have hMembers := heeds_members .invite accountId fun _ => List.Subset.refl spec.userEmails
  (hMembers.imp fun _ _ hMay => .resolved hMay).bind (lasting_maySettle _ _ _) fun members =>
    heeds_addMembers groupId members

end AccessGroups

/-- What is done for a new entity before it is recorded: a group is given its members. -/
def Kind.settle : (k : Kind) → Scope → k.Spec → String → Pass Unit
  | .accessGroup, scope, spec, id => AccessGroups.populate scope.accountId spec id
  | .accessPolicy, _, _, _ => pure ()
  | .authorizationPolicy, _, _, _ => pure ()
  | .customRole, _, _, _ => pure ()

/-- What is done for a new entity resolves the spec and changes the members of the entity. -/
lemma Kind.heeds_settle (k : Kind) (scope : Scope) (spec : k.Spec) (id : String) :
    Pass.Heeds (MaySettle scope.accountId (k.emails spec) (k.entity id))
      (k.settle scope spec id) := by
  cases k with
  | accessGroup => exact AccessGroups.heeds_populate scope.accountId spec id
  | accessPolicy => exact Pass.heeds_pure _
  | authorizationPolicy => exact Pass.heeds_pure _
  | customRole => exact Pass.heeds_pure _

/-! ## Creating -/

/-- The call is one of the remote service that looks something up. -/
def Pass.Call.isRead : Pass.Call → Bool
  | .directory c => c.isRead
  | _ => false

/-- A look-up has shown that no other entity has the name of the one that is created: no group of
the account, and no role of the account and the service.  Policies have no names. -/
def Unrivalled (h : List (Exchange Pass.interface)) : Call → Prop
  | .createGroup request accountId => ⟨.directory (.findGroups request.name accountId), .ok []⟩ ∈ h
  | .createRole request => ∃ roles, (∀ role ∈ roles, role.name ≠ request.name) ∧
      ⟨.directory (.listRoles request.accountId request.serviceName), .ok roles⟩ ∈ h
  | _ => True

/-- The courses of creating an entity. -/
inductive Creation (k : Kind) (scope : Scope) (spec : k.Spec) :
    List (Exchange Pass.interface) → Except Error RemoteRef → Prop where
  /-- The look-up failed, or it showed a rival. -/
  | unasked {s : List (Exchange Pass.interface)} {e : Error} (hSearch : ∀ y ∈ s, y.call.isRead) :
      Creation k scope spec s (.error e)
  | refused {s : List (Exchange Pass.interface)} {c : Call} {e : RemoteError} {error : Error}
      (hSearch : ∀ y ∈ s, y.call.isRead) (hSole : Unrivalled s c)
      (hCreates : c.creates? = some k.entityKind) :
      Creation k scope spec (s ++ [⟨.directory c, .error e⟩]) (.error error)
  | made {s settling : List (Exchange Pass.interface)} {c : Call} {v : c.Value} {ref : RemoteRef}
      (hSearch : ∀ y ∈ s, y.call.isRead) (hSole : Unrivalled s c)
      (hCreated : c.created? v = some (k.entity ref.id))
      (hSettled : Pass.Traces (k.settle scope spec ref.id) settling (.ok ())) :
      Creation k scope spec (s ++ ⟨.directory c, .ok v⟩ :: settling) (.ok ref)
  /-- The entity was made but could not be given what its spec lists. -/
  | takenBack {s settling : List (Exchange Pass.interface)} {c d : Call} {v : c.Value}
      {id : String} {e : Error} (answer : d.Answer) (hSearch : ∀ y ∈ s, y.call.isRead)
      (hSole : Unrivalled s c)
      (hCreated : c.created? v = some (k.entity id))
      (hUnsettled : Pass.Traces (k.settle scope spec id) settling (.error e))
      (hDeletes : d.deletes? = some (k.entity id)) :
      Creation k scope spec (s ++ ⟨.directory c, .ok v⟩ :: (settling ++ [⟨.directory d, answer⟩]))
        (.error e)

/-- Creating a policy takes one of the courses. -/
lemma Policies.creation_of_traces {policy : Policy} {spec : k.Spec} {x : Except Error RemoteRef}
    (hKind : k.entityKind = .policy) (hSettle : ∀ id, k.settle scope spec id = pure ())
    (hTrace : Pass.Traces (create policy) h x) : Creation k scope spec h x := by
  rcases Pass.traces_remote_bind_iff.1 hTrace with ⟨e, rfl, rfl⟩ | ⟨created, rest, hRest, rfl⟩
  · exact .refused (s := []) (List.forall_mem_nil _) trivial (by rw [hKind]; rfl)
  · obtain ⟨rfl, rfl⟩ := Pass.traces_pure_iff.1 hRest
    refine .made (s := []) (List.forall_mem_nil _) trivial
      (by rw [Kind.entity_of_policy hKind]; rfl) ?_
    rw [hSettle]
    exact Pass.traces_pure_iff.2 ⟨rfl, rfl⟩

/-- Creating a group takes one of the courses. -/
lemma AccessGroups.creation_of_traces {spec : AccessGroupSpec} {request : GroupRequest}
    {x : Except Error RemoteRef} (hTrace : Pass.Traces (create scope spec request) h x) :
    Creation .accessGroup scope spec h x := by
  have hSearch (answer : Except RemoteError (List RemoteGroup)) (y : Exchange Pass.interface)
      (hMem : y ∈ [⟨.directory (.findGroups request.name scope.accountId), answer⟩]) :
      y.call.isRead := by
    obtain rfl := List.mem_singleton.1 hMem
    rfl
  rcases Pass.traces_remote_bind_iff.1 hTrace with ⟨e, rfl, rfl⟩ | ⟨existing, rest, hRest, rfl⟩
  · exact .unasked (hSearch _)
  by_cases hNone : existing = []
  · subst hNone
    rcases Pass.traces_remote_bind_iff.1 hRest with ⟨e, rfl, rfl⟩ | ⟨group, last, hLast, rfl⟩
    · exact .refused (s := [_]) (hSearch _) List.mem_cons_self rfl
    obtain ⟨settling, result, back, hSettling, hBack, rfl⟩ := Pass.traces_attempt_bind_iff.1 hLast
    cases result with
    | ok =>
      obtain ⟨rfl, rfl⟩ := Pass.traces_pure_iff.1 hBack
      rw [List.append_nil]
      exact .made (s := [_]) (hSearch _) List.mem_cons_self rfl hSettling
    | error e =>
      obtain ⟨deletion, answer, ending, hDeletion, hThrow, rfl⟩ := Pass.traces_lift_bind_iff.1 hBack
      obtain rfl := Pass.traces_directory_iff.1 hDeletion
      obtain ⟨rfl, rfl⟩ := Pass.traces_throw_iff.1 hThrow
      exact .takenBack (s := [_]) answer (hSearch _) List.mem_cons_self rfl hSettling rfl
  · rw [if_pos (by simpa using hNone)] at hRest
    obtain ⟨rfl, rfl⟩ := Pass.traces_throw_iff.1 hRest
    exact .unasked (hSearch _)

/-- Creating a role takes one of the courses. -/
lemma CustomRoles.creation_of_traces {spec : CustomRoleSpec} {request : RoleRequest}
    {x : Except Error RemoteRef} (hTrace : Pass.Traces (create request) h x) :
    Creation .customRole scope spec h x := by
  have hSearch (answer : Except RemoteError (List RemoteRole)) (y : Exchange Pass.interface)
      (hMem : y ∈ [⟨.directory (.listRoles request.accountId request.serviceName), answer⟩]) :
      y.call.isRead := by
    obtain rfl := List.mem_singleton.1 hMem
    rfl
  rcases Pass.traces_remote_bind_iff.1 hTrace with ⟨e, rfl, rfl⟩ | ⟨existing, rest, hRest, rfl⟩
  · exact .unasked (hSearch _)
  by_cases hRival : existing.any fun role => role.name = request.name
  · rw [if_pos hRival] at hRest
    obtain ⟨rfl, rfl⟩ := Pass.traces_throw_iff.1 hRest
    exact .unasked (hSearch _)
  · rw [if_neg hRival] at hRest
    have hSole :
      Unrivalled [⟨.directory (.listRoles request.accountId request.serviceName), .ok existing⟩]
        (.createRole request) := by
      refine ⟨existing, fun role hMem hName => hRival ?_, List.mem_cons_self⟩
      exact List.any_eq_true.2 ⟨role, hMem, decide_eq_true hName⟩
    rcases Pass.traces_remote_bind_iff.1 hRest with ⟨e, rfl, rfl⟩ | ⟨role, last, hLast, rfl⟩
    · exact .refused (s := [_]) (hSearch _) hSole rfl
    · obtain ⟨rfl, rfl⟩ := Pass.traces_pure_iff.1 hLast
      exact .made (s := [_]) (hSearch _) hSole rfl (Pass.traces_pure_iff.2 ⟨rfl, rfl⟩)

/-- Creating an entity takes one of the courses. -/
theorem Kind.creation_of_traces {spec : k.Spec} {request : k.CreateRequest}
    {x : Except Error RemoteRef} (hTrace : Pass.Traces (k.strategy.create scope spec request) h x) :
    Creation k scope spec h x := by
  cases k with
  | accessGroup => exact AccessGroups.creation_of_traces hTrace
  | accessPolicy => exact Policies.creation_of_traces rfl (fun _ => rfl) hTrace
  | authorizationPolicy => exact Policies.creation_of_traces rfl (fun _ => rfl) hTrace
  | customRole => exact CustomRoles.creation_of_traces hTrace

/-! ## Reading -/

/-- The entity that a call reads. -/
def Pass.Call.reads? : Pass.Call → Option Entity
  | .directory c => c.reads?
  | _ => none

/-- The exchange read an entity and gave its token. -/
inductive ReadWith (entity : Entity) (etag : Etag) : Exchange Pass.interface → Prop where
  | read {c : Call} {v : c.Value} (hReads : c.reads? = some entity)
      (hToken : c.token? v = some etag) : ReadWith entity etag ⟨.directory c, .ok v⟩

/-- The exchange failed to read an entity, which makes an error of the pass. -/
inductive FailedToRead (entity : Entity) : Error → Exchange Pass.interface → Prop where
  | read {c : Call} (hReads : c.reads? = some entity) (operation : String) (e : RemoteError) :
      FailedToRead entity (.remote operation e) ⟨.directory c, .error e⟩

/-- A policy is read by one call. -/
lemma Policies.traces_fetch_iff {id : String} {x : Except Error (Policy × Etag)} :
    Pass.Traces (fetch id) h x ↔ ∃ answer, h = [⟨.directory (.getPolicy id), answer⟩] ∧
      x = (answer.mapError (Error.remote "get policy")).map fun found =>
      (found.1.policy, found.2) := by
  constructor
  · intro hTrace
    rcases Pass.traces_remote_bind_iff.1 hTrace with ⟨e, rfl, rfl⟩ | ⟨found, rest, hRest, rfl⟩
    · exact ⟨.error e, rfl, rfl⟩
    · obtain ⟨rfl, rfl⟩ := Pass.traces_pure_iff.1 hRest
      exact ⟨.ok found, rfl, rfl⟩
  · rintro ⟨e | found, rfl, rfl⟩
    · exact Pass.traces_remote_bind_iff.2 (.inl ⟨e, rfl, rfl⟩)
    · exact Pass.traces_remote_bind_iff.2 (.inr ⟨found, [], Pass.traces_pure_iff.2 ⟨rfl, rfl⟩, rfl⟩)

namespace Kind

/-- An entity is read by calls that name it. -/
lemma reads_of_traces {id : String} {x : Except Error (k.Remote × Etag)}
    (hTrace : Pass.Traces (k.strategy.fetch id) h x) :
    ∀ y ∈ h, y.call.reads? = some (k.entity id) := by
  cases k with
  | accessGroup =>
    rcases Pass.traces_remote_bind_iff.1 hTrace with ⟨e, rfl, rfl⟩ | ⟨found, rest, hRest, rfl⟩
    · exact List.forall_mem_singleton.2 rfl
    rcases Pass.traces_remote_bind_iff.1 hRest with ⟨e, rfl, rfl⟩ | ⟨members, last, hLast, rfl⟩
    · exact List.forall_mem_cons.2 ⟨rfl, List.forall_mem_singleton.2 rfl⟩
    · obtain ⟨rfl, rfl⟩ := Pass.traces_pure_iff.1 hLast
      exact List.forall_mem_cons.2 ⟨rfl, List.forall_mem_singleton.2 rfl⟩
  | accessPolicy =>
    obtain ⟨answer, rfl, -⟩ := Policies.traces_fetch_iff.1 hTrace
    exact List.forall_mem_singleton.2 rfl
  | authorizationPolicy =>
    obtain ⟨answer, rfl, -⟩ := Policies.traces_fetch_iff.1 hTrace
    exact List.forall_mem_singleton.2 rfl
  | customRole =>
    obtain ⟨answer, rfl, -⟩ := Pass.traces_remote_iff.1 hTrace
    exact List.forall_mem_singleton.2 rfl

/-- An entity that cannot be read is one that the last call failed to read. -/
lemma failedToRead_of_traces {id : String} {e : Error}
    (hTrace : Pass.Traces (k.strategy.fetch id) h (.error e)) :
    ∃ first y, h = first ++ [y] ∧ FailedToRead (k.entity id) e y := by
  have hPolicy (hKind : k.entityKind = .policy)
    (hTrace : Pass.Traces (Policies.fetch id) h (.error e)) :
      ∃ first y, h = first ++ [y] ∧ FailedToRead (k.entity id) e y := by
    obtain ⟨e' | found, rfl, hError⟩ := Policies.traces_fetch_iff.1 hTrace
    · cases hError
      exact ⟨[], _, rfl, .read (by rw [entity_of_policy hKind]; rfl) _ e'⟩
    · cases hError
  cases k with
  | accessGroup =>
    rcases Pass.traces_remote_bind_iff.1 hTrace with ⟨e', rfl, hError⟩ | ⟨found, rest, hRest, rfl⟩
    · cases hError
      exact ⟨[], _, rfl, .read rfl _ e'⟩
    rcases Pass.traces_remote_bind_iff.1 hRest with ⟨e', rfl, hError⟩ | ⟨members, last, hLast, rfl⟩
    · cases hError
      exact ⟨[_], _, rfl, .read rfl _ e'⟩
    · obtain ⟨-, hError⟩ := Pass.traces_pure_iff.1 hLast
      cases hError
  | accessPolicy => exact hPolicy rfl hTrace
  | authorizationPolicy => exact hPolicy rfl hTrace
  | customRole =>
    obtain ⟨e' | role, rfl, hError⟩ := Pass.traces_remote_iff.1 hTrace
    · cases hError
      exact ⟨[], _, rfl, .read rfl _ e'⟩
    · cases hError

/-- An entity that was read was read with its token, and with no other. -/
lemma readWith_of_traces {id : String} {found : k.Remote × Etag}
    (hTrace : Pass.Traces (k.strategy.fetch id) h (.ok found)) :
    (∃ y ∈ h, ReadWith (k.entity id) found.2 y) ∧
      ∀ y ∈ h, ∀ entity etag, ReadWith entity etag y → etag = found.2 := by
  have hOnly {c : Call} {v : c.Value} {etag : Etag} (hToken : c.token? v = some etag)
      (entity : Entity) (other : Etag)
      (hRead : ReadWith entity other ⟨.directory c, .ok v⟩) : other = etag := by
    cases hRead with
    | read _ hOther => exact Option.some.inj (hOther.symm.trans hToken)
  -- both kinds of policies are read by the same call
  have hPolicy (hKind : k.entityKind = .policy) {read : Policy × Etag}
      (hTrace : Pass.Traces (Policies.fetch id) h (.ok read)) :
      (∃ y ∈ h, ReadWith (k.entity id) read.2 y) ∧
        ∀ y ∈ h, ∀ entity etag, ReadWith entity etag y → etag = read.2 := by
    obtain ⟨e | policy, rfl, hFound⟩ := Policies.traces_fetch_iff.1 hTrace
    · cases hFound
    · cases hFound
      refine ⟨⟨_, List.mem_cons_self, .read (by rw [entity_of_policy hKind]; rfl) rfl⟩, ?_⟩
      exact List.forall_mem_singleton.2 (hOnly rfl)
  cases k with
  | accessGroup =>
    rcases Pass.traces_remote_bind_iff.1 hTrace with ⟨e, rfl, hFound⟩ | ⟨group, rest, hRest, rfl⟩
    · cases hFound
    rcases Pass.traces_remote_bind_iff.1 hRest with ⟨e, rfl, hFound⟩ | ⟨members, last, hLast, rfl⟩
    · cases hFound
    obtain ⟨rfl, hFound⟩ := Pass.traces_pure_iff.1 hLast
    cases hFound
    refine ⟨⟨_, List.mem_cons_self, .read rfl rfl⟩, List.forall_mem_cons.2 ⟨hOnly rfl, ?_⟩⟩
    -- the members of a group are listed without a token
    refine List.forall_mem_singleton.2 fun entity etag hRead => ?_
    cases hRead with
    | read _ hToken => cases hToken
  | accessPolicy => exact hPolicy rfl hTrace
  | authorizationPolicy => exact hPolicy rfl hTrace
  | customRole =>
    obtain ⟨e | role, rfl, hFound⟩ := Pass.traces_remote_iff.1 hTrace
    · cases hFound
    · cases hFound
      exact ⟨⟨_, List.mem_cons_self, .read rfl rfl⟩, List.forall_mem_singleton.2 (hOnly rfl)⟩

end Kind

/-! ## Updating -/

/-- The courses of updating an entity that was read with a token. -/
inductive Updating (k : Kind) (scope : Scope) (spec : k.Spec) (id : String) (etag : Etag) :
    List (Exchange Pass.interface) → Except Error RemoteRef → Prop where
  | refused {c : Call} {e : RemoteError} {error : Error}
      (hUpdates : c.updates? = some (k.entity id)) (hPresents : c.presents? = some etag) :
      Updating k scope spec id etag [⟨.directory c, .error e⟩] (.error error)
  /-- The entity was updated, and a group is given the members that its spec lists. -/
  | accepted {c : Call} {v : c.Value} {rest : List (Exchange Pass.interface)}
      {x : Except Error RemoteRef} (hUpdates : c.updates? = some (k.entity id))
      (hPresents : c.presents? = some etag)
      (hRest : InTurn (MaySettle scope.accountId (k.emails spec) (k.entity id)) rest) :
      Updating k scope spec id etag (⟨.directory c, .ok v⟩ :: rest) x

/-- Updating an entity takes one of the courses. -/
lemma Kind.updating_of_traces {spec : k.Spec} {id : String} {desired : k.UpdateRequest}
    {remote : k.Remote}
    {etag : Etag} {x : Except Error RemoteRef}
    (hTrace : Pass.Traces (k.strategy.update scope spec id desired remote etag) h x) :
    Updating k scope spec id etag h x := by
  have hPolicy (policy : Policy) (hKind : k.entityKind = .policy)
      (hTrace : Pass.Traces (Policies.update id policy etag) h x) :
      Updating k scope spec id etag h x := by
    have hUpdates : (Call.updatePolicy id policy etag).updates? = some (k.entity id) := by
      rw [entity_of_policy hKind]
      rfl
    rcases Pass.traces_remote_bind_iff.1 hTrace with ⟨e, rfl, rfl⟩ | ⟨updated, rest, hRest, rfl⟩
    · exact .refused hUpdates rfl
    · obtain ⟨rfl, rfl⟩ := Pass.traces_pure_iff.1 hRest
      exact .accepted hUpdates rfl inTurn_nil
  cases k with
  | accessGroup =>
    rcases Pass.traces_remote_bind_iff.1 hTrace with ⟨e, rfl, rfl⟩ | ⟨group, rest, hRest, rfl⟩
    · exact .refused rfl rfl
    have hLasting := lasting_maySettle scope.accountId spec.userEmails ⟨.group, id⟩
    -- the group itself is updated first, and its members are exchanged when that was accepted
    refine .accepted rfl rfl (Pass.Heeds.bind hLasting ?_ (fun wanted => ?_) rest x hRest)
    · have hMembers := AccessGroups.heeds_members .invite scope.accountId fun _ =>
        List.Subset.refl spec.userEmails
      exact hMembers.imp fun _ _ hMay => .resolved hMay
    refine Pass.Heeds.bind hLasting (AccessGroups.heeds_removeMembers id _) fun _ => ?_
    exact Pass.Heeds.bind hLasting (AccessGroups.heeds_addMembers id _) fun _ => Pass.heeds_pure _
  | accessPolicy => exact hPolicy desired rfl hTrace
  | authorizationPolicy => exact hPolicy desired rfl hTrace
  | customRole =>
    rcases Pass.traces_remote_bind_iff.1 hTrace with ⟨e, rfl, rfl⟩ | ⟨role, rest, hRest, rfl⟩
    · exact .refused rfl rfl
    · obtain ⟨rfl, rfl⟩ := Pass.traces_pure_iff.1 hRest
      exact .accepted rfl rfl inTurn_nil

/-- An entity was updated, and from then on it goes by an identifier: by its own, or by the one that
it was returned with. -/
inductive GoesBy (entity : Entity) (new : String) : Exchange Pass.interface → Prop where
  | own {c : Call} {v : c.Value} (hUpdates : c.updates? = some entity) (hOwn : new = entity.id) :
      GoesBy entity new ⟨.directory c, .ok v⟩
  | returned {c : Call} {v : c.Value} (hUpdates : c.updates? = some entity)
      (hNew : c.updatedId? v = some new) : GoesBy entity new ⟨.directory c, .ok v⟩

/-- The reference that an update returns is what the entity goes by. -/
theorem Kind.goesBy_of_traces {spec : k.Spec} {id : String} {desired : k.UpdateRequest}
    {remote : k.Remote} {etag : Etag} {ref : RemoteRef}
    (hTrace : Pass.Traces (k.strategy.update scope spec id desired remote etag) h (.ok ref)) :
    ∃ y ∈ h, GoesBy (k.entity id) ref.id y := by
  have hPolicy (policy : Policy) (hKind : k.entityKind = .policy)
      (hTrace : Pass.Traces (Policies.update id policy etag) h (.ok ref)) :
      ∃ y ∈ h, GoesBy (k.entity id) ref.id y := by
    rcases Pass.traces_remote_bind_iff.1 hTrace with ⟨e, -, hError⟩ | ⟨updated, rest, hRest, rfl⟩
    · cases hError
    · obtain ⟨-, hRef⟩ := Pass.traces_pure_iff.1 hRest
      cases hRef
      exact ⟨_, List.mem_cons_self, .returned (by rw [entity_of_policy hKind]; rfl) rfl⟩
  cases k with
  | accessGroup =>
    rcases Pass.traces_remote_bind_iff.1 hTrace with ⟨e, -, hError⟩ | ⟨group, rest, hRest, rfl⟩
    · cases hError
    rcases Pass.traces_bind_iff.1 hRest with ⟨e, -, hError⟩ | ⟨_, wanted, rest, -, hRest, -⟩
    · cases hError
    rcases Pass.traces_bind_iff.1 hRest with ⟨e, -, hError⟩ | ⟨_, _, rest, -, hRest, -⟩
    · cases hError
    rcases Pass.traces_bind_iff.1 hRest with ⟨e, -, hError⟩ | ⟨_, _, rest, -, hRest, -⟩
    · cases hError
    obtain ⟨-, hRef⟩ := Pass.traces_pure_iff.1 hRest
    cases hRef
    exact ⟨_, List.mem_cons_self, .own rfl rfl⟩
  | accessPolicy => exact hPolicy desired rfl hTrace
  | authorizationPolicy => exact hPolicy desired rfl hTrace
  | customRole =>
    rcases Pass.traces_remote_bind_iff.1 hTrace with ⟨e, -, hError⟩ | ⟨role, rest, hRest, rfl⟩
    · cases hError
    · obtain ⟨-, hRef⟩ := Pass.traces_pure_iff.1 hRest
      cases hRef
      exact ⟨_, List.mem_cons_self, .returned rfl rfl⟩

/-! ## Deleting -/

/-- An entity is deleted by one call that names it. -/
lemma Kind.deletes_of_traces {id : String} {result : Except RemoteError Unit}
    (hTrace : (k.strategy.delete id).Traces h result) :
    ∃ (c : Call) (answer : c.Answer), h = [⟨.directory c, answer⟩] ∧
      c.deletes? = some (k.entity id) ∧ Directory.failure? answer = Directory.failure? result := by
  cases k with
  | accessGroup => exact ⟨.deleteGroup id, result, Pass.traces_directory_iff.1 hTrace, rfl, rfl⟩
  | accessPolicy => exact ⟨.deletePolicy id, result, Pass.traces_directory_iff.1 hTrace, rfl, rfl⟩
  | authorizationPolicy =>
      exact ⟨.deletePolicy id, result, Pass.traces_directory_iff.1 hTrace, rfl, rfl⟩
  | customRole => exact ⟨.deleteRole id, result, Pass.traces_directory_iff.1 hTrace, rfl, rfl⟩

/-- The call that names an entity deletes it, and fails as it is answered. -/
lemma Kind.traces_delete (k : Kind) {id : String} {c : Call} {e : RemoteError}
    (hDeletes : c.deletes? = some (k.entity id)) :
    (k.strategy.delete id).Traces [⟨.directory c, .error e⟩] (.error e) := by
  cases k <;> cases c <;> cases hDeletes <;> exact Pass.traces_directory_iff.2 rfl

end IamReconciler
