import IamReconciler.Proofs.Strategy.Recall

/-!
# What each strategy resolves again

The members of a group and the policies of both kinds are resolved again as they were resolved
before.  The members are resolved in two ways: with invitations when a group is created or updated,
and without when it is compared.  Whoever was invited is found without an invitation afterwards, and
a user who was there is never invited.
-/

namespace IamReconciler

open Directory (Call)

variable {nb : Neighbours} {k : Kind} {key : Key} {R : Contents → Contents → Prop}

/-! ## Identities -/

namespace Resolve

/-- An invitation leaves everything but a missing user as it is. -/
lemma later_of_invited {d d' : Contents} {accountId email : String}
    (hMissing : d.user accountId email = none) (hOnly : d' = { d with user := d'.user })
    (hOthers : ∀ account other, (account, other) ≠ (accountId, email) →
      d'.user account other = d.user account other) :
    d.Later k d' where
  user account other u hu := by
    rw [hOthers account other fun hSame => ?_]
    · exact hu
    · cases hSame
      rw [hMissing] at hu
      cases hu
  registry := by rw [hOnly]
  group _ := by rw [hOnly]
  listed _ := by rw [hOnly]

/-- A user who is found or invited is in the account afterwards, if there is one. -/
lemma ensures_findOrInvite (accountId email : String) (s : Site k Contents) :
    Pass.Ensures (nb.loosely k key) (findOrInvite accountId email) s
      (fun found t => ∃ d, t = { s with remote := d } ∧
        (∃ user, d = { s.remote with user := user }) ∧ s.remote.Later k d ∧
        found = d.user accountId email) fun _ _ => True := by
  refine Neighbours.ensures_read_bind rfl fun found hFound => ?_
  cases found with
  | some user =>
      exact Pass.ensures_pure_iff.2 ⟨s.remote, rfl, ⟨_, rfl⟩, (Contents.lasts_later k).refl _,
        hFound⟩
  | none =>
    refine Neighbours.ensures_changing_bind rfl fun _ d hBecomes => ?_
    refine Neighbours.ensures_read rfl (fun again hAgain => ?_) fun _ _ => trivial
    obtain ⟨hOnly, hOthers⟩ := hBecomes
    exact ⟨d, rfl, ⟨_, hOnly⟩, later_of_invited hFound.symm hOnly hOthers, hAgain⟩

/-- A user who is resolved with invitations is in the account afterwards and can be used. -/
lemma ensures_invitedUser (accountId email : String) (s : Site k Contents) :
    Pass.Ensures (nb.loosely k key) (invitedUser accountId email) s
      (fun iamId t => ∃ d, t = { s with remote := d } ∧
        (∃ user, d = { s.remote with user := user }) ∧ s.remote.Later k d ∧
        ∃ u, d.user accountId email = some u ∧ u.isUsable ∧ u.iamId = iamId) fun _ _ => True := by
  refine (ensures_findOrInvite accountId email s).bind ?_
  rintro found t ⟨d, rfl, hOnly, hLater, hFound⟩
  cases found with
  | none => exact Pass.ensures_throw_iff.2 trivial
  | some u =>
    refine Pass.ensures_ite_iff.2 ⟨fun hUsable => ?_, fun _ => ?_⟩
    · exact Pass.ensures_pure_iff.2 ⟨d, rfl, hOnly, hLater, u, hFound.symm, hUsable, rfl⟩
    · refine Pass.ensures_bind_iff.2
        (Pass.ensures_lift_iff.2 (Pass.ensures_directory_iff.2 fun _ _ _ => ?_))
      exact Pass.ensures_throw_iff.2 trivial

/-- The user of an email is found. -/
lemma finds_findUser (accountId email : String) (d : Contents) :
    Finds nb k key (findUser accountId email) d (d.user accountId email) :=
  finds_read rfl rfl fun _ h => h

/-- A user who is in the account and can be used is found where invitations are allowed. -/
lemma finds_invitedUser {accountId email : String} {d : Contents} {u : AccountUser}
    (hThere : d.user accountId email = some u) (hUsable : u.isUsable) :
    Finds nb k key (invitedUser accountId email) d u.iamId := by
  have hFound : Finds nb k key (findOrInvite accountId email) d (some u) := by
    refine (finds_findUser accountId email d).bind ?_
    rw [hThere]
    exact finds_pure d (some u)
  refine hFound.bind ?_
  dsimp only
  rw [if_pos hUsable]
  exact finds_pure d u.iamId

/-- A user is found where invitations are not allowed, if the user can be used. -/
lemma finds_existingUser (accountId email : String) (d : Contents) :
    Finds nb k key (existingUser accountId email) d
      (((d.user accountId email).filter (·.isUsable)).map (·.iamId)) :=
  (finds_findUser accountId email d).bind (finds_pure d _)

/-- A user who was resolved with invitations is resolved again with them. -/
lemma recalls_invitedUser (accountId email : String) :
    Recalls nb k key (Contents.Later k) (invitedUser accountId email)
      (invitedUser accountId email) := by
  refine fun s => (ensures_invitedUser accountId email s).imp ?_
  rintro _ t ⟨d, rfl, hOnly, hLater, u, hThere, hUsable, rfl⟩
  exact ⟨d, rfl, hOnly, hLater, fun d' hd' => finds_invitedUser (hd'.user _ _ _ hThere) hUsable⟩

/-- A user who was resolved with invitations is resolved again without them. -/
lemma recalls_user (accountId email : String) :
    Recalls nb k key (Contents.Later k) (user .invite accountId email)
      (user .existing accountId email) := by
  refine fun s => Pass.ensures_map_iff.2 ((ensures_invitedUser accountId email s).imp ?_)
  rintro _ t ⟨d, rfl, hOnly, hLater, u, hThere, hUsable, rfl⟩
  refine ⟨d, rfl, hOnly, hLater, fun d' hd' => ?_⟩
  have hFound : Finds nb k key (existingUser accountId email) d' _ :=
    finds_existingUser accountId email d'
  rw [hd'.user _ _ _ hThere, Option.filter_some, if_pos hUsable] at hFound
  exact hFound

/-- A user who was resolved without invitations is resolved again as long as nothing changes. -/
lemma recalls_existingUser (accountId email : String) :
    Recalls nb k key Eq (existingUser accountId email) (existingUser accountId email) := by
  have hRead : Recalls nb k key Eq (findUser accountId email) (findUser accountId email) :=
    recalls_same Contents.lasts_eq (fun d => d.user accountId email) rfl (fun _ _ =>
      Iff.rfl) fun hd => by rw [hd]
  exact hRead.bind Contents.lasts_eq fun _ => recalls_pure Contents.lasts_eq _

/-- A service identity is resolved again. -/
lemma recalls_serviceIdentity (hR : Contents.Lasts R)
    (hRegistry : ∀ {d d'}, R d d' →
      d'.registry = d.registry) (id : String) : Recalls nb k key R (serviceIdentity id)
        (serviceIdentity id) := by
  refine (recalls_read rfl hR ?_).bind hR fun _ => recalls_pure hR _
  intro d d' v hd hv
  have hSame : d'.registry.service id = some v := by rw [hRegistry hd]; exact hv
  exact ⟨hSame, fun w hw => Option.some.inj (Eq.trans (Eq.symm hw) hSame)⟩

end Resolve

/-! ## Members -/

namespace AccessGroups

/-- The member that a service identity stands for is resolved again; the second time a missing one
is passed over. -/
lemma recalls_serviceMember (hR : Contents.Lasts R)
    (hRegistry : ∀ {d d'}, R d d' → d'.registry = d.registry) (lookup : UserLookup) (id : String) :
    Recalls nb k key R (serviceMember lookup id) (serviceMember .existing id) := by
  intro s
  refine Pass.ensures_bind_iff.2 (Pass.ensures_attempt_iff.2 (Pass.ensures_bind_iff.2 ?_))
  refine Neighbours.ensures_read rfl ?_ ?_
  · intro identity hIdentity
    refine Pass.ensures_pure_iff.2
      (Pass.ensures_pure_iff.2 ⟨s.remote, rfl, ⟨_, rfl⟩, hR.refl _, ?_⟩)
    rintro d' hd' t rfl
    have hSame : t.remote.registry.service id = some identity := by
      rw [hRegistry hd']; exact hIdentity
    refine Pass.looks_bind_iff.2 (Pass.looks_attempt_iff.2 (Pass.looks_bind_iff.2
      (Neighbours.looks_read rfl ⟨identity, hSame⟩ fun other hOther => ?_)))
    cases Option.some.inj ((Eq.symm hOther).trans hSame)
    rfl
  · -- a service identity that is not there is passed by, now and whenever it is looked for again
    intro e hAbsent
    refine Pass.ensures_ite_iff.2 ⟨fun hPassed => ?_, fun _ => Pass.ensures_throw_iff.2 trivial⟩
    refine Pass.ensures_pure_iff.2 ⟨s.remote, rfl, ⟨_, rfl⟩, hR.refl _, ?_⟩
    rintro d' hd' t rfl
    have hNone (v : ServiceIdentity) : ¬t.remote.registry.service id = some v := by
      rw [hRegistry hd']
      exact hAbsent hPassed.2 v
    refine Pass.looks_bind_iff.2 (Pass.looks_attempt_iff.2 (Pass.looks_bind_iff.2
      (Neighbours.looks_absent rfl hNone fun other hOther => ?_)))
    dsimp only
    rw [if_pos ⟨rfl, hOther⟩]
    rfl

/-- The members that a spec lists are resolved again without invitations when each user is. -/
lemma recalls_members (hR : Contents.Lasts R)
    (hRegistry : ∀ {d d'}, R d d' → d'.registry = d.registry)
    {lookup : UserLookup} {accountId : String} (spec : AccessGroupSpec)
    (hUser : ∀ email, Recalls nb k key R (Resolve.user lookup accountId email)
      (Resolve.user .existing accountId email)) :
    Recalls nb k key R (members lookup accountId spec) (members .existing accountId spec) := by
  have hMember (email : String) : Recalls nb k key R (userMember lookup accountId email)
      (userMember .existing accountId email) :=
    (hUser email).bind hR fun _ => recalls_pure hR _
  refine (Recalls.mapM hR hMember spec.userEmails).bind hR fun _ => ?_
  refine (Recalls.mapM hR (recalls_serviceMember hR hRegistry lookup) spec.serviceIds).bind hR
    fun _ => ?_
  exact recalls_pure hR _

/-- Members who were resolved with invitations are resolved again without them. -/
lemma recalls_invitedMembers {accountId : String} (spec : AccessGroupSpec) :
    Recalls nb k key (Contents.Later k) (members .invite accountId spec)
      (members .existing accountId spec) :=
  recalls_members (Contents.lasts_later k) Contents.Later.registry spec
    (Resolve.recalls_user accountId)

/-- Members who were resolved without invitations are resolved again as long as nothing changes. -/
lemma recalls_existingMembers {accountId : String} (spec : AccessGroupSpec) :
    Recalls nb k key Eq (members .existing accountId spec) (members .existing accountId spec) :=
  recalls_members Contents.lasts_eq
    (fun hd => by rw [hd]) spec (Resolve.recalls_existingUser accountId)

end AccessGroups

/-! ## Access policies -/

namespace AccessPolicies

variable {scope : Scope}

/-- The identifier of a declared group is resolved again. -/
lemma recalls_declaredGroup (hR : Contents.Lasts R) (ref : AccessGroupRef) :
    Recalls nb k key R (declaredGroup scope ref) (declaredGroup scope ref) := by
  refine (recalls_lookUpGroup hR _ _).bind hR ?_
  rintro (_ | group)
  · exact recalls_throw _ _
  · exact recalls_ite (fun _ => recalls_pure hR _) fun _ => recalls_throw _ _

/-- A group that is named by its identifier is read again. -/
lemma recalls_getGroup {operation : String} (f : RemoteGroup → Attributes) (id : String) :
    Recalls nb .accessPolicy key (Contents.Later .accessPolicy)
      (Pass.remote operation (.getGroup id) >>= fun found => pure (f found.1))
      (Pass.remote operation (.getGroup id) >>= fun found => pure (f found.1)) := by
  intro s
  refine Neighbours.ensures_read_bind rfl fun found hFound => ?_
  refine Pass.ensures_pure_iff.2 ⟨s.remote, rfl, ⟨_, rfl⟩, (Contents.lasts_later _).refl _, ?_⟩
  rintro d' hd' t rfl
  have hSame : t.remote.group id = some found.1 := by rw [hd'.group rfl]; exact hFound
  refine Pass.looks_bind_iff.2 (Neighbours.looks_read rfl ⟨found, hSame⟩ fun other hOther => ?_)
  exact congrArg f (Option.some.inj ((Eq.symm hOther).trans hSame))

/-- The attributes of a subject are resolved again. -/
lemma recalls_subjectAttributes (subject : PolicySubject) :
    Recalls nb .accessPolicy key (Contents.Later .accessPolicy) (subjectAttributes scope subject)
      (subjectAttributes scope subject) := by
  have hR := Contents.lasts_later .accessPolicy
  refine recalls_ite (fun _ => ?_) fun _ => recalls_ite (fun _ => ?_) fun _ =>
    recalls_ite (fun _ => ?_) fun _ => ?_
  · exact (Resolve.recalls_invitedUser _ _).bind hR fun _ => recalls_pure hR _
  · exact (Resolve.recalls_serviceIdentity hR Contents.Later.registry _).bind hR fun _ =>
      recalls_pure hR _
  · exact recalls_getGroup (fun group => Attributes.empty.set Attributes.accessGroupId group.id) _
  · split
    · exact (recalls_declaredGroup hR _).bind hR fun _ => recalls_pure hR _
    · exact recalls_pure hR _

/-- The custom roles that are listed are read again. -/
lemma recalls_customRoles (serviceClass : String) :
    Recalls nb .accessPolicy key (Contents.Later .accessPolicy) (customRoles scope serviceClass)
      (customRoles scope serviceClass) := by
  have hR := Contents.lasts_later .accessPolicy
  have hSame {d d' : Contents} (hd : d.Later .accessPolicy d') :
      d'.listed scope.accountId serviceClass = d.listed scope.accountId serviceClass := by
    rw [hd.listed rfl]
  exact (recalls_same hR (fun d => d.listed scope.accountId serviceClass) rfl (fun _ _ =>
    Iff.rfl) hSame).bind hR fun _ => recalls_pure hR _

/-- The roles that a policy grants are resolved again. -/
lemma recalls_grantedRoles (serviceClass : String) (roles : PolicyRoles) :
    Recalls nb .accessPolicy key (Contents.Later .accessPolicy)
      (grantedRoles scope serviceClass roles) (grantedRoles scope serviceClass roles) := by
  have hR := Contents.lasts_later .accessPolicy
  have hDefined : Recalls nb .accessPolicy key (Contents.Later .accessPolicy)
      (definedRoles serviceClass roles.definedRoles)
      (definedRoles serviceClass roles.definedRoles) := by
    refine recalls_ite (fun _ => recalls_pure hR _) fun _ => ?_
    refine recalls_ite (fun _ => ?_) fun _ => ?_
    · refine (recalls_same hR (fun d => d.registry.systemRoles) rfl (fun _ _ => Iff.rfl) fun hd =>
        ?_).bind hR fun _ => recalls_liftExcept hR _
      rw [hd.registry]
    · refine (recalls_same hR (fun d => d.registry.serviceRoles serviceClass) rfl
        (fun _ _ => Iff.rfl) fun hd => ?_).bind hR fun _ => recalls_liftExcept hR _
      rw [hd.registry]
  have hDeclared (ref : CustomRoleRef) : Recalls nb .accessPolicy key (Contents.Later .accessPolicy)
      (declaredRole scope ref) (declaredRole scope ref) := by
    refine (recalls_lookUpRole hR _ _).bind hR ?_
    rintro (_ | role)
    · exact recalls_throw _ _
    · exact (recalls_customRoles _).bind hR fun _ => recalls_liftExcept hR _
  have hNamed : Recalls nb .accessPolicy key (Contents.Later .accessPolicy)
      (namedRoles scope roles.customRoleNames) (namedRoles scope roles.customRoleNames) :=
    recalls_ite (fun _ => recalls_pure hR _) fun _ =>
      (recalls_customRoles _).bind hR fun _ => recalls_liftExcept hR _
  exact hDefined.bind hR fun _ => hNamed.bind hR fun _ =>
    (Recalls.mapM hR hDeclared _).bind hR fun _ => recalls_pure hR _

/-- The policy of a spec is resolved again. -/
lemma recalls_policy (spec : AccessPolicySpec) :
    Recalls nb .accessPolicy key (Contents.Later .accessPolicy) (policy scope spec)
      (policy scope spec) := by
  have hR := Contents.lasts_later .accessPolicy
  exact (recalls_subjectAttributes _).bind hR fun _ => (recalls_grantedRoles _ _).bind hR fun _ =>
    recalls_pure hR _

end AccessPolicies

/-! ## Authorization policies -/

namespace AuthorizationPolicies

/-- The policy of a spec is resolved again. -/
lemma recalls_policy {scope : Scope} (spec : AuthorizationPolicySpec) :
    Recalls nb k key (Contents.Later k) (policy scope spec) (policy scope spec) := by
  have hR := Contents.lasts_later k
  refine (recalls_same hR (fun d =>
    d.registry.authorizationRoles spec.source.serviceClass spec.target.serviceClass) rfl (fun _ _ =>
      Iff.rfl) fun hd => ?_).bind hR fun _ => (recalls_liftExcept hR _).bind hR fun _ =>
        recalls_pure hR _
  rw [hd.registry]

end AuthorizationPolicies

end IamReconciler
