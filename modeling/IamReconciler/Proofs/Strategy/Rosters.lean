import IamReconciler.Proofs.Looking
import IamReconciler.Proofs.Passes
import IamReconciler.Reconcile.AccessGroups

/-!
# Members of a roster

The members that a spec of a group lists are resolved in two ways: read-only, to compare the group
with the spec, and with invitations, to create or update it.  What either finds is told by the
roster of users and service identities that the remote service keeps (`Roster.members`).

Read-only resolution leaves the roster as it is and finds its members, unless a look-up fails for
another reason than that a service identity is missing.  Resolution with invitations may add users
to the roster on its way; when it succeeds, it has found the members of the roster that it leaves,
one for each email and each service identity that are listed.  Hence the two agree
(`members_agree`).
-/

namespace IamReconciler

open Directory (Call)

/-! ## Rosters -/

/-- The users of each account, by email, and the service identities that a remote service knows. -/
structure Roster where
  user : String → String → Option AccountUser
  service : String → Option ServiceIdentity

namespace Roster

/-- What was on a roster is on it later on. -/
structure Keeps (before after : Roster) : Prop where
  user : ∀ accountId email u, before.user accountId email = some u →
    after.user accountId email = some u
  service : after.service = before.service

/-- How calls about users and service identities are answered, and what the roster may be after
that.  Look-ups show the roster; they fail for other reasons than a missing service identity only
where that is allowed.  An invitation may add users, whether or not it succeeds, and a removal may
do anything. -/
inductive Answers (mayFail : Prop) : (c : Call) → c.Answer → Roster → Roster → Prop where
  | found (accountId email : String) (d : Roster) :
      Answers mayFail (.findUser accountId email) (.ok (d.user accountId email)) d d
  | unread (hMay : mayFail) (accountId email : String) (e : RemoteError) (d : Roster) :
      Answers mayFail (.findUser accountId email) (.error e) d d
  | served {id : String} {identity : ServiceIdentity} {d : Roster}
      (hKnown : d.service id = some identity) : Answers mayFail (.getServiceIdentity id)
        (.ok identity) d d
  | missing {id : String} {e : RemoteError} {d : Roster} (hUnknown : d.service id = none)
      (hNotFound : e.isNotFound) : Answers mayFail (.getServiceIdentity id) (.error e) d d
  | unserved (hMay : mayFail) (id : String) {e : RemoteError}
      (hOther : ¬e.isNotFound) (d : Roster) :
      Answers mayFail (.getServiceIdentity id) (.error e) d d
  | invited (accountId email : String) (answer : Except RemoteError Unit) {d d' : Roster}
      (hKeeps : d.Keeps d') : Answers mayFail (.inviteUser accountId email) answer d d'
  | removed (accountId userId : String) (answer : Except RemoteError Unit) (d d' : Roster) :
      Answers mayFail (.removeUser accountId userId) answer d d'

/-- The surroundings in which a pass asks a remote service that keeps a roster. -/
def surroundings (mayFail : Prop) : Surroundings Pass.interface Roster
  | .directory c, answer, d, d' => Answers mayFail c answer d d'
  | _, _, _, _ => False

/-- The exchange is a look-up that failed for another reason than that a service identity is
missing. -/
def isUnread : Exchange Pass.interface → Bool
  | ⟨.directory (.findUser ..), .error _⟩ => true
  | ⟨.directory (.getServiceIdentity _), .error e⟩ => !e.isNotFound
  | _ => false

variable (d : Roster) (accountId : String)

/-- The member that an email stands for: a user of the account who can be used. -/
def userMember? (email : String) : Option GroupMember :=
  ((d.user accountId email).filter (·.isUsable)).map fun user => ⟨user.iamId, .user⟩

/-- The member that a service identity stands for. -/
def serviceMember? (id : String) : Option GroupMember :=
  (d.service id).map fun identity => ⟨identity.iamId, .service⟩

/-- The members that a spec lists, one for each listing that stands for a member. -/
def members (spec : AccessGroupSpec) : List GroupMember :=
  spec.userEmails.filterMap (d.userMember? accountId) ++ spec.serviceIds.filterMap d.serviceMember?

end Roster

/-! ## Resolving one after another -/

namespace Pass

variable {α β σ : Type} {S : Surroundings Pass.interface σ} {E : Error → Prop}

/-- A part that looks for one thing after another finds what each look-up finds. -/
lemma looks_mapM {f : β → Pass α} {g : β → α} {s : σ} (hf : ∀ b, Looks S s (f b) (· = g b) E)
    (items : List β) : Looks S s (items.mapM f) (· = items.map g) E := by
  induction items with
  | nil => exact looks_pure_iff.2 rfl
  | cons item rest ih =>
    rw [List.mapM_cons]
    refine (hf item).bind ?_
    rintro _ rfl
    refine ih.bind ?_
    rintro _ rfl
    exact looks_pure_iff.2 rfl

/-- A part that resolves one thing after another has resolved each as the last state says, when a
thing that is resolved stays so. -/
lemma ensures_mapM {R : σ → σ → Prop} (hRefl : ∀ s, R s s)
    (hTrans : ∀ {s t u}, R s t → R t u → R s u)
    {f : β → Pass α} {g : σ → β → α} {P : α → Prop}
    (hStays : ∀ {s t b}, R s t → P (g s b) → g t b = g s b)
    (hf : ∀ b s, Ensures S (f b) s (fun a t => R s t ∧ a = g t b ∧ P a) fun _ _ => True)
    (items : List β) (s : σ) :
    Ensures S (items.mapM f) s (fun found t => R s t ∧
      found = items.map (g t) ∧ ∀ a ∈ found, P a) fun _ _ => True := by
  induction items generalizing s with
  | nil => exact ensures_pure_iff.2 ⟨hRefl s, rfl, List.forall_mem_nil P⟩
  | cons item rest ih =>
    rw [List.mapM_cons]
    refine (hf item s).bind ?_
    rintro _ t ⟨hFirst, rfl, hItem⟩
    refine (ih t).bind ?_
    rintro _ u ⟨hRest, rfl, hAll⟩
    refine ensures_pure_iff.2 ⟨hTrans hFirst hRest, ?_, List.forall_mem_cons.2 ⟨hItem, hAll⟩⟩
    rw [List.map_cons, hStays hRest hItem]

end Pass

namespace Roster

variable {mayFail : Prop} {d d' d'' : Roster} {accountId email id : String}

/-- A roster keeps what is on it. -/
lemma Keeps.refl (d : Roster) : d.Keeps d :=
  ⟨fun _ _ _ h => h, rfl⟩

/-- What stays on rosters stays on from the first to the last. -/
lemma Keeps.trans (h : d.Keeps d') (h' : d'.Keeps d'') : d.Keeps d'' :=
  ⟨fun accountId email u hu => h'.user accountId email u (h.user accountId email u hu),
    h'.service.trans h.service⟩

/-- A member whom an email stands for stays the one. -/
lemma Keeps.userMember? (h : d.Keeps d') (hSome : (d.userMember? accountId email).isSome) :
    d'.userMember? accountId email = d.userMember? accountId email := by
  cases hUser : d.user accountId email with
  | none =>
    rw [Roster.userMember?, hUser] at hSome
    cases hSome
  | some u => rw [Roster.userMember?, Roster.userMember?, h.user _ _ _ hUser, hUser]

/-- A service identity stands for the same member later on. -/
lemma Keeps.serviceMember? (h : d.Keeps d') : d'.serviceMember? id = d.serviceMember? id := by
  rw [Roster.serviceMember?, Roster.serviceMember?, h.service]

/-! ## Read-only resolution -/

/-- The member that an email stands for is found. -/
lemma looks_userMember (d : Roster) (accountId email : String) :
    Pass.Looks (surroundings mayFail) d (AccessGroups.userMember .existing accountId email)
      (· = d.userMember? accountId email) fun _ => mayFail := by
  refine Pass.looks_bind_iff.2
    (Pass.looks_bind_iff.2 (Pass.looks_remote rfl ⟨_, .found accountId email d⟩ ?_ ?_))
  · intro user t hAnswer
    cases hAnswer with
    | found => exact ⟨rfl, Option.map_map _ _ _⟩
  · intro e t hAnswer
    cases hAnswer with
    | unread hMay => exact ⟨rfl, hMay⟩

/-- A look-up of a service identity is answered. -/
lemma exists_answers_getServiceIdentity (d : Roster) (id : String) :
    ∃ answer, Answers mayFail (.getServiceIdentity id) answer d d := by
  cases hService : d.service id with
  | none => exact ⟨.error (.notFound "service ID" id), .missing hService rfl⟩
  | some identity => exact ⟨.ok identity, .served hService⟩

/-- The member that a service identity stands for is found. -/
lemma looks_serviceMember (d : Roster) (id : String) :
    Pass.Looks (surroundings mayFail) d (AccessGroups.serviceMember .existing id)
      (· = d.serviceMember? id) fun _ => mayFail := by
  refine Pass.looks_bind_iff.2 (Pass.looks_attempt_iff.2 (Pass.looks_bind_iff.2
    (Pass.looks_remote rfl (exists_answers_getServiceIdentity d id) ?_ ?_)))
  · intro identity t hAnswer
    cases hAnswer with
    | served hKnown =>
      refine ⟨rfl, Pass.looks_pure_iff.2 (Pass.looks_pure_iff.2 ?_)⟩
      rw [serviceMember?, hKnown]
      rfl
  · intro e t hAnswer
    cases hAnswer with
    | missing hUnknown hNotFound =>
      refine ⟨rfl, ?_⟩
      dsimp only
      rw [if_pos ⟨rfl, hNotFound⟩, serviceMember?, hUnknown]
      rfl
    | unserved hMay _ hOther =>
      refine ⟨rfl, ?_⟩
      dsimp only
      rw [if_neg fun hMissing => hOther hMissing.2]
      exact hMay

/-- The members that a spec lists are found. -/
lemma looks_members (d : Roster) (accountId : String) (spec : AccessGroupSpec) :
    Pass.Looks (surroundings mayFail) d (AccessGroups.members .existing accountId spec)
      (· = d.members accountId spec) fun _ => mayFail := by
  refine (Pass.looks_mapM (looks_userMember d accountId) spec.userEmails).bind ?_
  rintro _ rfl
  refine (Pass.looks_mapM (looks_serviceMember d) spec.serviceIds).bind ?_
  rintro _ rfl
  refine Pass.looks_pure_iff.2 ?_
  rw [List.filterMap_append, List.filterMap_map, List.filterMap_map, Function.id_comp,
    Function.id_comp, members]

/-! ## Resolution with invitations -/

/-- A user who is found or invited is on the roster afterwards, if there is one. -/
lemma ensures_findOrInvite (d : Roster) (accountId email : String) :
    Pass.Ensures (surroundings mayFail) (Resolve.findOrInvite accountId email) d
      (fun found t => d.Keeps t ∧ found = t.user accountId email) fun _ _ => True := by
  refine Pass.ensures_remote_bind_iff.2 ⟨fun found t hAnswer => ?_, fun _ _ _ => trivial⟩
  cases hAnswer with
  | found =>
    cases hUser : d.user accountId email with
    | some user => exact Pass.ensures_pure_iff.2 ⟨Keeps.refl d, hUser.symm⟩
    | none =>
      refine Pass.ensures_remote_bind_iff.2 ⟨fun _ t hInvited => ?_, fun _ _ _ => trivial⟩
      cases hInvited with
      | invited _ _ _ hKeeps =>
        refine Pass.ensures_remote_iff.2 ⟨fun again u hAgain => ?_, fun _ _ _ => trivial⟩
        cases hAgain with
        | found => exact ⟨hKeeps, rfl⟩

/-- The member that an email stands for is resolved as the roster says afterwards. -/
lemma ensures_userMember (accountId email : String) (d : Roster) :
    Pass.Ensures (surroundings mayFail) (AccessGroups.userMember .invite accountId email) d
      (fun member t => d.Keeps t ∧ member = t.userMember? accountId email ∧ member.isSome)
      fun _ _ => True := by
  refine Pass.ensures_bind_iff.2
    (Pass.ensures_map_iff.2 ((ensures_findOrInvite d accountId email).bind ?_))
  rintro found t ⟨hKeeps, rfl⟩
  cases hUser : t.user accountId email with
  | none => exact Pass.ensures_throw_iff.2 trivial
  | some user =>
    refine Pass.ensures_ite_iff.2 ⟨fun hUsable => ?_, fun _ => ?_⟩
    · refine Pass.ensures_pure_iff.2 (Pass.ensures_pure_iff.2 ⟨hKeeps, ?_, rfl⟩)
      rw [userMember?, hUser, Option.filter_some, if_pos hUsable]
      rfl
    · refine Pass.ensures_bind_iff.2
        (Pass.ensures_lift_iff.2 (Pass.ensures_directory_iff.2 fun _ _ _ => ?_))
      exact Pass.ensures_throw_iff.2 trivial

/-- The member that a service identity stands for is resolved as the roster says afterwards. -/
lemma ensures_serviceMember (id : String) (d : Roster) :
    Pass.Ensures (surroundings mayFail) (AccessGroups.serviceMember .invite id) d
      (fun member t => d.Keeps t ∧ member = t.serviceMember? id ∧ member.isSome)
      fun _ _ => True := by
  refine Pass.ensures_bind_iff.2
    (Pass.ensures_attempt_iff.2 (Pass.ensures_remote_bind_iff.2 ⟨?_, ?_⟩))
  · intro identity t hAnswer
    cases hAnswer with
    | served hKnown =>
      refine Pass.ensures_pure_iff.2 (Pass.ensures_pure_iff.2 ⟨Keeps.refl d, ?_, rfl⟩)
      rw [serviceMember?, hKnown]
      rfl
  · intro e t _
    refine Pass.ensures_ite_iff.2 ⟨fun hMissing =>
      absurd hMissing.1 UserLookup.noConfusion, fun _ => ?_⟩
    exact Pass.ensures_throw_iff.2 trivial

/-- The members that a spec lists are those of the roster afterwards, one for each listing. -/
lemma ensures_members (accountId : String) (spec : AccessGroupSpec) (d : Roster) :
    Pass.Ensures (surroundings mayFail) (AccessGroups.members .invite accountId spec) d
      (fun found t => found = t.members accountId spec ∧
        found.length = spec.userEmails.length + spec.serviceIds.length) fun _ _ => True := by
  refine (Pass.ensures_mapM Keeps.refl Keeps.trans Keeps.userMember?
    (ensures_userMember accountId) _ d).bind ?_
  rintro _ t ⟨-, rfl, hUsers⟩
  refine (Pass.ensures_mapM (g := serviceMember?) Keeps.refl Keeps.trans (fun h _ =>
    h.serviceMember?) ensures_serviceMember _ t).bind ?_
  rintro _ u ⟨hKeeps, rfl, hServices⟩
  -- the users were resolved before the service identities, and stand for the same members since
  have hSame : spec.userEmails.map (t.userMember? accountId) = spec.userEmails.map
      (u.userMember? accountId) :=
    List.map_congr_left fun email hMem =>
      (hKeeps.userMember? (hUsers _ (List.mem_map_of_mem hMem))).symm
  rw [hSame] at hUsers ⊢
  refine Pass.ensures_pure_iff.2 ⟨?_, ?_⟩
  · rw [List.filterMap_append, List.filterMap_map, List.filterMap_map, Function.id_comp,
      Function.id_comp, members]
  · have hAll :
      ∀ member ∈ spec.userEmails.map (u.userMember? accountId) ++
        spec.serviceIds.map u.serviceMember?,
        (id member).isSome := List.forall_mem_append.2 ⟨hUsers, hServices⟩
    rw [List.filterMap_length_eq_length.2 hAll, List.length_append, List.length_map,
      List.length_map]

/-! ## Agreement -/

/-- A run in which no look-up fails but for missing service identities is one where no other look-up
may fail. -/
lemma runs_of_shown {α : Type} {p : Program Pass.interface α}
    {trace : List (Exchange Pass.interface)} {a : α}
    (hRun : p.Runs (surroundings True) d trace a d') (hShown : ∀ z ∈ trace, ¬isUnread z) :
    p.Runs (surroundings False) d trace a d' := by
  refine (hRun.confined hShown).mono fun c answer s t ⟨hAnswer, hShown⟩ => ?_
  cases c with
  | store => exact hAnswer.elim
  | openAccount => exact hAnswer.elim
  | reference => exact hAnswer.elim
  | directory c =>
    cases hAnswer with
    | found accountId email => exact .found accountId email s
    | unread => exact absurd rfl hShown
    | served hKnown => exact .served hKnown
    | missing hUnknown hNotFound => exact .missing hUnknown hNotFound
    | unserved _ _ hOther => exact absurd (by simpa [isUnread] using hOther) hShown
    | invited accountId email answer hKeeps => exact .invited accountId email answer hKeeps
    | removed accountId userId answer => exact .removed accountId userId answer s t

/-- Read-only resolution finds the members of the roster unless a look-up fails for another reason
than a missing service identity. -/
lemma eq_members_of_shown {spec : AccessGroupSpec} {trace : List (Exchange Pass.interface)}
    {x : Except Error (List GroupMember)}
    (hRun : (AccessGroups.members .existing accountId spec).run.Runs
      (surroundings True) d trace x d')
    (hShown : ∀ z ∈ trace, ¬isUnread z) : x = .ok (d.members accountId spec) := by
  obtain ⟨hEnding, -⟩ := (looks_members d accountId spec).of_run (runs_of_shown hRun hShown)
  cases x with
  | ok found => exact congrArg Except.ok hEnding
  | error e => exact hEnding.elim

/-- Answers that are given where no other look-up fails are given where any may. -/
lemma Answers.weaken {c : Call} {answer : c.Answer} (h : Answers False c answer d d') :
    Answers True c answer d d' := by
  cases h with
  | found accountId email => exact .found accountId email d
  | unread hMay => exact hMay.elim
  | served hKnown => exact .served hKnown
  | missing hUnknown hNotFound => exact .missing hUnknown hNotFound
  | unserved hMay => exact hMay.elim
  | invited accountId email answer hKeeps => exact .invited accountId email answer hKeeps
  | removed accountId userId answer => exact .removed accountId userId answer d d'

/-- Read-only resolution can find the members of the roster. -/
lemma exists_run_members (d : Roster) (accountId : String) (spec : AccessGroupSpec) :
    ∃ trace, (AccessGroups.members .existing accountId spec).run.Runs (surroundings True) d trace
      (.ok (d.members accountId spec)) d := by
  have hLooks : Pass.Looks (surroundings False) d (AccessGroups.members .existing accountId spec)
      (· = d.members accountId spec) fun _ => False := looks_members d accountId spec
  obtain ⟨trace, x, hRun⟩ := hLooks.exists_run
  obtain ⟨hEnding, -⟩ := hLooks.of_run hRun
  refine ⟨trace, ?_⟩
  cases x with
  | error e => exact hEnding.elim
  | ok found =>
    obtain rfl : found = d.members accountId spec := hEnding
    refine hRun.mono fun c answer s t hAnswer => ?_
    cases c with
    | directory c => exact Answers.weaken hAnswer
    | store => exact hAnswer.elim
    | openAccount => exact hAnswer.elim
    | reference => exact hAnswer.elim

end Roster

open Roster in
/-- **The two ways of resolving members agree.**  Read-only resolution leaves the roster as it is
and makes look-ups only; it can end with the members that the spec lists on the roster, it ends with
no others, and it ends with them unless a look-up fails for another reason than a missing service
identity.  Whenever resolution with invitations succeeds, it ends with one member for each email and
each service identity that are listed, and read-only resolution on the roster that it leaves ends
with the same members, unless a look-up fails then. -/
theorem members_agree (accountId : String) (spec : AccessGroupSpec) (d : Roster) :
    (∃ trace, (AccessGroups.members .existing accountId spec).run.Runs (surroundings True) d trace
        (.ok (d.members accountId spec)) d) ∧
      (∀ trace x t,
        (AccessGroups.members .existing accountId spec).run.Runs (surroundings True) d trace x t →
          t = d ∧ (∀ z ∈ trace, z.call.looks) ∧
            (∀ found, x = .ok found → found = d.members accountId spec) ∧
            ((∀ z ∈ trace, ¬isUnread z) → x = .ok (d.members accountId spec))) ∧
      ∀ trace found t,
        (AccessGroups.members .invite accountId spec).run.Runs (surroundings True) d trace
            (.ok found) t →
          found.length = spec.userEmails.length + spec.serviceIds.length ∧
            (∃ again,
              (AccessGroups.members .existing accountId spec).run.Runs (surroundings True) t again
                (.ok found) t) ∧
            ∀ again x u,
              (AccessGroups.members .existing accountId spec).run.Runs (surroundings True) t again
                  x u →
                (∀ z ∈ again, ¬isUnread z) → x = .ok found := by
  refine ⟨exists_run_members d accountId spec, fun trace x t hRun =>
    ?_, fun trace found t hRun => ?_⟩
  · have hLooks : Pass.Looks (surroundings True) d (AccessGroups.members .existing accountId spec)
        (· = d.members accountId spec) fun _ => True := looks_members d accountId spec
    obtain ⟨hEnding, hSame, hCalls⟩ := hLooks.of_run hRun
    refine ⟨hSame, hCalls, ?_, eq_members_of_shown hRun⟩
    rintro found rfl
    exact hEnding
  · have hEnsures : Pass.Ensures (surroundings True)
        (AccessGroups.members .invite accountId spec) d _ _ :=
      ensures_members accountId spec d
    obtain ⟨rfl, hLength⟩ := hEnsures trace _ t hRun
    exact ⟨hLength, exists_run_members t accountId spec, fun again x u hAgain =>
      eq_members_of_shown hAgain⟩

namespace Roster

/-- A user who can be used. -/
def ada : AccountUser := ⟨"ada", "ada@example.com", "iam-ada", "ACTIVE"⟩

/-- A roster with a service identity and no users. -/
def emptyRoster : Roster where
  user _ _ := none
  service id := if id = "service-1" then some ⟨"service-1", "iam-service-1"⟩ else none

/-- The roster after the user was invited. -/
def invitedRoster : Roster :=
  { emptyRoster with
    user := fun accountId email => if accountId = "account" ∧ email = "ada@example.com" then
    some ada else none }

/-- A spec that lists the user twice. -/
def doubleSpec : AccessGroupSpec :=
  ⟨"team", "", ["ada@example.com", "ada@example.com"], ["service-1"]⟩

/-- The user is invited the first time, and found the second time. -/
def invitingTrace : List (Exchange Pass.interface) :=
  [ ⟨.directory (.findUser "account" "ada@example.com"), .ok none⟩,
    ⟨.directory (.inviteUser "account" "ada@example.com"), .ok ()⟩,
    ⟨.directory (.findUser "account" "ada@example.com"), .ok (some ada)⟩,
    ⟨.directory (.findUser "account" "ada@example.com"), .ok (some ada)⟩,
    ⟨.directory (.getServiceIdentity "service-1"), .ok ⟨"service-1", "iam-service-1"⟩⟩ ]

/-- The members that are found on the way. -/
def doubleMembers : List GroupMember :=
  [⟨"iam-ada", .user⟩, ⟨"iam-ada", .user⟩, ⟨"iam-service-1", .service⟩]

/-- The invitation adds the user. -/
lemma keeps_invitedRoster : emptyRoster.Keeps invitedRoster :=
  ⟨nofun, rfl⟩

/-- The members are resolved with an invitation. -/
lemma runs_invitingTrace :
    (AccessGroups.members .invite "account" doubleSpec).run.Runs
      (surroundings True) emptyRoster invitingTrace
        (.ok doubleMembers) invitedRoster :=
  .ask (Answers.found "account" "ada@example.com" emptyRoster) <|
    .ask (Answers.invited "account" "ada@example.com" (.ok ()) keeps_invitedRoster) <|
    .ask (Answers.found "account" "ada@example.com" invitedRoster) <|
    .ask (Answers.found "account" "ada@example.com" invitedRoster) <|
    .ask (Answers.served rfl) <| .done _ _

end Roster

open Roster in
/-- After the invitation, read-only resolution finds the user for both emails, and the service
identity. -/
theorem members_agree_of_invited :
    (AccessGroups.members .invite "account" doubleSpec).run.Runs (surroundings True) emptyRoster
        invitingTrace (.ok doubleMembers) invitedRoster ∧
      doubleMembers.length = 3 ∧
      ∃ again,
        (AccessGroups.members .existing "account" doubleSpec).run.Runs (surroundings True)
          invitedRoster again (.ok doubleMembers) invitedRoster := by
  obtain ⟨-, -, hInvited⟩ := members_agree "account" doubleSpec emptyRoster
  obtain ⟨hLength, hAgain, -⟩ := hInvited _ _ _ runs_invitingTrace
  exact ⟨runs_invitingTrace, hLength, hAgain⟩

end IamReconciler
