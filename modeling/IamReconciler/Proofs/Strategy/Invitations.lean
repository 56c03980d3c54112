import IamReconciler.Proofs.Strategy.Courses

/-!
# Inviting users

A user who may be invited is looked up, invited when there is none, looked up once more, and removed
when the record that was found last cannot be used.  Every answer may come, and the second look-up
may disagree with the first.

What each call takes for granted is stated of the exchanges before it (`Resolve.Guarded`): an
invitation follows a look-up that found nobody, and a removal follows the look-up that found the
record, which is not usable.  The traces of the resolution are exactly its courses
(`Resolve.traces_invitedUser_iff`), so that a removal that is answered differently is another trace
with the same error.  The main statement is `Resolve.invites_safely`.
-/

namespace IamReconciler

/-- A call invites a user. -/
def Pass.Call.invitesUser : Pass.Call → Bool
  | .directory (.inviteUser ..) => true
  | _ => false

/-- A call removes a user. -/
def Pass.Call.removesUser : Pass.Call → Bool
  | .directory (.removeUser ..) => true
  | _ => false

namespace Resolve

variable {accountId email : String} {h : List (Exchange Pass.interface)}

/-! ## Traces and courses -/

/-- Finding a user has all traces of its courses. -/
lemma Seeking.traces {x : Except Error (Option AccountUser)}
    (hSought : Seeking accountId email h x) : Pass.Traces (findOrInvite accountId email) h x := by
  cases hSought with
  | found user => exact .answered _ <| .done _ _
  | unknown e => exact .answered _ <| .done _ _
  | uninvited e => exact .answered _ <| .answered _ <| .done _ _
  | invited answer =>
    refine Pass.traces_remote_bind_iff.2 (.inr ⟨none, _, ?_, rfl⟩)
    exact Pass.traces_remote_bind_iff.2
      (.inr ⟨(), _, Pass.traces_remote_iff.2 ⟨answer, rfl, rfl⟩, rfl⟩)

/-- The traces of resolving a user who may be invited are its courses. -/
theorem traces_invitedUser_iff {x : Except Error String} :
    Pass.Traces (invitedUser accountId email) h x ↔ Inviting accountId email h x := by
  refine ⟨inviting_of_traces, fun hInviting => Pass.traces_bind_iff.2 ?_⟩
  cases hInviting with
  | failed hSought => exact .inl ⟨_, hSought.traces, rfl⟩
  | absent hSought =>
    exact .inr ⟨h, none, [], hSought.traces, Pass.traces_throw_iff.2 ⟨rfl, rfl⟩,
      (List.append_nil h).symm⟩
  | @usable _ user hSought hUsable =>
    refine .inr ⟨h, some user, [], hSought.traces, ?_, (List.append_nil h).symm⟩
    exact Pass.traces_ite_iff.2 (.inl ⟨hUsable, Pass.traces_pure_iff.2 ⟨rfl, rfl⟩⟩)
  | @unusable first user hSought hUnusable answer =>
    refine .inr ⟨first, some user, [⟨.directory (.removeUser accountId user.id), answer⟩],
      hSought.traces, ?_, rfl⟩
    refine Pass.traces_ite_iff.2 (.inr ⟨hUnusable, Pass.traces_lift_bind_iff.2 ?_⟩)
    exact ⟨_, answer, [], Pass.traces_directory_iff.2 rfl, Pass.traces_throw_iff.2 ⟨rfl, rfl⟩, rfl⟩

/-! ## What each call takes for granted -/

/-- An exchange that may follow others while a user is resolved. -/
inductive Guarded (accountId email : String) (before : List (Exchange Pass.interface)) :
    Exchange Pass.interface → Prop
  | looked (answer : Except RemoteError (Option AccountUser)) :
    Guarded accountId email before ⟨.directory (.findUser accountId email), answer⟩
  | invited (hNobody : before = [⟨.directory (.findUser accountId email), .ok none⟩])
    (answer : Except RemoteError Unit) :
    Guarded accountId email before ⟨.directory (.inviteUser accountId email), answer⟩
  | removed {earlier : List (Exchange Pass.interface)} {user : AccountUser}
    (hLast : before = earlier ++ [⟨.directory (.findUser accountId email), .ok (some user)⟩])
    (hUnusable : ¬user.isUsable) (answer : Except RemoteError Unit) :
    Guarded accountId email before ⟨.directory (.removeUser accountId user.id), answer⟩

/-- Finding a user follows the rule. -/
lemma Seeking.guarded {x : Except Error (Option AccountUser)}
    (hSought : Seeking accountId email h x) : InTurn (Guarded accountId email) h :=
  hSought.inTurn_of (fun _ answer => .looked answer) fun answer => .invited rfl answer

/-- Resolving a user who may be invited follows the rule. -/
lemma Inviting.guarded {x : Except Error String} (hInviting : Inviting accountId email h x) :
    InTurn (Guarded accountId email) h := by
  cases hInviting with
  | failed hSought => exact hSought.guarded
  | absent hSought => exact hSought.guarded
  | usable hSought _ => exact hSought.guarded
  | unusable hSought hUnusable answer =>
    obtain ⟨earlier, hLast, -⟩ := hSought.last
    exact inTurn_concat_iff.2 ⟨hSought.guarded, .removed hLast hUnusable answer⟩

/-- Finding a user invites at most once. -/
lemma Seeking.countP_invites {x : Except Error (Option AccountUser)}
    (hSought : Seeking accountId email h x) : h.countP (·.call.invitesUser) ≤ 1 := by
  cases hSought <;> simp [Pass.Call.invitesUser]

/-- Finding a user removes nobody. -/
lemma Seeking.not_removes {x : Except Error (Option AccountUser)}
    (hSought : Seeking accountId email h x) : ∀ y ∈ h, y.call.removesUser = false := by
  cases hSought <;> simp [Pass.Call.removesUser]

/-- No look-up returned another user than the one who was found. -/
lemma Seeking.eq_of_mem {user other : AccountUser}
    (hSought : Seeking accountId email h (.ok (some user)))
    (hMem : ⟨.directory (.findUser accountId email), .ok (some other)⟩ ∈ h) : other = user := by
  obtain ⟨earlier, rfl, hNotBefore⟩ := hSought.last
  rcases List.mem_append.1 hMem with hBefore | hLast
  · exact absurd hBefore (hNotBefore other)
  · cases List.mem_singleton.1 hLast
    rfl

/-- Resolving a user invites at most once. -/
lemma Inviting.countP_invites {x : Except Error String} (hInviting : Inviting accountId email h x) :
    h.countP (·.call.invitesUser) ≤ 1 := by
  cases hInviting with
  | failed hSought => exact hSought.countP_invites
  | absent hSought => exact hSought.countP_invites
  | usable hSought _ => exact hSought.countP_invites
  | unusable hSought _ _ =>
    rw [List.countP_append]
    simpa [Pass.Call.invitesUser] using hSought.countP_invites

/-- Resolving a user removes at most once. -/
lemma Inviting.countP_removes {x : Except Error String} (hInviting : Inviting accountId email h x) :
    h.countP (·.call.removesUser) ≤ 1 := by
  have hNone {first : List (Exchange Pass.interface)} {z : Except Error (Option AccountUser)}
      (hSought : Seeking accountId email first z) : first.countP (·.call.removesUser) = 0 :=
    List.countP_eq_zero.2 fun y hMem => by simp [hSought.not_removes y hMem]
  cases hInviting with
  | failed hSought => simp [hNone hSought]
  | absent hSought => simp [hNone hSought]
  | usable hSought _ => simp [hNone hSought]
  | unusable hSought _ _ =>
    rw [List.countP_append, hNone hSought]
    simp [Pass.Call.removesUser]

/-- A resolution in which a usable user was found removes nobody. -/
lemma Inviting.spares {x : Except Error String} {user : AccountUser}
    (hInviting : Inviting accountId email h x) (hFound : ⟨.directory (.findUser accountId email),
      .ok (some user)⟩ ∈ h) (hUsable : user.isUsable) :
    ∀ y ∈ h, y.call.removesUser = false := by
  cases hInviting with
  | failed hSought => exact hSought.not_removes
  | absent hSought => exact hSought.not_removes
  | usable hSought _ => exact hSought.not_removes
  | @unusable first other hSought hUnusable answer =>
    have hBefore : ⟨.directory (.findUser accountId email), .ok (some user)⟩ ∈ first := by
      rcases List.mem_append.1 hFound with hMem | hRemoval
      · exact hMem
      · cases List.mem_singleton.1 hRemoval
    rw [hSought.eq_of_mem hBefore] at hUsable
    exact absurd hUsable hUnusable

/-- A resolution that succeeds ends with the look-up that found a usable user. -/
lemma Inviting.of_ok {iamId : String} (hInviting : Inviting accountId email h (.ok iamId)) :
    ∃ earlier user, h = earlier ++ [⟨.directory (.findUser accountId email), .ok (some user)⟩] ∧
      user.isUsable ∧ iamId = user.iamId ∧ user.iamId ≠ "" := by
  cases hInviting with
  | @usable _ user hSought hUsable =>
    obtain ⟨earlier, hLast, -⟩ := hSought.last
    exact ⟨earlier, user, hLast, hUsable, rfl, AccountUser.iamId_ne_empty hUsable⟩

/-- A removal is the last call, after a user was found who is not usable. -/
lemma Inviting.of_removal {x : Except Error String} {before after : List (Exchange Pass.interface)}
    {account userId : String} {answer : Except RemoteError Unit}
    (hInviting : Inviting accountId email
      (before ++ ⟨.directory (.removeUser account userId), answer⟩ :: after) x) :
    ∃ user, Seeking accountId email before (.ok (some user)) ∧ ¬user.isUsable ∧
      account = accountId ∧ userId = user.id ∧ after = [] ∧
      x = .error (.resolution ("user " ++ email) "user email is not valid") := by
  generalize hHistory : before ++ ⟨.directory (.removeUser account userId), answer⟩ ::
    after = h at hInviting
  have hAbsurd {z : Except Error (Option AccountUser)} (hSought : Seeking accountId email h z) :
      False := by
    have hNot := hSought.not_removes ⟨.directory (.removeUser account userId), answer⟩
      (by simp [← hHistory])
    cases hNot
  cases hInviting with
  | failed hSought => exact (hAbsurd hSought).elim
  | absent hSought => exact (hAbsurd hSought).elim
  | usable hSought _ => exact (hAbsurd hSought).elim
  | @unusable first user hSought hUnusable removal =>
    have hOthers : ∀ w ∈ first ++ [], ¬w.call.removesUser := by
      simpa using hSought.not_removes
    obtain ⟨rfl, hSame, rfl⟩ := split_eq_of_sole hHistory.symm hOthers rfl
    cases hSame
    exact ⟨user, hSought, hUnusable, rfl, rfl, rfl, rfl⟩

/-! ## Safety -/

/-- What is certain of resolving a user who may be invited, whatever is answered. -/
structure InvitesSafely (accountId email : String) (h : List (Exchange Pass.interface))
    (x : Except Error (Option String)) : Prop where
  /-- A user is invited after the first look-up found nobody, and removed when the last look-up
  found a record that is not usable, which is the record that is removed. -/
  guarded : InTurn (Guarded accountId email) h
  /-- At most one invitation is made. -/
  invitesOnce : h.countP (·.call.invitesUser) ≤ 1
  /-- At most one removal is made. -/
  removesOnce : h.countP (·.call.removesUser) ≤ 1
  /-- When a usable user was found, nobody is removed. -/
  spares : ∀ user, ⟨.directory (.findUser accountId email), .ok (some user)⟩ ∈ h → user.isUsable →
    ∀ y ∈ h, y.call.removesUser = false
  /-- The resolution succeeds only with the identifier of the usable user whom the last look-up
  found. -/
  resolved : ∀ iamId, x = .ok iamId → ∃ earlier user,
    h = earlier ++ [⟨.directory (.findUser accountId email), .ok (some user)⟩] ∧ user.isUsable ∧
      iamId = some user.iamId ∧ user.iamId ≠ ""
  /-- A removal is the last call, and the resolution fails with the same error whatever is answered
  to it. -/
  indifferent : ∀ before after account userId answer,
    h = before ++ ⟨.directory (.removeUser account userId), answer⟩ :: after →
      after = [] ∧ x = .error (.resolution ("user " ++ email) "user email is not valid") ∧
        ∀ other, Pass.Traces (user .invite accountId email)
          (before ++ [⟨.directory (.removeUser account userId), other⟩]) x

/-- **Resolving a user who may be invited is safe under every answer.** -/
theorem invites_safely {x : Except Error (Option String)}
    (hTrace : Pass.Traces (user .invite accountId email) h x) :
    InvitesSafely accountId email h x := by
  obtain ⟨y, hInvited, rfl⟩ := Pass.traces_map_iff.1 hTrace
  have hInviting : Inviting accountId email h y := traces_invitedUser_iff.1 hInvited
  constructor
  case guarded => exact hInviting.guarded
  case invitesOnce => exact hInviting.countP_invites
  case removesOnce => exact hInviting.countP_removes
  case spares => exact fun _ hFound hUsable => hInviting.spares hFound hUsable
  case resolved =>
    rintro iamId hOk
    cases y with
    | error e => cases hOk
    | ok id =>
      cases hOk
      obtain ⟨earlier, user, hLast, hUsable, rfl, hNamed⟩ := hInviting.of_ok
      exact ⟨earlier, user, hLast, hUsable, rfl, hNamed⟩
  case indifferent =>
    rintro before after account userId answer rfl
    obtain ⟨found, hSought, hUnusable, rfl, rfl, rfl, rfl⟩ := hInviting.of_removal
    refine ⟨rfl, rfl, fun other => Pass.traces_map_iff.2 ⟨_, ?_, rfl⟩⟩
    exact traces_invitedUser_iff.2 (.unusable hSought hUnusable other)

/-- The record of a user who has not accepted the invitation. -/
def pendingUser : AccountUser := ⟨"user-1", "new@example.com", "", pendingUserState⟩

/-- A user is invited who then cannot be used, and whose removal fails. -/
def pendingCalls : List (Exchange Pass.interface) :=
  [ ⟨.directory (.findUser "account" "new@example.com"), .ok none⟩,
    ⟨.directory (.inviteUser "account" "new@example.com"), .ok ()⟩,
    ⟨.directory (.findUser "account" "new@example.com"), .ok (some pendingUser)⟩,
    ⟨.directory (.removeUser "account" "user-1"), .error (.request "timeout" true)⟩ ]

/-- The error is the same as if the user had been removed. -/
theorem invites_safely_of_pending :
    InvitesSafely "account" "new@example.com" pendingCalls
        (.error (.resolution "user new@example.com" "user email is not valid")) ∧
      Pass.Traces (user .invite "account" "new@example.com")
        (pendingCalls.take 3 ++ [⟨.directory (.removeUser "account" "user-1"), .ok ()⟩])
        (.error (.resolution "user new@example.com" "user email is not valid")) := by
  have hTrace : Pass.Traces (user .invite "account" "new@example.com") pendingCalls
      (.error (.resolution "user new@example.com" "user email is not valid")) :=
    .answered _ <| .answered _ <| .answered _ <| .answered _ <| .done _ _
  have hSafe := invites_safely hTrace
  obtain ⟨-, -, hOther⟩ := hSafe.indifferent (pendingCalls.take 3) [] "account" "user-1" _ rfl
  exact ⟨hSafe, hOther (.ok ())⟩

end Resolve

end IamReconciler
