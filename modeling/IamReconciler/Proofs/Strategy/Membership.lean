import IamReconciler.Proofs.Lifecycle.Frame
import IamReconciler.Proofs.Strategy.Agreement
import Mathlib.Data.Set.Insert

/-!
# Exchanging the members of a group

An update of a group writes its name and its description, resolves the members that are wanted, and
then exchanges the members: those of the snapshot that are not wanted are removed one after another,
and those that are wanted and not in the snapshot are added by a single call.  The first call that
fails ends the update.

The second half says what this does to the group (`membersAfter`).  An update of a group that has
the members of the snapshot, none of whose calls fails, leaves the group with the wanted members,
and it names no member that the group had and keeps (`regroups_of_update`).
-/

namespace IamReconciler

open Directory (Call)

namespace AccessGroups

variable {scope : Scope} {spec : AccessGroupSpec} {id : String}
  {h rest : List (Exchange Pass.interface)} {removed added current wanted : List GroupMember}

/-! ## Courses -/

/-- The members of a list whose identifiers are not in another. -/
def lacking (others members : List GroupMember) : List GroupMember :=
  members.filter fun member => member.id ∉ others.map (·.id)

/-- The courses of exchanging members.  They are removed in turn until a removal fails; when all are
removed, the others are added at once, if there are any. -/
inductive Regrouping (id : String) (added : List GroupMember) :
    List GroupMember → List (Exchange Pass.interface) → Except Error Unit → Prop where
  | unremoved (member : GroupMember) (rest : List GroupMember) (e : RemoteError) :
      Regrouping id added (member :: rest) [⟨.directory (.removeMember id member.id), .error e⟩]
        (.error (.remote "remove access group member" e))
  | removed (member : GroupMember) {rest : List GroupMember} {h : List (Exchange Pass.interface)}
      {x : Except Error Unit} (hRest : Regrouping id added rest h x) :
      Regrouping id added (member :: rest)
        (⟨.directory (.removeMember id member.id), .ok ()⟩ :: h) x
  | unchanged (hNone : added = []) : Regrouping id added [] [] (.ok ())
  | added (hSome : added ≠ []) (answer : Except RemoteError Unit) :
      Regrouping id added [] [⟨.directory (.addMembers id added), answer⟩]
        (answer.mapError (.remote "add access group members"))

/-- The members that are not wanted are those that lack a wanted identifier. -/
lemma surplus_eq_lacking (current wanted : List GroupMember) :
    surplus current wanted = lacking wanted current := by
  refine List.filter_congr fun member _ => ?_
  have hWanted : (wanted.any fun other => other.id = member.id) =
      decide (member.id ∈ wanted.map (·.id)) := by
    rw [Bool.eq_iff_iff]
    simp
  rw [hWanted, decide_not]

/-- Members are added by one call, unless there are none. -/
lemma regrouping_of_addMembers {x : Except Error Unit}
    (hTrace : Pass.Traces (addMembers id added) h x) : Regrouping id added [] h x := by
  rcases Pass.traces_ite_iff.1 hTrace with ⟨hNone, hTrace⟩ | ⟨hSome, hTrace⟩
  · obtain ⟨rfl, rfl⟩ := Pass.traces_pure_iff.1 hTrace
    exact .unchanged (List.isEmpty_iff.1 hNone)
  · obtain ⟨answer, rfl, rfl⟩ := Pass.traces_remote_iff.1 hTrace
    exact .added (fun hNone => hSome (List.isEmpty_iff.2 hNone)) answer

/-- Removals followed by an addition take one of the courses. -/
lemma regrouping_of_traces {x : Except Error Unit}
    (hTrace : Pass.Traces (do removeMembers id removed; addMembers id added) h x) :
    Regrouping id added removed h x := by
  induction removed generalizing h with
  | nil => exact regrouping_of_addMembers hTrace
  | cons member rest ih =>
    have hRemoval : (do removeMembers id (member :: rest); addMembers id added) =
        Pass.remote "remove access group member" (.removeMember id member.id) >>= fun _ =>
          (do removeMembers id rest; addMembers id added) := bind_assoc _ _ _
    rw [hRemoval] at hTrace
    rcases Pass.traces_remote_bind_iff.1 hTrace with ⟨e, rfl, rfl⟩ | ⟨_, last, hLast, rfl⟩
    · exact .unremoved member rest e
    · exact .removed member (ih hLast)

/-! ## What becomes of the members -/

/-- What an exchange makes of the identifiers of the members of a group.  A call that fails changes
nothing. -/
def membersAfterOne (id : String) (s : Set String) : Exchange Pass.interface → Set String
  | ⟨.directory (.addMembers group members), .ok _⟩ =>
      if group = id then s ∪ {m | m ∈ members.map (·.id)} else s
  | ⟨.directory (.removeMember group memberId), .ok _⟩ => if group = id then s \ {memberId} else s
  | ⟨.directory (.deleteGroup group), .ok _⟩ => if group = id then ∅ else s
  | _ => s

/-- The identifiers of the members of a group after some exchanges. -/
def membersAfter (id : String) (s : Set String) (h : List (Exchange Pass.interface)) : Set String :=
  h.foldl (membersAfterOne id) s

/-- The identifiers of the members that a call adds or removes. -/
def moved : Pass.Call → List String
  | .directory (.addMembers _ members) => members.map (·.id)
  | .directory (.removeMember _ memberId) => [memberId]
  | _ => []

/-- The identifier of the member that a call removes. -/
def removes? : Pass.Call → Option String
  | .directory (.removeMember _ memberId) => some memberId
  | _ => none

/-- The calls that remove members one after another and then add members at once, if there are
any. -/
def exchangeCalls (id : String) (removed added : List GroupMember) : List Pass.Call :=
  (removed.map fun member => .directory (.removeMember id member.id)) ++
    if added.isEmpty then [] else [.directory (.addMembers id added)]

/-- The exchange is no call of the service that failed. -/
def succeeds : Exchange Pass.interface → Bool
  | ⟨.directory _, .error _⟩ => false
  | _ => true

/-- A call that spares all entities moves no members. -/
lemma moved_of_spares {c : Pass.Call} (hSpares : c.Spares) : moved c = [] := by
  cases c with
  | directory c =>
    have hTouches := (hSpares c rfl).1
    cases c <;> first | rfl | cases hTouches
  | store => rfl
  | openAccount => rfl
  | reference => rfl

/-- Exchanges in two parts change the members one part after the other. -/
lemma membersAfter_append (s : Set String) (h rest : List (Exchange Pass.interface)) :
    membersAfter id s (h ++ rest) = membersAfter id (membersAfter id s h) rest :=
  List.foldl_append

/-- An exchange whose call spares all entities leaves the members of a group. -/
lemma membersAfterOne_of_spares {z : Exchange Pass.interface} (hSpares : z.call.Spares)
    (s : Set String) : membersAfterOne id s z = s := by
  obtain ⟨c, answer⟩ := z
  cases c with
  | directory c =>
    have hTouches := (hSpares c rfl).1
    cases c <;> first | rfl | cases hTouches
  | store => rfl
  | openAccount => rfl
  | reference => rfl

/-- What spares all entities leaves the members of a group. -/
lemma membersAfter_of_sparing (hSparing : Sparing h) (s : Set String) :
    membersAfter id s h = s := by
  induction h with
  | nil => rfl
  | cons z rest ih =>
    obtain ⟨hFirst, hRest⟩ := List.forall_mem_cons.1 hSparing
    rw [membersAfter, List.foldl_cons, membersAfterOne_of_spares hFirst]
    exact ih hRest

/-- The members that lack an identifier. -/
lemma mem_lacking {m : String} :
    m ∈ (lacking wanted current).map (·.id) ↔ m ∈ current.map (·.id) ∧ m ∉ wanted.map (·.id) := by
  rw [← surplus_eq_lacking, mem_surplus_iff]

/-- Members are removed in turn. -/
lemma Regrouping.removals {x : Except Error Unit} (hCourse : Regrouping id added removed h x) :
    (h.filterMap fun z => removes? z.call) <+: removed.map (·.id) := by
  induction hCourse with
  | unremoved member rest e => exact List.prefix_append [member.id] (rest.map (·.id))
  | removed member _ ih => exact List.cons_prefix_cons.2 ⟨rfl, ih⟩
  | unchanged => exact List.prefix_rfl
  | added => exact List.prefix_rfl

/-- The members that are moved are those to be removed and to be added. -/
lemma Regrouping.mem_moved {x : Except Error Unit} (hCourse : Regrouping id added removed h x)
    {z : Exchange Pass.interface} (hMem : z ∈ h) {m : String} (hMoved : m ∈ moved z.call) :
    m ∈ removed.map (·.id) ∨ m ∈ added.map (·.id) := by
  induction hCourse with
  | unremoved member rest e =>
    obtain rfl := List.mem_singleton.1 hMem
    exact .inl (List.mem_singleton.1 hMoved ▸ List.mem_cons_self)
  | removed member hRest ih =>
    rcases List.mem_cons.1 hMem with rfl | hMem
    · exact .inl (List.mem_singleton.1 hMoved ▸ List.mem_cons_self)
    · exact (ih hMem).imp_left (List.mem_cons_of_mem member.id)
  | unchanged => cases hMem
  | added =>
    obtain rfl := List.mem_singleton.1 hMem
    exact .inr hMoved

/-- When members could be exchanged, all calls were made and none failed. -/
lemma Regrouping.calls_of_ok {x : Except Error Unit} (hCourse : Regrouping id added removed h x)
    (hOk : x = .ok ()) :
    (∀ z ∈ h, succeeds z) ∧ h.map (·.call) = exchangeCalls id removed added := by
  induction hCourse with
  | unremoved => cases hOk
  | removed member _ ih =>
    obtain ⟨hSucceeds, hCalls⟩ := ih hOk
    exact ⟨List.forall_mem_cons.2 ⟨rfl, hSucceeds⟩, congrArg (List.cons _) hCalls⟩
  | unchanged hNone =>
    subst hNone
    exact ⟨List.forall_mem_nil _, rfl⟩
  | added hSome answer =>
    cases answer with
    | error => cases hOk
    | ok =>
      refine ⟨List.forall_mem_singleton.2 rfl, ?_⟩
      rw [exchangeCalls, if_neg fun hNone => hSome (List.isEmpty_iff.1 hNone)]
      rfl

/-- When no call fails, the removed members are gone and the added ones are there. -/
lemma Regrouping.membersAfter_eq {x : Except Error Unit} (hCourse : Regrouping id added removed h x)
    (hSucceeds : ∀ z ∈ h, succeeds z) (s : Set String) :
    x = .ok () ∧ membersAfter id s h = s \ {m | m ∈ removed.map (·.id)} ∪
      {m | m ∈ added.map (·.id)} := by
  -- removals come one by one, and all that is added comes at once in the end
  induction hCourse generalizing s with
  | unremoved member rest e => exact absurd (hSucceeds _ List.mem_cons_self) Bool.false_ne_true
  | @removed member rest h x hRest ih =>
    obtain ⟨hOk, hAfter⟩ := ih (List.forall_mem_cons.1 hSucceeds).2 (s \ {member.id})
    refine ⟨hOk, ?_⟩
    have hFirst : membersAfterOne id s ⟨.directory (.removeMember id member.id), .ok ()⟩ =
        s \ {member.id} :=
      if_pos rfl
    rw [membersAfter, List.foldl_cons, hFirst]
    refine hAfter.trans (congrArg (· ∪ _) ?_)
    ext m
    simp [not_or, and_assoc]
  | unchanged hNone =>
    subst hNone
    refine ⟨rfl, ?_⟩
    ext m
    simp [membersAfter]
  | added hSome answer =>
    cases answer with
    | error e => exact absurd (hSucceeds _ List.mem_cons_self) Bool.false_ne_true
    | ok =>
      refine ⟨rfl, ?_⟩
      have hFirst : membersAfterOne id s ⟨.directory (.addMembers id added), .ok ()⟩ =
          s ∪ {m | m ∈ added.map (·.id)} := if_pos rfl
      rw [membersAfter, List.foldl_cons, List.foldl_nil, hFirst]
      ext m
      simp

/-! ## Updates -/

/-- What an exchange of the members of a group does, when the group had the members of a snapshot
before some exchanges that precede it. -/
structure Exchanges (id : String) (current wanted : List GroupMember)
    (before h : List (Exchange Pass.interface)) (x : Except Error Unit) : Prop where
  /-- The members that are not wanted are removed in the order of the snapshot, and then those that
  are missing are added in the order in which they are wanted. -/
  course : Regrouping id (lacking current wanted) (lacking wanted current) h x
  /-- No member is removed twice. -/
  once : (h.filterMap fun z => removes? z.call).Nodup
  /-- Members that are there and wanted are left alone. -/
  keeps : ∀ m ∈ current.map (·.id), m ∈ wanted.map (·.id) → ∀ z ∈ before ++ h, m ∉ moved z.call
  /-- Unless a call fails, the group has the wanted members in the end. -/
  reaches : (∀ z ∈ h, succeeds z) → x = .ok () ∧
    membersAfter id {m | m ∈ current.map (·.id)} (before ++ h) = {m | m ∈ wanted.map (·.id)}

/-- The courses of updating a group. -/
inductive Revising (scope : Scope) (spec : AccessGroupSpec) (id : String) (desired : GroupUpdate)
    (remote : GroupSnapshot) (etag : Etag) : List (Exchange Pass.interface) →
    Except Error RemoteRef → Prop where
  | refused (e : RemoteError) :
      Revising scope spec id desired remote etag
      [⟨.directory (.updateGroup id desired.request etag), .error e⟩]
        (.error (.remote "update access group" e))
  | unresolved (group : RemoteGroup) {resolving : List (Exchange Pass.interface)} {e : Error}
      (hResolving : Pass.Traces (members .invite scope.accountId spec) resolving (.error e))
      (hSparing : Sparing resolving) :
      Revising scope spec id desired remote etag
        (⟨.directory (.updateGroup id desired.request etag), .ok group⟩ :: resolving) (.error e)
  | resolved (group : RemoteGroup) {resolving rest : List (Exchange Pass.interface)}
      {wanted : List GroupMember}
      {y : Except Error Unit}
      (hResolving : Pass.Traces (members .invite scope.accountId spec) resolving (.ok wanted))
      (hSparing : Sparing resolving)
      (hExchanges : Exchanges id remote.members wanted
        (⟨.directory (.updateGroup id desired.request etag), .ok group⟩ :: resolving) rest y) :
      Revising scope spec id desired remote etag
        (⟨.directory (.updateGroup id desired.request etag), .ok group⟩ :: (resolving ++ rest))
        (y.map fun _ => ⟨id, none⟩)

/-- Removing what is not wanted from the members of a snapshot and adding what is missing gives the
wanted members. -/
lemma diff_union_lacking (current wanted : List GroupMember) :
    ({m | m ∈ current.map (·.id)} \ {m | m ∈ (lacking wanted current).map (·.id)} ∪
      {m | m ∈ (lacking current wanted).map (·.id)} : Set String) =
        {m | m ∈ wanted.map (·.id)} := by
  ext m
  simp only [Set.mem_union, Set.mem_sdiff, Set.mem_ofPred_eq, mem_lacking]
  by_cases hCurrent : m ∈ current.map (·.id) <;> simp [hCurrent]

/-- A course of exchanging the members of a snapshot for the wanted ones does what it should, after
exchanges that spare the members of the group. -/
lemma Regrouping.exchanges {before : List (Exchange Pass.interface)} {x : Except Error Unit}
    (hDistinct : (current.map (·.id)).Nodup)
    (hCourse : Regrouping id (lacking current wanted) (lacking wanted current) h x)
    (hUnmoved : ∀ z ∈ before, moved z.call = []) (hBefore : ∀ s, membersAfter id s before = s) :
    Exchanges id current wanted before h x where
  course := hCourse
  once :=
    have hRemoved : ((lacking wanted current).map (·.id)).Nodup :=
      hDistinct.sublist (List.filter_sublist.map _)
    hRemoved.sublist hCourse.removals.sublist
  keeps m hCurrent hWanted z hMem hMoved := by
    rcases List.mem_append.1 hMem with hMem | hMem
    · rw [hUnmoved z hMem] at hMoved
      cases hMoved
    · rcases hCourse.mem_moved hMem hMoved with hRemoved | hAdded
      · exact (mem_lacking.1 hRemoved).2 hWanted
      · exact (mem_lacking.1 hAdded).2 hCurrent
  reaches hSucceeds := by
    obtain ⟨hOk, hAfter⟩ := hCourse.membersAfter_eq hSucceeds {m | m ∈ current.map (·.id)}
    refine ⟨hOk, ?_⟩
    rw [membersAfter_append, hBefore, hAfter]
    exact diff_union_lacking current wanted

/-- An update takes one of the courses, when the members of the snapshot are distinct. -/
lemma revising_of_traces {desired : GroupUpdate} {remote : GroupSnapshot} {etag : Etag}
    {x : Except Error RemoteRef} (hDistinct : (remote.members.map (·.id)).Nodup)
    (hTrace : Pass.Traces (update scope spec id desired remote etag) h x) :
    Revising scope spec id desired remote etag h x := by
  rcases Pass.traces_remote_bind_iff.1 hTrace with ⟨e, rfl, rfl⟩ | ⟨group, later, hLater, rfl⟩
  · exact .refused e
  have hSparing {resolving : List (Exchange Pass.interface)} {y : Except Error (List GroupMember)}
      (hResolving : Pass.Traces (members .invite scope.accountId spec) resolving y) :
      Sparing resolving :=
    (heeds_members .invite scope.accountId (fun _ => List.Subset.refl spec.userEmails) resolving y
      hResolving).forall_mem fun _ _ hMay => hMay.spares
  rcases Pass.traces_bind_iff.1 hLater with ⟨e, hResolving, rfl⟩ | ⟨resolving, wanted, rest,
    hResolving, hRest, rfl⟩
  · exact .unresolved group hResolving (hSparing hResolving)
  -- what follows the resolution is the exchange, whose end is then replaced by the reference
  have hExchange : (do
        removeMembers id (surplus remote.members wanted)
        addMembers id (surplus wanted remote.members)
        pure ⟨id, none⟩ : Pass RemoteRef) =
      (fun _ => ⟨id, none⟩) <$> (do
        removeMembers id (lacking wanted remote.members)
        addMembers id (lacking remote.members wanted)) := by
    simp only [surplus_eq_lacking, map_eq_pure_bind, bind_assoc]
  rw [hExchange] at hRest
  obtain ⟨y, hRegrouping, rfl⟩ := Pass.traces_map_iff.1 hRest
  refine .resolved group hResolving (hSparing hResolving)
    ((regrouping_of_traces hRegrouping).exchanges hDistinct ?_ ?_)
  · exact List.forall_mem_cons.2 ⟨rfl, fun z hMem => moved_of_spares (hSparing hResolving z hMem)⟩
  · intro s
    change membersAfter id s resolving = s
    exact membersAfter_of_sparing (hSparing hResolving) s

end AccessGroups

open AccessGroups in
/-- **An update exchanges the members that differ.**  Whatever is answered, an update of a group for
a snapshot without repeated members writes name and description under the token, resolves the wanted
members, removes every member of the snapshot that is not wanted, once and in the order of the
snapshot, and adds the wanted members that are not in the snapshot, in their order, by one call, or
by none when there are none; it ends at the first failure.  When it succeeds, all these calls were
made, and a group that had the members of the snapshot has the wanted ones. -/
theorem regroups_of_update {scope : Scope} {spec : AccessGroupSpec} {id : String}
    {desired : GroupUpdate} {remote : GroupSnapshot} {etag : Etag}
    {h : List (Exchange Pass.interface)} {x : Except Error RemoteRef}
    (hDistinct : (remote.members.map (·.id)).Nodup)
    (hTrace :
      Pass.Traces (Kind.accessGroup.strategy.update scope spec id desired remote etag) h x) :
    Revising scope spec id desired remote etag h x ∧
      ∀ ref, x = .ok ref → ref = ⟨id, none⟩ ∧ ∃ group resolving rest wanted,
        h = ⟨.directory (.updateGroup id desired.request etag), .ok group⟩ :: (resolving ++ rest) ∧
          Pass.Traces (members .invite scope.accountId spec) resolving (.ok wanted) ∧
            rest.map (·.call) =
                exchangeCalls id (lacking wanted remote.members) (lacking remote.members wanted) ∧
              membersAfter id {m | m ∈ remote.members.map (·.id)} h =
                {m | m ∈ wanted.map (·.id)} := by
  have hRevising := revising_of_traces hDistinct hTrace
  refine ⟨hRevising, fun ref hOk => ?_⟩
  cases hRevising with
  | refused => cases hOk
  | unresolved => cases hOk
  | @resolved group resolving rest wanted y hResolving hSparing hExchanges =>
    cases y with
    | error => cases hOk
    | ok =>
      cases hOk
      obtain ⟨hSucceeds, hCalls⟩ := hExchanges.course.calls_of_ok rfl
      exact ⟨rfl, group, resolving, rest, wanted, rfl, hResolving, hCalls,
        (hExchanges.reaches hSucceeds).2⟩

namespace AccessGroups

/-- A group of a user and a service. -/
def teamSpec : AccessGroupSpec := ⟨"team", "", ["ada@example.com"], ["service-1"]⟩

/-- What is asked of the group. -/
def teamUpdate : GroupUpdate := ⟨request teamSpec, ["iam-ada", "iam-service-1"]⟩

/-- The group without the user, and with another one who is not wanted. -/
def staleSnapshot : GroupSnapshot :=
  ⟨⟨"group-1", "team", ""⟩, [⟨"iam-service-1", .service⟩, ⟨"iam-bob", .user⟩]⟩

/-- The update of the group, when all calls succeed. -/
def teamTrace : List (Exchange Pass.interface) :=
  [ ⟨.directory (.updateGroup "group-1" (request teamSpec) ⟨"v1"⟩), .ok ⟨"group-1", "team", ""⟩⟩,
    ⟨.directory (.findUser "account" "ada@example.com"),
      .ok (some ⟨"ada", "ada@example.com", "iam-ada", "ACTIVE"⟩)⟩,
    ⟨.directory (.getServiceIdentity "service-1"), .ok ⟨"service-1", "iam-service-1"⟩⟩,
    ⟨.directory (.removeMember "group-1" "iam-bob"), .ok ()⟩,
    ⟨.directory (.addMembers "group-1" [⟨"iam-ada", .user⟩]), .ok ()⟩ ]

/-- The group is updated when all calls succeed. -/
lemma traces_teamTrace :
    Pass.Traces (Kind.accessGroup.strategy.update ⟨⟨"account"⟩, "team"⟩ teamSpec "group-1"
      teamUpdate staleSnapshot ⟨"v1"⟩) teamTrace (.ok ⟨"group-1", none⟩) :=
  .answered _ <| .answered _ <| .answered _ <| .answered _ <| .answered _ <| .done _ _

end AccessGroups

open AccessGroups in
/-- The user is added, the other one is removed, and the service stays. -/
theorem regroups_of_stale :
    (staleSnapshot.members.map (·.id)).Nodup ∧
      Pass.Traces
        (Kind.accessGroup.strategy.update ⟨⟨"account"⟩, "team"⟩ teamSpec "group-1" teamUpdate
          staleSnapshot ⟨"v1"⟩) teamTrace (.ok ⟨"group-1", none⟩) ∧
      ∃ wanted : List GroupMember,
        {m | m ∈ wanted.map (·.id)} = ({"iam-ada", "iam-service-1"} : Set String) ∧
          membersAfter "group-1" {m | m ∈ staleSnapshot.members.map (·.id)} teamTrace =
            {m | m ∈ wanted.map (·.id)} := by
  have hDistinct : (staleSnapshot.members.map (·.id)).Nodup := by decide
  obtain ⟨-, hReaches⟩ := regroups_of_update hDistinct traces_teamTrace
  obtain ⟨-, _, _, _, wanted, -, -, -, hMembers⟩ := hReaches _ rfl
  refine ⟨hDistinct, traces_teamTrace, wanted, ?_, hMembers⟩
  -- the trace alone tells who the members are in the end, and therefore who was wanted
  rw [← hMembers]
  ext m
  by_cases hUser : m = "iam-bob"
  · simp [membersAfter, membersAfterOne, teamTrace, staleSnapshot, hUser]
  · simp [membersAfter, membersAfterOne, teamTrace, staleSnapshot, hUser, or_comm]

end IamReconciler
