import IamReconciler.Proofs.Lifecycle.Applied
import IamReconciler.Proofs.Traces
import Mathlib.Data.List.Forall2

/-!
# Granting roles

A policy asks for roles in three ways: by names of roles that the service or the platform defines,
by names of custom roles of the account, and by references to declared custom roles.  This is a list
of look-ups, one for the names of each list that is not empty and one for each reference
(`PolicyRoles.lookups`), which are made one after another (`grantedRoles_eq`).

A look-up of names takes one listing and finds the first role of each name in it; a reference leads
to a name and to the listing of a service.  What a look-up finds and why it fails is stated by
relations between its exchanges and its result (`RoleLookup.Finds`, `RoleLookup.Fails`).  The main
statement is `grants_as_requested`.
-/

namespace IamReconciler

/-! ## Names in a listing -/

/-- The first role of a name in a listing. -/
def IsFirst (available : List PolicyRole) (name : String) (role : PolicyRole) : Prop :=
  ∃ before after, available = before ++ role :: after ∧ role.name = name ∧ ∀ other ∈ before,
    other.name ≠ name

/-- A listing has no role of a name. -/
def Lacks (available : List PolicyRole) (name : String) : Prop :=
  ∀ role ∈ available, role.name ≠ name

/-- The error for a name that a listing lacks. -/
def unavailable (name : String) : Error :=
  .resolution ("role " ++ name) "no role with this name is available"

section Except

variable {α β ε : Type} {f : α → Except ε β} {l : List α} {bs : List β} {e : ε}

/-- Results for a list are results for its items. -/
lemma mapM_eq_ok_iff : l.mapM f = .ok bs ↔ List.Forall₂ (fun a b => f a = .ok b) l bs := by
  induction l generalizing bs with
  | nil => cases bs <;> simp [pure, Except.pure]
  | cons a l ih =>
    rw [List.mapM_cons, List.forall₂_cons_left_iff]
    cases hFirst : f a with
    | error e => simp [bind, Except.bind]
    | ok b =>
      cases hRest : l.mapM f with
      | error e => simp [bind, Except.bind, ← ih, hRest]
      | ok rest => simp [bind, Except.bind, pure, Except.pure, ← ih, hRest, eq_comm]

/-- The error for a list is that of its first item that has one. -/
lemma mapM_eq_error_iff :
    l.mapM f = .error e ↔ ∃ before a after bs, l = before ++ a :: after ∧
      List.Forall₂ (fun a b => f a = .ok b) before bs ∧ f a = .error e := by
  constructor
  · intro hError
    induction l with
    | nil => cases hError
    | cons a l ih =>
      rw [List.mapM_cons] at hError
      cases hFirst : f a with
      | error e' =>
        rw [hFirst] at hError
        obtain rfl : e' = e := Except.error.inj hError
        exact ⟨[], a, l, [], rfl, .nil, hFirst⟩
      | ok b =>
        rw [hFirst] at hError
        cases hRest : l.mapM f with
        | ok rest =>
          rw [hRest] at hError
          cases hError
        | error e' =>
          rw [hRest] at hError
          obtain rfl : e' = e := Except.error.inj hError
          obtain ⟨before, a', after, bs, rfl, hBefore, hLast⟩ := ih hRest
          exact ⟨a :: before, a', after, b :: bs, rfl, .cons hFirst hBefore, hLast⟩
  · rintro ⟨before, a, after, bs, rfl, hBefore, hLast⟩
    have hResults : before.mapM f = .ok bs := mapM_eq_ok_iff.2 hBefore
    rw [List.mapM_append, hResults, List.mapM_cons, hLast]
    rfl

end Except

namespace Resolve

variable {available : List PolicyRole} {name : String} {names : List String}

/-- The role of a name is the first one. -/
lemma role_eq_ok_iff {found : PolicyRole} :
    role available name = .ok found ↔ IsFirst available name found := by
  have hFound : role available name = .ok found ↔ available.find? (·.name = name) = some found := by
    unfold role
    cases available.find? (·.name = name) <;> simp
  rw [hFound, List.find?_eq_some_iff_append]
  simp only [decide_eq_true_eq, Bool.not_eq_true', decide_eq_false_iff_not, IsFirst]
  constructor
  · rintro ⟨hName, before, after, hSplit, hOthers⟩
    exact ⟨before, after, hSplit, hName, hOthers⟩
  · rintro ⟨before, after, hSplit, hName, hOthers⟩
    exact ⟨hName, before, after, hSplit, hOthers⟩

/-- A name has no role when the listing lacks it. -/
lemma role_eq_error_iff {e : Error} :
    role available name = .error e ↔ Lacks available name ∧ e = unavailable name := by
  have hFailed : role available name = .error e ↔
      available.find? (·.name = name) = none ∧ e = unavailable name := by
    unfold role
    cases available.find? (·.name = name) <;> simp [unavailable, eq_comm]
  rw [hFailed, List.find?_eq_none]
  simp only [decide_eq_true_eq, Lacks, ne_eq]

/-- The roles of names are the first ones. -/
lemma roles_eq_ok_iff {found : List PolicyRole} :
    roles available names = .ok found ↔ List.Forall₂ (IsFirst available) names found := by
  simp only [roles, mapM_eq_ok_iff, role_eq_ok_iff]

/-- Names have no roles when the listing lacks one of them; the error is that of the first it
lacks. -/
lemma roles_eq_error_iff {e : Error} :
    roles available names = .error e ↔ ∃ before name after found,
      names = before ++ name :: after ∧ List.Forall₂ (IsFirst available) before found ∧
        Lacks available name ∧ e = unavailable name := by
  simp only [roles, mapM_eq_error_iff, role_eq_ok_iff, role_eq_error_iff]

end Resolve

/-! ## Sources -/

/-- Where roles are listed. -/
inductive RoleSource where
  /-- The roles of the platform. -/
  | system
  /-- The roles that a service defines. -/
  | service (serviceClass : String)
  /-- The custom roles of the account, of one service or of all. -/
  | custom (serviceClass : String)

namespace RoleSource

/-- The source of the roles that are defined for a service, or by the platform where no service is
named. -/
def ofClass (serviceClass : String) : RoleSource :=
  if serviceClass = "" then .system else .service serviceClass

/-- The call that lists a source. -/
@[reducible] def call (scope : Scope) : RoleSource → Directory.Call
  | .system => .systemRoles
  | .service serviceClass => .serviceRoles serviceClass
  | .custom serviceClass => .listRoles scope.accountId serviceClass

/-- The roles that a call lists. -/
def roles (scope : Scope) : (source : RoleSource) → (source.call scope).Value → List PolicyRole
  | .system, listed => listed
  | .service _, listed => listed
  | .custom _, listed => listed.map (·.asPolicyRole)

/-- The name of the call in errors. -/
def operation : RoleSource → String
  | .system => "list service roles"
  | .service _ => "list service roles"
  | .custom _ => "list custom roles"

/-- The roles of a source. -/
def list (scope : Scope) (source : RoleSource) : Pass (List PolicyRole) :=
  source.roles scope <$> Pass.remote source.operation (source.call scope)

/-- The roles of names in a source. -/
def find (scope : Scope) (source : RoleSource) (names : List String) : Pass (List PolicyRole) := do
  Resolve.roles (← source.list scope) names

/-- An exchange in which a source lists roles. -/
def Lists (scope : Scope) (source : RoleSource) (available : List PolicyRole)
    (y : Exchange Pass.interface) : Prop :=
  ∃ listed, y = ⟨.directory (source.call scope), .ok listed⟩ ∧ available = source.roles scope listed

/-- Names are found in a source that has a role of each; these are the first ones. -/
inductive Finds (scope : Scope) (source : RoleSource) (names : List String) :
    List (Exchange Pass.interface) → List PolicyRole → Prop
  | listed {y : Exchange Pass.interface} {available found : List PolicyRole}
    (hLists : source.Lists scope available y)
    (hFirst : List.Forall₂ (IsFirst available) names found) : Finds scope source names [y] found

/-- Names are not found in a source that cannot be listed, or that lacks one of them. -/
inductive Fails (scope : Scope) (source : RoleSource) (names : List String) :
    List (Exchange Pass.interface) → Error → Prop
  | unlisted (e : RemoteError) :
    Fails scope source names [⟨.directory (source.call scope), .error e⟩]
      (.remote source.operation e)
  | lacking {y : Exchange Pass.interface} {available found : List PolicyRole}
    {before after : List String} {name : String} (hLists : source.Lists scope available y)
    (hNames : names = before ++ name :: after)
    (hFirst : List.Forall₂ (IsFirst available) before found) (hLacks : Lacks available name) :
    Fails scope source names [y] (unavailable name)

variable {scope : Scope} {source : RoleSource} {names : List String}
    {h : List (Exchange Pass.interface)}

/-- Looking up names in a source is listing it and resolving the names. -/
lemma find_eq (source : RoleSource) :
    source.find scope names = Pass.remote source.operation (source.call scope) >>= fun listed =>
      liftM (Resolve.roles (source.roles scope listed) names) := by
  simp [find, list]

/-- A source is listed in one exchange. -/
lemma traces_list_ok_iff {available : List PolicyRole} :
    Pass.Traces (source.list scope) h (.ok available) ↔ ∃ y, source.Lists scope available y ∧
      h = [y] := by
  unfold list
  rw [Pass.traces_map_iff]
  constructor
  · rintro ⟨_, hTrace, hValue⟩
    obtain ⟨e | listed, rfl, rfl⟩ := Pass.traces_remote_iff.1 hTrace
    · cases hValue
    · cases hValue
      exact ⟨_, ⟨listed, rfl, rfl⟩, rfl⟩
  · rintro ⟨_, ⟨listed, rfl, rfl⟩, rfl⟩
    exact ⟨.ok listed, Pass.traces_remote_iff.2 ⟨.ok listed, rfl, rfl⟩, rfl⟩

/-- A source is not listed when its call fails. -/
lemma traces_list_error_iff {e : Error} :
    Pass.Traces (source.list scope) h (.error e) ↔
      ∃ cause, h = [⟨.directory (source.call scope), .error cause⟩] ∧
      e = .remote source.operation cause := by
  unfold list
  rw [Pass.traces_map_iff]
  constructor
  · rintro ⟨_, hTrace, hError⟩
    obtain ⟨cause | listed, rfl, rfl⟩ := Pass.traces_remote_iff.1 hTrace
    · cases hError
      exact ⟨cause, rfl, rfl⟩
    · cases hError
  · rintro ⟨cause, rfl, rfl⟩
    exact ⟨_, Pass.traces_remote_iff.2 ⟨.error cause, rfl, rfl⟩, rfl⟩

/-- The roles of names are those that are found. -/
lemma traces_find_ok_iff {found : List PolicyRole} :
    Pass.Traces (source.find scope names) h (.ok found) ↔ source.Finds scope names h found := by
  unfold find
  rw [Pass.traces_bind_ok_iff]
  constructor
  · rintro ⟨first, available, rest, hList, hRoles, rfl⟩
    obtain ⟨y, hLists, rfl⟩ := traces_list_ok_iff.1 hList
    obtain ⟨rfl, hFound⟩ := Pass.traces_liftExcept_iff.1 hRoles
    exact .listed hLists (Resolve.roles_eq_ok_iff.1 hFound.symm)
  · rintro ⟨hLists, hFirst⟩
    refine ⟨_, _, [], traces_list_ok_iff.2 ⟨_, hLists, rfl⟩, ?_, rfl⟩
    exact Pass.traces_liftExcept_iff.2 ⟨rfl, (Resolve.roles_eq_ok_iff.2 hFirst).symm⟩

/-- The error is that for which names are not found. -/
lemma traces_find_error_iff {e : Error} :
    Pass.Traces (source.find scope names) h (.error e) ↔ source.Fails scope names h e := by
  unfold find
  rw [Pass.traces_bind_error_iff]
  constructor
  · rintro (hList | ⟨first, available, rest, hList, hRoles, rfl⟩)
    · obtain ⟨cause, rfl, rfl⟩ := traces_list_error_iff.1 hList
      exact .unlisted cause
    · obtain ⟨y, hLists, rfl⟩ := traces_list_ok_iff.1 hList
      obtain ⟨rfl, hError⟩ := Pass.traces_liftExcept_iff.1 hRoles
      obtain ⟨before, name, after, found, hNames, hFirst, hLacks, rfl⟩ :=
        Resolve.roles_eq_error_iff.1 hError.symm
      exact .lacking hLists hNames hFirst hLacks
  · rintro (cause | ⟨hLists, hNames, hFirst, hLacks⟩)
    · exact .inl (traces_list_error_iff.2 ⟨cause, rfl, rfl⟩)
    · refine .inr ⟨_, _, [], traces_list_ok_iff.2 ⟨_, hLists, rfl⟩, ?_, rfl⟩
      have hError := Resolve.roles_eq_error_iff.2 ⟨_, _, _, _, hNames, hFirst, hLacks, rfl⟩
      exact Pass.traces_liftExcept_iff.2 ⟨rfl, hError.symm⟩

end RoleSource

/-! ## Look-ups -/

/-- The namespace of a reference, which is the policy's own where it names none. -/
def CustomRoleRef.nsIn (scope : Scope) (ref : CustomRoleRef) : String :=
  if ref.ns = "" then scope.ns else ref.ns

/-- A step of the resolution of roles: names that are looked up in a source, or a reference that is
followed. -/
inductive RoleLookup where
  | listed (source : RoleSource) (names : List String)
  | declared (ref : CustomRoleRef)

namespace RoleLookup

/-- The roles of a look-up. -/
def find (scope : Scope) : RoleLookup → Pass (List PolicyRole)
  | listed source names => source.find scope names
  | declared ref => do
    match ← Pass.lookUpRole (ref.nsIn scope) ref.name with
    | none =>
        throw (.resolution ("custom role " ++ ref.nsIn scope ++ "/" ++ ref.name)
          "resource does not exist")
    | some custom =>
        (RoleSource.custom custom.spec.serviceClass).find scope [custom.spec.displayName]

/-- What a look-up finds.  A reference leads to a declaration, whose display name is then looked up
among the custom roles of its service. -/
inductive Finds (scope : Scope) : RoleLookup → List (Exchange Pass.interface) →
    List PolicyRole → Prop
  | listed {source : RoleSource} {names : List String} {h : List (Exchange Pass.interface)}
    {found : List PolicyRole}
    (hFinds : source.Finds scope names h found) : Finds scope (.listed source names) h found
  | declared {ref : CustomRoleRef} {custom : Resource .customRole}
    {h : List (Exchange Pass.interface)} {found : List PolicyRole}
    (hFinds : (RoleSource.custom custom.spec.serviceClass).Finds scope
      [custom.spec.displayName] h found) :
    Finds scope (.declared ref)
      (⟨.reference (.customRole (ref.nsIn scope) ref.name), .ok (some custom)⟩ :: h) found

/-- Why a look-up fails, with its last exchange.  A reference fails when it cannot be followed, when
it leads nowhere, and when the name that it leads to is not found. -/
inductive Fails (scope : Scope) : RoleLookup → List (Exchange Pass.interface) → Error → Prop
  | listed {source : RoleSource} {names : List String} {h : List (Exchange Pass.interface)}
    {e : Error} (hFails : source.Fails scope names h e) : Fails scope (.listed source names) h e
  | unread {ref : CustomRoleRef} (e : Error) :
    Fails scope (.declared ref) [⟨.reference (.customRole (ref.nsIn scope) ref.name), .error e⟩] e
  | absent (ref : CustomRoleRef) :
    Fails scope (.declared ref) [⟨.reference (.customRole (ref.nsIn scope) ref.name), .ok none⟩]
      (.resolution ("custom role " ++ ref.nsIn scope ++ "/" ++ ref.name) "resource does not exist")
  | declared {ref : CustomRoleRef} {custom : Resource .customRole}
    {h : List (Exchange Pass.interface)} {e : Error}
    (hFails : (RoleSource.custom custom.spec.serviceClass).Fails scope
      [custom.spec.displayName] h e) :
    Fails scope (.declared ref)
      (⟨.reference (.customRole (ref.nsIn scope) ref.name), .ok (some custom)⟩ :: h) e

variable {scope : Scope} {lookup : RoleLookup} {h : List (Exchange Pass.interface)}

/-- The roles of a look-up are those that it finds. -/
lemma traces_find_ok_iff {found : List PolicyRole} :
    Pass.Traces (lookup.find scope) h (.ok found) ↔ lookup.Finds scope h found := by
  cases lookup with
  | listed source names =>
    constructor
    · exact fun hTrace => .listed (RoleSource.traces_find_ok_iff.1 hTrace)
    · rintro ⟨hFinds⟩
      exact RoleSource.traces_find_ok_iff.2 hFinds
  | declared ref =>
    unfold find
    rw [Pass.traces_bind_ok_iff]
    simp only [Pass.traces_lookUpRole_iff]
    constructor
    · rintro ⟨_, declaration, rest, rfl, hRest, rfl⟩
      cases declaration with
      | none => cases (Pass.traces_throw_iff.1 hRest).2
      | some declaration => exact .declared (RoleSource.traces_find_ok_iff.1 hRest)
    · intro hFinds
      cases hFinds with
      | declared hFinds => exact ⟨_, some _, _, rfl, RoleSource.traces_find_ok_iff.2 hFinds, rfl⟩

/-- The error of a look-up is that for which it fails. -/
lemma traces_find_error_iff {e : Error} :
    Pass.Traces (lookup.find scope) h (.error e) ↔ lookup.Fails scope h e := by
  cases lookup with
  | listed source names =>
    constructor
    · exact fun hTrace => .listed (RoleSource.traces_find_error_iff.1 hTrace)
    · rintro ⟨hFails⟩
      exact RoleSource.traces_find_error_iff.2 hFails
  | declared ref =>
    unfold find
    rw [Pass.traces_bind_error_iff]
    simp only [Pass.traces_lookUpRole_iff]
    constructor
    · rintro (rfl | ⟨_, declaration, rest, rfl, hRest, rfl⟩)
      · exact .unread e
      · cases declaration with
        | none =>
          obtain ⟨rfl, hError⟩ := Pass.traces_throw_iff.1 hRest
          cases hError
          exact .absent ref
        | some declaration => exact .declared (RoleSource.traces_find_error_iff.1 hRest)
    · intro hFails
      cases hFails with
      | unread => exact .inl rfl
      | absent => exact .inr ⟨_, none, [], rfl, Pass.traces_throw_iff.2 ⟨rfl, rfl⟩, rfl⟩
      | declared hFails =>
          exact .inr ⟨_, some _, _, rfl, RoleSource.traces_find_error_iff.2 hFails, rfl⟩

/-- The roles of some look-ups, which are made one after another. -/
def findAll (scope : Scope) : List RoleLookup → Pass (List PolicyRole)
  | [] => pure []
  | lookup :: rest => do
    let found ← lookup.find scope
    let others ← findAll scope rest
    pure (found ++ others)

/-- A single look-up is that look-up. -/
lemma findAll_singleton (lookup : RoleLookup) : findAll scope [lookup] = lookup.find scope := by
  simp [findAll]

/-- All look-ups of a list find roles, one after another. -/
inductive Completes (scope : Scope) : List RoleLookup → List (Exchange Pass.interface) →
    List PolicyRole → Prop
  | nil : Completes scope [] [] []
  | cons {lookup : RoleLookup} {rest : List RoleLookup}
    {first last : List (Exchange Pass.interface)} {found others : List PolicyRole}
    (hFinds : lookup.Finds scope first found) (hRest : Completes scope rest last others) :
    Completes scope (lookup :: rest) (first ++ last) (found ++ others)

/-- The look-ups of a list find roles until one fails, which is the last that is made. -/
inductive Breaks (scope : Scope) : List RoleLookup → List (Exchange Pass.interface) → Error → Prop
  | here {lookup : RoleLookup} {rest : List RoleLookup} {h : List (Exchange Pass.interface)}
    {e : Error} (hFails : lookup.Fails scope h e) : Breaks scope (lookup :: rest) h e
  | later {lookup : RoleLookup} {rest : List RoleLookup}
    {first last : List (Exchange Pass.interface)} {found : List PolicyRole} {e : Error}
    (hFinds : lookup.Finds scope first found) (hRest : Breaks scope rest last e) :
    Breaks scope (lookup :: rest) (first ++ last) e

variable {lookups : List RoleLookup}

/-- Look-ups have the roles with which they are completed. -/
lemma traces_findAll_ok_iff {granted : List PolicyRole} :
    Pass.Traces (findAll scope lookups) h (.ok granted) ↔ Completes scope lookups h granted := by
  induction lookups generalizing h granted with
  | nil =>
    unfold findAll
    rw [Pass.traces_pure_iff]
    constructor
    · rintro ⟨rfl, hValue⟩
      cases hValue
      exact .nil
    · rintro ⟨⟩
      exact ⟨rfl, rfl⟩
  | cons lookup rest ih =>
    unfold findAll
    simp only [Pass.traces_bind_ok_iff, Pass.traces_pure_iff, traces_find_ok_iff, ih]
    constructor
    · rintro ⟨first, found, _, hFinds, ⟨last, others, _, hRest, ⟨rfl, hValue⟩, rfl⟩, rfl⟩
      cases hValue
      rw [List.append_nil]
      exact .cons hFinds hRest
    · intro hCompletes
      cases hCompletes with
      | @cons _ _ first last found others hFinds hRest =>
        refine ⟨first, found, last, hFinds, ⟨last, others, [], hRest, ⟨rfl, rfl⟩, ?_⟩, rfl⟩
        exact (List.append_nil last).symm

/-- Look-ups have the error with which they are broken off. -/
lemma traces_findAll_error_iff {e : Error} :
    Pass.Traces (findAll scope lookups) h (.error e) ↔ Breaks scope lookups h e := by
  induction lookups generalizing h with
  | nil =>
    unfold findAll
    rw [Pass.traces_pure_iff]
    constructor
    · rintro ⟨_, hError⟩
      cases hError
    · rintro ⟨⟩
  | cons lookup rest ih =>
    unfold findAll
    simp only [Pass.traces_bind_error_iff, Pass.traces_pure_iff, traces_find_ok_iff,
      traces_find_error_iff, ih]
    constructor
    · rintro (hFails | ⟨first, found, last, hFinds, hBreaks | ⟨_, _, _, _, ⟨_, hError⟩, _⟩, rfl⟩)
      · exact .here hFails
      · exact .later hFinds hBreaks
      · cases hError
    · intro hBreaks
      cases hBreaks with
      | here hFails => exact .inl hFails
      | later hFinds hRest => exact .inr ⟨_, _, _, hFinds, .inl hRest, rfl⟩

/-- Look-ups are made one after another. -/
lemma findAll_append (before after : List RoleLookup) :
    findAll scope (before ++ after) =
      (findAll scope before >>= fun found => findAll scope after >>= fun others =>
        pure (found ++ others)) := by
  induction before with
  | nil => simp [findAll]
  | cons lookup rest ih =>
      simp only [findAll, List.cons_append, ih, bind_assoc, pure_bind, List.append_assoc]

/-- Look-ups are completed in the order of their list. -/
lemma completes_append_iff {before after : List RoleLookup} {granted : List PolicyRole} :
    Completes scope (before ++ after) h granted ↔ ∃ first found last others,
      Completes scope before first found ∧ Completes scope after last others ∧ h = first ++ last ∧
      granted = found ++ others := by
  constructor
  · intro hCompletes
    induction before generalizing h granted with
    | nil => exact ⟨[], [], h, granted, .nil, hCompletes, rfl, rfl⟩
    | cons lookup rest ih =>
      cases hCompletes with
      | cons hFinds hRest =>
        obtain ⟨first, found, last, others, hBefore, hAfter, rfl, rfl⟩ := ih hRest
        exact ⟨_, _, last, others, .cons hFinds hBefore, hAfter, (List.append_assoc ..).symm,
          (List.append_assoc ..).symm⟩
  · rintro ⟨first, found, last, others, hBefore, hAfter, rfl, rfl⟩
    induction hBefore with
    | nil => exact hAfter
    | cons hFinds _ ih =>
      rw [List.append_assoc, List.append_assoc]
      exact .cons hFinds ih

/-- Look-ups are broken off at one of them, when all before it are completed. -/
lemma breaks_iff {e : Error} :
    Breaks scope lookups h e ↔ ∃ before lookup after first found last, lookups = before ++
      lookup :: after ∧ Completes scope before first found ∧ lookup.Fails scope last e ∧
      h = first ++ last := by
  constructor
  · intro hBreaks
    induction hBreaks with
    | @here lookup rest h _ hFails => exact ⟨[], lookup, rest, [], [], h, rfl, .nil, hFails, rfl⟩
    | @later lookup _ first _ _ _ hFinds _ ih =>
      obtain ⟨before, broken, after, middle, found, last, rfl, hBefore, hFails, rfl⟩ := ih
      exact ⟨lookup :: before, broken, after, _, _, last, rfl, .cons hFinds hBefore, hFails,
        (List.append_assoc ..).symm⟩
  · rintro ⟨before, lookup, after, first, found, last, rfl, hBefore, hFails, rfl⟩
    induction hBefore with
    | nil => exact .here hFails
    | cons hFinds _ ih =>
      rw [List.append_assoc]
      exact .later hFinds ih

end RoleLookup

/-! ## Roles of a policy -/

/-- The look-ups of the roles that a policy asks for on a service: the names of each list that is
not empty, and the references one by one. -/
def PolicyRoles.lookups (serviceClass : String) (roles : PolicyRoles) : List RoleLookup :=
  (if roles.definedRoles = [] then [] else [.listed (.ofClass serviceClass) roles.definedRoles]) ++
    (if roles.customRoleNames = [] then [] else [.listed (.custom "") roles.customRoleNames]) ++
      roles.customRoleRefs.map .declared

namespace AccessPolicies

variable {scope : Scope} {serviceClass : String} {names : List String}

/-- Defined roles are looked up in the catalog of the service, or in that of the platform. -/
lemma definedRoles_eq :
    definedRoles serviceClass names = RoleLookup.findAll scope (if names = [] then
      [] else [.listed (.ofClass serviceClass) names]) := by
  unfold definedRoles
  by_cases hNames : names = []
  · rw [if_pos hNames, if_pos (List.isEmpty_iff.2 hNames)]
    rfl
  rw [if_neg hNames, if_neg fun h => hNames (List.isEmpty_iff.1 h), RoleLookup.findAll_singleton]
  by_cases hClass : serviceClass = ""
  · have hSource : RoleSource.ofClass serviceClass = .system := if_pos hClass
    rw [hSource, if_pos (String.isEmpty_iff.2 hClass)]
    exact (RoleSource.find_eq (.system)).symm
  · have hSource : RoleSource.ofClass serviceClass = .service serviceClass := if_neg hClass
    rw [hSource, if_neg fun h => hClass (String.isEmpty_iff.1 h)]
    exact (RoleSource.find_eq (.service serviceClass)).symm

/-- Custom roles are looked up among those of the account. -/
lemma namedRoles_eq :
    namedRoles scope names =
      RoleLookup.findAll scope (if names = [] then [] else [.listed (.custom "") names]) := by
  unfold namedRoles
  by_cases hNames : names = []
  · rw [if_pos hNames, if_pos (List.isEmpty_iff.2 hNames)]
    rfl
  rw [if_neg hNames, if_neg fun h => hNames (List.isEmpty_iff.1 h), RoleLookup.findAll_singleton]
  simp only [customRoles, bind_assoc, pure_bind]
  exact (RoleSource.find_eq (.custom "")).symm

/-- A declared role is looked up by its display name among the custom roles of its service. -/
lemma find_declared (ref : CustomRoleRef) :
    (RoleLookup.declared ref).find scope = (fun role => [role]) <$> declaredRole scope ref := by
  have hNamespace : orNamespace ref.ns scope.ns = ref.nsIn scope := by
    simp [orNamespace, CustomRoleRef.nsIn]
  have hSingle (available : List PolicyRole) (name : String) :
      (liftM (Resolve.roles available [name]) : Pass (List PolicyRole)) =
        (fun role => [role]) <$> (liftM (Resolve.role available name) : Pass PolicyRole) := by
    rw [Resolve.roles, List.mapM_cons, List.mapM_nil]
    cases Resolve.role available name <;> rfl
  simp only [RoleLookup.find, declaredRole, hNamespace, map_bind]
  refine bind_congr fun found => ?_
  cases found with
  | none => rfl
  | some custom =>
    simp only [RoleSource.find_eq, hSingle, customRoles, map_bind, bind_assoc, pure_bind]
    rfl

/-- Declared roles are looked up one by one. -/
lemma declaredRoles_eq (refs : List CustomRoleRef) :
    refs.mapM (declaredRole scope) = RoleLookup.findAll scope (refs.map .declared) := by
  induction refs with
  | nil => rfl
  | cons ref rest ih =>
    simp only [List.mapM_cons, List.map_cons, RoleLookup.findAll, find_declared, ih, bind_map_left,
      List.cons_append, List.nil_append]

/-- The roles that a policy grants are found by its look-ups, one after another. -/
theorem grantedRoles_eq (roles : PolicyRoles) :
    grantedRoles scope serviceClass roles = RoleLookup.findAll scope
      (roles.lookups serviceClass) := by
  unfold grantedRoles PolicyRoles.lookups
  rw [RoleLookup.findAll_append, RoleLookup.findAll_append, ← definedRoles_eq, ← namedRoles_eq,
    ← declaredRoles_eq]
  simp only [bind_assoc, pure_bind, List.append_assoc]

end AccessPolicies

/-! ## What is granted -/

/-- A role that a policy asks for. -/
inductive RoleDemand where
  | defined (name : String)
  | custom (name : String)
  | declared (ref : CustomRoleRef)

/-- The roles that a policy asks for, in their order. -/
def PolicyRoles.demands (roles : PolicyRoles) : List RoleDemand :=
  roles.definedRoles.map .defined ++ roles.customRoleNames.map .custom ++
    roles.customRoleRefs.map .declared

/-- In some exchanges a source has listed a role as the first of its name. -/
def RoleSource.Offers (scope : Scope) (source : RoleSource) (h : List (Exchange Pass.interface))
    (name : String) (role : PolicyRole) : Prop :=
  ∃ y ∈ h, ∃ available, source.Lists scope available y ∧ IsFirst available name role

namespace RoleDemand

/-- A role is what was asked for: the first of its name in the catalog of the service or of the
platform, among the custom roles of the account, or, after a reference was followed, among the
custom roles of the declared service. -/
inductive Met (scope : Scope) (serviceClass : String) (h : List (Exchange Pass.interface)) :
    RoleDemand → PolicyRole → Prop
  | defined {name : String} {role : PolicyRole}
      (hOffers : (RoleSource.ofClass serviceClass).Offers scope h name role) :
    Met scope serviceClass h (.defined name) role
  | custom {name : String} {role : PolicyRole}
      (hOffers : (RoleSource.custom "").Offers scope h name role) :
    Met scope serviceClass h (.custom name) role
  | declared {ref : CustomRoleRef} {role : PolicyRole} {declaration : Resource .customRole}
    {y : Exchange Pass.interface}
    (hCalls : [⟨.reference (.customRole (ref.nsIn scope) ref.name), .ok (some declaration)⟩, y] <:+:
      h)
    (hOffers : (RoleSource.custom declaration.spec.serviceClass).Offers scope
      [y] declaration.spec.displayName role) :
    Met scope serviceClass h (.declared ref) role

variable {scope : Scope} {serviceClass : String} {h : List (Exchange Pass.interface)}
    {granted : List PolicyRole}

/-- A demand that is met in some exchanges is met when there are others around them. -/
lemma Met.mono {demand : RoleDemand} {role : PolicyRole} {more : List (Exchange Pass.interface)}
    (hMet : demand.Met scope serviceClass h role) (hInfix : h <:+: more) :
    demand.Met scope serviceClass more role := by
  have hOffers {source : RoleSource} {name : String} :
      source.Offers scope h name role → source.Offers scope more name role := by
    rintro ⟨y, hMem, hListed⟩
    exact ⟨y, hInfix.subset hMem, hListed⟩
  cases hMet with
  | defined hOffered => exact .defined (hOffers hOffered)
  | custom hOffered => exact .custom (hOffers hOffered)
  | declared hCalls hOffered => exact .declared (hCalls.trans hInfix) hOffered

/-- Names that are found in a source are offered by it. -/
lemma offers_of_finds {source : RoleSource} {names : List String}
    (hFinds : source.Finds scope names h granted) :
    List.Forall₂ (source.Offers scope h) names granted := by
  obtain ⟨hLists, hFirst⟩ := hFinds
  exact hFirst.imp fun _ _ hIsFirst => ⟨_, List.mem_cons_self, _, hLists, hIsFirst⟩

/-- Names whose look-up is completed are offered by their source. -/
lemma offers_of_completes {source : RoleSource} {names : List String}
    (hCompletes : RoleLookup.Completes scope (if names = [] then
      [] else [.listed source names]) h granted) :
    List.Forall₂ (source.Offers scope h) names granted := by
  by_cases hNames : names = []
  · rw [if_pos hNames] at hCompletes
    cases hCompletes
    rw [hNames]
    exact .nil
  · rw [if_neg hNames] at hCompletes
    obtain ⟨⟩ | ⟨⟨hFinds⟩, ⟨⟩⟩ := hCompletes
    rw [List.append_nil, List.append_nil]
    exact offers_of_finds hFinds

/-- References whose look-ups are completed are met. -/
lemma met_of_completes {refs : List CustomRoleRef}
    (hCompletes : RoleLookup.Completes scope (refs.map .declared) h granted) :
    List.Forall₂ (fun ref role => (declared ref).Met scope serviceClass h role) refs granted := by
  induction refs generalizing h granted with
  | nil =>
    cases hCompletes
    exact .nil
  | cons ref rest ih =>
    cases hCompletes with
    | @cons _ _ first last _ others hFinds hRest =>
      have hOthers : List.Forall₂ (fun ref role => (declared ref).Met scope serviceClass
        (first ++ last) role) rest
          others := (ih hRest).imp fun _ _ hMet => hMet.mono (List.suffix_append first last).isInfix
      cases hFinds with
      | @declared _ declaration calls _ hFinds =>
        obtain ⟨hLists, hFirst⟩ := hFinds
        cases hFirst with
        | @cons _ role _ _ hIsFirst hNone =>
          cases hNone
          refine .cons (.declared (List.prefix_append _ last).isInfix ?_) hOthers
          exact ⟨_, List.mem_cons_self, _, hLists, hIsFirst⟩

/-- When all look-ups of a policy are completed, each demand is met by one role, in their order. -/
lemma met_of_lookups {roles : PolicyRoles}
    (hCompletes : RoleLookup.Completes scope (roles.lookups serviceClass) h granted) :
    List.Forall₂ (Met scope serviceClass h) roles.demands granted := by
  obtain ⟨early, _, last, declared, hNames, hDeclared, rfl, rfl⟩ :=
    RoleLookup.completes_append_iff.1 hCompletes
  obtain ⟨first, defined, middle, custom, hDefined, hCustom, rfl, rfl⟩ :=
    RoleLookup.completes_append_iff.1 hNames
  have hEarly : first ++ middle <:+: first ++ middle ++ last := (List.prefix_append _ last).isInfix
  have hFirst : first <:+: first ++ middle ++ last :=
    (List.prefix_append first middle).isInfix.trans hEarly
  have hMiddle : middle <:+: first ++ middle ++ last :=
    (List.suffix_append first middle).isInfix.trans hEarly
  have hLast : last <:+: first ++ middle ++ last := (List.suffix_append _ last).isInfix
  refine List.rel_append (List.rel_append ?_ ?_) ?_
  · exact List.forall₂_map_left_iff.2 ((offers_of_completes hDefined).imp fun _ _ h =>
      (Met.defined h).mono hFirst)
  · exact List.forall₂_map_left_iff.2 ((offers_of_completes hCustom).imp fun _ _ h =>
      (Met.custom h).mono hMiddle)
  · exact List.forall₂_map_left_iff.2 ((met_of_completes hDeclared).imp fun _ _ h => h.mono hLast)

end RoleDemand

namespace AccessPolicies

variable {scope : Scope} {spec : AccessPolicySpec} {h : List (Exchange Pass.interface)}

/-- A well-formed policy asks for some role. -/
lemma demands_ne_nil (hValid : Kind.accessPolicy.validate spec = .ok ()) :
    spec.roles.demands ≠ [] := by
  intro hNone
  have hRules := Rule.check_eq_ok_iff.1 hValid
  have hSome : spec.roles.isEmpty = false := hRules _ (List.mem_cons_of_mem _ List.mem_cons_self)
  simp only [PolicyRoles.demands, List.append_eq_nil_iff, List.map_eq_nil_iff] at hNone
  simp [PolicyRoles.isEmpty, hNone] at hSome

/-- **A policy grants exactly the roles that it asks for.**  Its roles are resolved with a result
exactly when all look-ups find roles; then some role is granted, one for each that was asked for and
in that order, and each is the first of its name where it was to be found.  They are resolved with
an error exactly when a look-up fails, because a call failed, a reference led nowhere or a name was
lacking; the look-ups before it found roles, the error is that of the failure, and nothing was
called after it. -/
theorem grants_as_requested (hValid : Kind.accessPolicy.validate spec = .ok ()) (scope : Scope)
    (h : List (Exchange Pass.interface)) :
    (∀ granted,
      Pass.Traces (grantedRoles scope spec.target.serviceClass spec.roles) h (.ok granted) ↔
        RoleLookup.Completes scope (spec.roles.lookups spec.target.serviceClass) h granted) ∧
      (∀ granted,
        Pass.Traces (grantedRoles scope spec.target.serviceClass spec.roles) h (.ok granted) →
          granted ≠ [] ∧
            List.Forall₂ (RoleDemand.Met scope spec.target.serviceClass h)
              spec.roles.demands granted) ∧
        ∀ e, Pass.Traces (grantedRoles scope spec.target.serviceClass spec.roles) h (.error e) ↔
          ∃ before lookup after first found last,
            spec.roles.lookups spec.target.serviceClass = before ++ lookup :: after ∧
              RoleLookup.Completes scope before first found ∧ lookup.Fails scope last e ∧
              h = first ++ last := by
  have hCompletes (granted : List PolicyRole) :
      Pass.Traces (grantedRoles scope spec.target.serviceClass spec.roles) h (.ok granted) ↔
        RoleLookup.Completes scope (spec.roles.lookups spec.target.serviceClass) h granted := by
    rw [grantedRoles_eq, RoleLookup.traces_findAll_ok_iff]
  refine ⟨hCompletes, fun granted hTrace => ?_, fun e => ?_⟩
  · have hMet := RoleDemand.met_of_lookups ((hCompletes granted).1 hTrace)
    refine ⟨?_, hMet⟩
    rintro rfl
    exact demands_ne_nil hValid (List.forall₂_nil_right_iff.1 hMet)
  · rw [grantedRoles_eq, RoleLookup.traces_findAll_error_iff, RoleLookup.breaks_iff]

/-- A policy that asks for a role of the service and for a declared role. -/
def readerPolicy : AccessPolicySpec where
  subject := { PolicySubject.blank with serviceId := "svc" }
  roles := ⟨["Viewer"], [], [⟨"reader", ""⟩]⟩
  target := { PolicyTarget.blank with serviceClass := "kms" }

/-- The declaration of the role. -/
def declaredReader : Resource .customRole where
  metadata := {}
  spec := ⟨"BucketReader", "storage", "Bucket Reader", "", ["get"]⟩
  status := none

/-- The calls that find both roles; the service has two roles of one name. -/
def readerCalls : List (Exchange Pass.interface) :=
  [ ⟨.directory (.serviceRoles "kms"), .ok [⟨"crn:viewer", "Viewer"⟩, ⟨"crn:other", "Viewer"⟩]⟩,
    ⟨.reference (.customRole "team-a" "reader"), .ok (some declaredReader)⟩,
    ⟨.directory (.listRoles "account" "storage"),
      .ok [⟨"role-1", "crn:reader", "BucketReader", "storage", "Bucket Reader", "", ["get"]⟩]⟩ ]

/-- The calls that find the first role and no declaration. -/
def strayCalls : List (Exchange Pass.interface) :=
  [ ⟨.directory (.serviceRoles "kms"), .ok [⟨"crn:viewer", "Viewer"⟩]⟩,
    ⟨.reference (.customRole "team-a" "reader"), .ok none⟩ ]

/-- The policy is granted the first of the two roles of one name and the declared role; without the
declaration it is granted nothing, and the look-up that fails is that of the reference. -/
theorem grants_as_requested_of_reader :
    List.Forall₂ (RoleDemand.Met ⟨⟨"account"⟩, "team-a"⟩ "kms" readerCalls)
        [.defined "Viewer", .declared ⟨"reader", ""⟩]
        [⟨"crn:viewer", "Viewer"⟩, ⟨"crn:reader", "Bucket Reader"⟩] ∧
      ∃ before lookup after first found last,
        readerPolicy.roles.lookups "kms" = before ++ lookup :: after ∧
          RoleLookup.Completes ⟨⟨"account"⟩, "team-a"⟩ before first found ∧
          lookup.Fails ⟨⟨"account"⟩, "team-a"⟩ last
            (.resolution "custom role team-a/reader" "resource does not exist") ∧
            strayCalls = first ++ last := by
  have hValid : Kind.accessPolicy.validate readerPolicy = .ok () := rfl
  have hGranted :
    Pass.Traces (grantedRoles ⟨⟨"account"⟩, "team-a"⟩ "kms" readerPolicy.roles) readerCalls
      (.ok [⟨"crn:viewer", "Viewer"⟩, ⟨"crn:reader", "Bucket Reader"⟩]) :=
    .answered _ <| .answered _ <| .answered _ <| .done _ _
  have hRefused :
    Pass.Traces (grantedRoles ⟨⟨"account"⟩, "team-a"⟩ "kms" readerPolicy.roles) strayCalls
      (.error (.resolution "custom role team-a/reader" "resource does not exist")) :=
    .answered _ <| .answered _ <| .done _ _
  exact ⟨((grants_as_requested hValid ⟨⟨"account"⟩, "team-a"⟩ readerCalls).2.1 _ hGranted).2,
    ((grants_as_requested hValid ⟨⟨"account"⟩, "team-a"⟩ strayCalls).2.2 _).1 hRefused⟩

end AccessPolicies

end IamReconciler
