import IamReconciler.Proofs.Attributes
import IamReconciler.Proofs.Strategy.Agreement
import Mathlib.Data.Set.Image

/-!
# What a comparison sees

A pass compares a remote entity with what an update would make of it.  What it compares is the view
of both: the fields that are managed, where a list counts as the set of its members, attributes
count as the set of their names with their values, and members of groups and granted roles count by
their identifiers.  An entity does not differ from a request exactly when the two have one view, so
that nothing else about them matters.

The second half lists the ways to write a request or an entity differently without changing its
view.  Attributes are set one after another, and the order shows only where a name is given two
values (`Attributes.oneValued_iff`).  The main statement is `comparison_by_views`.
-/

namespace IamReconciler

/-! ## Views -/

namespace Attributes

/-- The attributes as a set of names with their values. -/
def pairs (a : Attributes) : Set (String × String) :=
  {binding | binding ∈ a.toList}

/-- The set has a name with a value when a look-up finds it. -/
lemma mem_pairs_iff {a : Attributes} {name value : String} :
    (name, value) ∈ a.pairs ↔ a.get? name = some value :=
  (Entries.get?_eq_some_iff (Entries.nodup_of_sorted a.map.sorted)).symm

/-- Attributes with the same names and values are equal. -/
lemma pairs_injective : Function.Injective pairs := by
  intro a b hPairs
  refine eq_of_get?_eq fun name => Option.ext fun value => ?_
  rw [← mem_pairs_iff, ← mem_pairs_iff, hPairs]

/-- The members of a list of attributes, as a set of sets. -/
def pairSets (list : List Attributes) : Set (Set (String × String)) :=
  pairs '' {a | a ∈ list}

/-- Lists have the same sets of attributes when they have the same members. -/
lemma pairSets_eq_iff {list others : List Attributes} :
    pairSets list = pairSets others ↔ SameMembers list others := by
  have hInjective : Function.Injective (Set.image pairs) := Set.image_injective.2 pairs_injective
  unfold pairSets
  rw [hInjective.eq_iff, Set.ext_iff]
  exact Iff.rfl

end Attributes

/-- What is compared of a group. -/
structure GroupView where
  name : String
  description : String
  memberIds : Set String

/-- What is compared of a policy. -/
structure PolicyView where
  subjects : Set (Set (String × String))
  roleIds : Set String
  resources : Set (Set (String × String))

/-- What is compared of a custom role. -/
structure RoleView where
  displayName : String
  description : String
  actions : Set String

/-- The view of a group that is asked for. -/
def GroupUpdate.view (u : GroupUpdate) : GroupView :=
  ⟨u.request.name, u.request.description, {id | id ∈ u.memberIds}⟩

/-- The view of a group that was read. -/
def GroupSnapshot.view (s : GroupSnapshot) : GroupView :=
  ⟨s.group.name, s.group.description, {id | id ∈ s.members.map (·.id)}⟩

/-- The view of a policy. -/
def Policy.view (p : Policy) : PolicyView :=
  ⟨Attributes.pairSets p.subjects, {id | id ∈ p.roles.map (·.id)}, Attributes.pairSets p.resources⟩

/-- The view of a custom role that is asked for. -/
def RoleUpdate.view (u : RoleUpdate) : RoleView :=
  ⟨u.displayName, u.description, {action | action ∈ u.actions}⟩

/-- The view of a custom role that was read. -/
def RemoteRole.view (r : RemoteRole) : RoleView :=
  ⟨r.displayName, r.description, {action | action ∈ r.actions}⟩

namespace Kind

/-- What is compared of the entities of a kind. -/
@[reducible] def View : Kind → Type
  | .accessGroup => GroupView
  | .accessPolicy => PolicyView
  | .authorizationPolicy => PolicyView
  | .customRole => RoleView

/-- The view of what is asked for. -/
def requested : (k : Kind) → k.UpdateRequest → k.View
  | .accessGroup => GroupUpdate.view
  | .accessPolicy => Policy.view
  | .authorizationPolicy => Policy.view
  | .customRole => RoleUpdate.view

/-- The view of what was read. -/
def observed : (k : Kind) → k.Remote → k.View
  | .accessGroup => GroupSnapshot.view
  | .accessPolicy => Policy.view
  | .authorizationPolicy => Policy.view
  | .customRole => RemoteRole.view

end Kind

/-! ## Comparisons by views -/

/-- A group does not differ from a request when they have one view. -/
lemma AccessGroups.differs_eq_false_iff_view {desired : GroupUpdate} {remote : GroupSnapshot} :
    differs desired remote = false ↔ desired.view = remote.view := by
  rw [differs_eq_false_iff, GroupUpdate.view, GroupSnapshot.view, GroupView.mk.injEq, Set.ext_iff]
  exact Iff.rfl

/-- Policies do not differ when they have one view. -/
lemma Policies.differs_eq_false_iff_view {desired remote : Policy} :
    differs desired remote = false ↔ desired.view = remote.view := by
  have hMembers : differs desired remote = false ↔ SameMembers desired.subjects remote.subjects ∧
      SameMembers (desired.roles.map (·.id)) (remote.roles.map (·.id)) ∧
        SameMembers desired.resources remote.resources := by
    simp [differs, sameElements_iff, SameMembers, and_assoc]
  rw [hMembers, Policy.view, Policy.view, PolicyView.mk.injEq, Attributes.pairSets_eq_iff,
    Attributes.pairSets_eq_iff, Set.ext_iff]
  exact Iff.rfl

/-- A custom role does not differ from a request when they have one view. -/
lemma CustomRoles.differs_eq_false_iff_view {desired : RoleUpdate} {remote : RemoteRole} :
    differs desired remote = false ↔ desired.view = remote.view := by
  rw [differs_eq_false_iff, RoleUpdate.view, RemoteRole.view, RoleView.mk.injEq, Set.ext_iff]
  exact Iff.rfl

/-- The absence of differences between policies is an equivalence. -/
lemma Policies.equivalence_differs : Equivalence fun p q : Policy => differs p q = false := by
  simp only [differs_eq_false_iff_view]
  constructor
  case refl => exact fun _ => rfl
  case symm => exact Eq.symm
  case trans => exact Eq.trans

namespace Kind

variable {k : Kind}

/-- An entity does not differ from a request exactly when they have one view. -/
lemma differs_eq_false_iff_view {desired : k.UpdateRequest} {remote : k.Remote} :
    k.strategy.differs desired remote = false ↔ k.requested desired = k.observed remote := by
  cases k with
  | accessGroup => exact AccessGroups.differs_eq_false_iff_view
  | accessPolicy => exact Policies.differs_eq_false_iff_view
  | authorizationPolicy => exact Policies.differs_eq_false_iff_view
  | customRole => exact CustomRoles.differs_eq_false_iff_view

/-- The verdict depends on the views alone. -/
lemma differs_congr {desired desired' : k.UpdateRequest} {remote remote' : k.Remote}
    (hDesired : k.requested desired' = k.requested desired)
    (hRemote : k.observed remote' = k.observed remote) :
    k.strategy.differs desired' remote' = k.strategy.differs desired remote := by
  refine verdict_eq ?_
  rw [differs_eq_false_iff_view, differs_eq_false_iff_view, hDesired, hRemote]

end Kind

/-! ## Other ways to write the same -/

/-- A request for a group is written with its members in another order, or with some repeated. -/
inductive GroupUpdate.Rewrites (u : GroupUpdate) : GroupUpdate → Prop
  | members {ids : List String} (hSame : SameMembers u.memberIds ids) :
      Rewrites u { u with memberIds := ids }

/-- A group is read with its members in another order, with some repeated, or with other kinds of
members. -/
inductive GroupSnapshot.Rewrites (s : GroupSnapshot) : GroupSnapshot → Prop
  | members {members : List GroupMember} (hSame : SameMembers s.members members) :
    Rewrites s { s with members := members }
  | kinds {members : List GroupMember} (hIds : s.members.map (·.id) = members.map (·.id)) :
    Rewrites s { s with members := members }

/-- A policy is written with its subjects, roles or resources in another order or some of them
repeated, with other names of roles, or with the attributes of a subject or of a resource set in
another order or some of them repeatedly. -/
inductive Policy.Rewrites (p : Policy) : Policy → Prop
  | subjects {subjects : List Attributes} (hSame : SameMembers p.subjects subjects) :
    Rewrites p { p with subjects := subjects }
  | roles {roles : List PolicyRole} (hSame : SameMembers p.roles roles) :
      Rewrites p { p with roles := roles }
  | resources {resources : List Attributes} (hSame : SameMembers p.resources resources) :
    Rewrites p { p with resources := resources }
  | roleNames {roles : List PolicyRole} (hIds : p.roles.map (·.id) = roles.map (·.id)) :
    Rewrites p { p with roles := roles }
  | subject {before after : List Attributes} {bindings others : List (String × String)}
    (hSubjects : p.subjects = before ++ Attributes.ofList bindings :: after)
    (hOne : Attributes.OneValued bindings)
    (hSame : SameMembers bindings others) :
    Rewrites p { p with subjects := before ++ Attributes.ofList others :: after }
  | resource {before after : List Attributes} {bindings others : List (String × String)}
    (hResources : p.resources = before ++ Attributes.ofList bindings :: after)
    (hOne : Attributes.OneValued bindings)
    (hSame : SameMembers bindings others) :
    Rewrites p { p with resources := before ++ Attributes.ofList others :: after }

/-- A request for a custom role is written with its actions in another order, or with some
repeated. -/
inductive RoleUpdate.Rewrites (u : RoleUpdate) : RoleUpdate → Prop
  | actions {actions : List String} (hSame : SameMembers u.actions actions) :
      Rewrites u { u with actions := actions }

/-- A custom role is read with its actions in another order, or with some repeated. -/
inductive RemoteRole.Rewrites (r : RemoteRole) : RemoteRole → Prop
  | actions {actions : List String} (hSame : SameMembers r.actions actions) :
      Rewrites r { r with actions := actions }

/-- Lists with the same members are one set. -/
lemma SameMembers.setOf_eq {α : Type} {list others : List α} (hSame : SameMembers list others) :
    {x | x ∈ others} = {x | x ∈ list} :=
  Set.ext fun x => (hSame x).symm

/-- Lists with the same members have the same images of their members. -/
lemma SameMembers.map {α β : Type} {list others : List α} (hSame : SameMembers list others)
    (f : α → β) : SameMembers (list.map f) (others.map f) := by
  intro y
  simp only [List.mem_map]
  exact exists_congr fun x => and_congr_left fun _ => hSame x

namespace GroupUpdate

/-- Written differently, a request for a group has the same view. -/
lemma Rewrites.view_eq {u v : GroupUpdate} (h : u.Rewrites v) : v.view = u.view := by
  cases h with
  | members hSame => simp only [view, hSame.setOf_eq]

end GroupUpdate

namespace GroupSnapshot

/-- Read differently, a group has the same view. -/
lemma Rewrites.view_eq {s t : GroupSnapshot} (h : s.Rewrites t) : t.view = s.view := by
  cases h with
  | members hSame => simp only [view, (hSame.map _).setOf_eq]
  | kinds hIds => simp only [view, hIds]

end GroupSnapshot

namespace Policy

/-- Written differently, a policy has the same view. -/
lemma Rewrites.view_eq {p q : Policy} (h : p.Rewrites q) : q.view = p.view := by
  cases h with
  | subjects hSame => simp only [view, Attributes.pairSets_eq_iff.2 hSame]
  | roles hSame => simp only [view, (hSame.map _).setOf_eq]
  | resources hSame => simp only [view, Attributes.pairSets_eq_iff.2 hSame]
  | roleNames hIds => simp only [view, hIds]
  | subject hSubjects hOne hSame =>
      simp only [view, hSubjects, Attributes.oneValued_iff.1 hOne _ hSame]
  | resource hResources hOne hSame =>
      simp only [view, hResources, Attributes.oneValued_iff.1 hOne _ hSame]

end Policy

namespace RoleUpdate

/-- Written differently, a request for a custom role has the same view. -/
lemma Rewrites.view_eq {u v : RoleUpdate} (h : u.Rewrites v) : v.view = u.view := by
  cases h with
  | actions hSame => simp only [view, hSame.setOf_eq]

end RoleUpdate

namespace RemoteRole

/-- Read differently, a custom role has the same view. -/
lemma Rewrites.view_eq {r s : RemoteRole} (h : r.Rewrites s) : s.view = r.view := by
  cases h with
  | actions hSame => simp only [view, hSame.setOf_eq]

end RemoteRole

namespace Kind

variable {k : Kind}

/-- A request is another way to ask for the same. -/
def RewritesRequest : (k : Kind) → k.UpdateRequest → k.UpdateRequest → Prop
  | .accessGroup => GroupUpdate.Rewrites
  | .accessPolicy => Policy.Rewrites
  | .authorizationPolicy => Policy.Rewrites
  | .customRole => RoleUpdate.Rewrites

/-- An entity is the same, read in another way. -/
def RewritesRemote : (k : Kind) → k.Remote → k.Remote → Prop
  | .accessGroup => GroupSnapshot.Rewrites
  | .accessPolicy => Policy.Rewrites
  | .authorizationPolicy => Policy.Rewrites
  | .customRole => RemoteRole.Rewrites

/-- What is managed of an entity is stored as it was asked for; the rest stays as it was. -/
def Stores : (k : Kind) → k.UpdateRequest → k.Remote → k.Remote → Prop
  | .accessGroup, desired, before, after =>
    after.group =
        { before.group with
          name := desired.request.name
          description := desired.request.description } ∧
      SameMembers (after.members.map (·.id)) desired.memberIds
  | .accessPolicy, desired, before, after =>
    after = { before with
      subjects := desired.subjects
      roles := desired.roles
      resources := desired.resources }
  | .authorizationPolicy, desired, before, after =>
    after = { before with
      subjects := desired.subjects
      roles := desired.roles
      resources := desired.resources }
  | .customRole, desired, before, after =>
    after = { before with
      displayName := desired.displayName, description := desired.description, actions :=
      desired.actions }

/-- Another way to ask for the same has the same view. -/
lemma requested_of_rewrites {desired other : k.UpdateRequest}
    (h : k.RewritesRequest desired other) : k.requested other = k.requested desired := by
  cases k with
  | accessGroup => exact GroupUpdate.Rewrites.view_eq h
  | accessPolicy => exact Policy.Rewrites.view_eq h
  | authorizationPolicy => exact Policy.Rewrites.view_eq h
  | customRole => exact RoleUpdate.Rewrites.view_eq h

/-- An entity that is read in another way has the same view. -/
lemma observed_of_rewrites {remote other : k.Remote} (h : k.RewritesRemote remote other) :
    k.observed other = k.observed remote := by
  cases k with
  | accessGroup => exact GroupSnapshot.Rewrites.view_eq h
  | accessPolicy => exact Policy.Rewrites.view_eq h
  | authorizationPolicy => exact Policy.Rewrites.view_eq h
  | customRole => exact RemoteRole.Rewrites.view_eq h

/-- An entity has the view of what was stored in it. -/
lemma observed_of_stores {desired : k.UpdateRequest} {before after : k.Remote}
    (h : k.Stores desired before after) : k.requested desired = k.observed after := by
  cases k with
  | accessGroup =>
    obtain ⟨hGroup, hMembers⟩ := h
    simp only [requested, observed, GroupUpdate.view, GroupSnapshot.view, hGroup, hMembers.setOf_eq]
  | accessPolicy =>
    subst h
    simp only [requested, observed, Policy.view]
  | authorizationPolicy =>
    subst h
    simp only [requested, observed, Policy.view]
  | customRole =>
    subst h
    simp only [requested, observed, RoleUpdate.view, RemoteRole.view]

/-- The laws of the comparison of a kind. -/
structure ComparesViews (k : Kind) : Prop where
  /-- An entity does not differ from a request exactly when they have one view. -/
  verdict (desired : k.UpdateRequest) (remote : k.Remote) :
    k.strategy.differs desired remote = false ↔ k.requested desired = k.observed remote
  /-- It does not matter how a request is written. -/
  request (desired other : k.UpdateRequest) (remote : k.Remote) :
    k.RewritesRequest desired other → k.strategy.differs other remote =
      k.strategy.differs desired remote
  /-- It does not matter how an entity is read. -/
  remote (desired : k.UpdateRequest) (remote other : k.Remote) :
    k.RewritesRemote remote other → k.strategy.differs desired other =
      k.strategy.differs desired remote
  /-- An entity in which a request was stored does not differ from it. -/
  stored (desired : k.UpdateRequest) (before after : k.Remote) :
    k.Stores desired before after → k.strategy.differs desired after = false

end Kind

/-- **A comparison sees the managed fields and nothing else.**  For each kind, an entity does not
differ from a request exactly when they have one view: name, description and the set of identifiers
of members; the set of attribute sets of subjects, the set of identifiers of roles and the set of
attribute sets of resources; display name, description and the set of actions.  Hence the verdict
does not depend on the order or the repetition of anything, on names of granted roles or on kinds of
members, and it is favourable whenever the managed fields were stored.  Between policies the absence
of differences is an equivalence. -/
theorem comparison_by_views :
    (∀ k : Kind, k.ComparesViews) ∧
      Equivalence fun p q : Policy => Policies.differs p q = false := by
  refine ⟨fun k => ?_, Policies.equivalence_differs⟩
  constructor
  case verdict => exact fun _ _ => Kind.differs_eq_false_iff_view
  case request => exact fun _ _ _ h => Kind.differs_congr (Kind.requested_of_rewrites h) rfl
  case remote => exact fun _ _ _ h => Kind.differs_congr rfl (Kind.observed_of_rewrites h)
  case stored => exact fun _ _ _ h => Kind.differs_eq_false_iff_view.2 (Kind.observed_of_stores h)

/-- A policy does not differ from itself with one role more often, the roles renamed, and the
attributes of its resource set in another order. -/
theorem comparison_by_views_of_renamed :
    let ofAccount : List (String × String) := [("accountId", "acc"), ("serviceName", "kms")]
    let ofService : List (String × String) :=
      [("serviceName", "kms"), ("serviceName", "kms"), ("accountId", "acc")]
    let desired : Policy := ⟨.access, [.ofList [("iam_id", "IBMid-1")]],
      [⟨"crn:viewer", "Viewer"⟩, ⟨"crn:editor", "Editor"⟩], [.ofList ofAccount]⟩
    let remote : Policy := ⟨.access, [.ofList [("iam_id", "IBMid-1")]],
      [⟨"crn:editor", "Author"⟩, ⟨"crn:viewer", "Reader"⟩, ⟨"crn:viewer", "Reader"⟩],
      [.ofList ofService]⟩
    Policies.differs desired remote = false := by
  intro ofAccount ofService desired remote
  have hLaws : Kind.ComparesViews .accessPolicy := comparison_by_views.1 .accessPolicy
  let repeated : Policy := { desired with
    roles := [⟨"crn:editor", "Editor"⟩, ⟨"crn:viewer", "Viewer"⟩, ⟨"crn:viewer", "Viewer"⟩] }
  let renamed : Policy := { repeated with roles := remote.roles }
  have hRepeated : desired.Rewrites repeated := .roles (by simp [SameMembers, desired, or_comm])
  have hRenamed : repeated.Rewrites renamed := .roleNames (by simp [repeated, remote])
  have hOne : Attributes.OneValued ofAccount := Attributes.oneValued_of_nodup (by decide)
  have hSame : SameMembers ofAccount ofService := by
    intro binding
    simp only [ofAccount, ofService, List.mem_cons, List.not_mem_nil, or_false, or_self_left]
    exact or_comm
  have hReset : renamed.Rewrites remote :=
    @Policy.Rewrites.resource renamed [] [] ofAccount ofService rfl hOne hSame
  calc Policies.differs desired remote
      = Policies.differs desired renamed := hLaws.remote desired renamed remote hReset
    _ = Policies.differs desired repeated := hLaws.remote desired repeated renamed hRenamed
    _ = Policies.differs desired desired := hLaws.remote desired desired repeated hRepeated
    _ = false := comparison_by_views.2.refl desired

end IamReconciler
