import Mathlib.Tactic.Lemma
import IamReconciler.Directory.Call
import IamReconciler.Reconcile.Pass

/-!
# Calls by what they do to entities

The remote service keeps entities of three kinds: groups, policies and custom roles.  An entity is
known by its kind and its identifier.  A call may create an entity, or it may read, update or delete
one that it names.  The other calls support these: they look something up, they add and remove
members of a group, or they invite and remove users.
-/

namespace IamReconciler

namespace Directory

/-- The kinds of entities. -/
inductive EntityKind where
  | group
  | policy
  | role
  deriving DecidableEq, Repr

/-- An entity of the remote service. -/
structure Entity where
  kind : EntityKind
  id : String
  deriving DecidableEq, Repr

/-- Why a call failed, none when it succeeded. -/
def failure? {α : Type} : Except RemoteError α → Option RemoteError
  | .ok _ => none
  | .error e => some e

namespace Call

/-! ## Entities that a call is about -/

/-- The kind of the entity that a call creates. -/
def creates? : Call → Option EntityKind
  | .createGroup .. => some .group
  | .createPolicy .. => some .policy
  | .createRole .. => some .role
  | _ => none

/-- The entity that a call reads; the members of a group are a part of it. -/
def reads? : Call → Option Entity
  | .getGroup id => some ⟨.group, id⟩
  | .listMembers id => some ⟨.group, id⟩
  | .getPolicy id => some ⟨.policy, id⟩
  | .getRole id => some ⟨.role, id⟩
  | _ => none

/-- The entity that a call updates. -/
def updates? : Call → Option Entity
  | .updateGroup id .. => some ⟨.group, id⟩
  | .updatePolicy id .. => some ⟨.policy, id⟩
  | .updateRole id .. => some ⟨.role, id⟩
  | _ => none

/-- The entity that a call deletes. -/
def deletes? : Call → Option Entity
  | .deleteGroup id => some ⟨.group, id⟩
  | .deletePolicy id => some ⟨.policy, id⟩
  | .deleteRole id => some ⟨.role, id⟩
  | _ => none

/-- The entity that a call names. -/
def names? (c : Call) : Option Entity :=
  c.reads?.or (c.updates?.or c.deletes?)

/-- The entity whose members a call changes. -/
def regroups? : Call → Option Entity
  | .addMembers id _ => some ⟨.group, id⟩
  | .removeMember id _ => some ⟨.group, id⟩
  | _ => none

/-- The entity that a call changes: it is updated or deleted, or it is given or loses members. -/
def touches? (c : Call) : Option Entity :=
  c.updates?.or (c.deletes?.or c.regroups?)

/-- The token that a call presents. -/
def presents? : Call → Option Etag
  | .updateGroup _ _ etag => some etag
  | .updatePolicy _ _ etag => some etag
  | .updateRole _ _ etag => some etag
  | _ => none

/-- The call looks something up and changes nothing. -/
def isRead : Call → Bool
  | .findGroups .. => true
  | .getGroup _ => true
  | .listMembers _ => true
  | .getPolicy _ => true
  | .listRoles .. => true
  | .getRole _ => true
  | .systemRoles => true
  | .serviceRoles _ => true
  | .authorizationRoles .. => true
  | .findUser .. => true
  | .getServiceIdentity _ => true
  | _ => false

/-! ## Entities in values -/

/-- The entity that a call has created. -/
def created? : (c : Call) → c.Value → Option Entity
  | .createGroup .., group => some ⟨.group, group.id⟩
  | .createPolicy .., policy => some ⟨.policy, policy.id⟩
  | .createRole _, role => some ⟨.role, role.id⟩
  | _, _ => none

/-- The identifier that an updated entity is returned with. -/
def updatedId? : (c : Call) → c.Value → Option String
  | .updateGroup .., group => some group.id
  | .updatePolicy .., policy => some policy.id
  | .updateRole .., role => some role.id
  | _, _ => none

/-- The token that an entity was read with. -/
def token? : (c : Call) → c.Value → Option Etag
  | .getGroup _, found => some found.2
  | .getPolicy _, found => some found.2
  | .getRole _, found => some found.2
  | _, _ => none

/-- A call that has created an entity creates such entities. -/
lemma creates?_of_created? {c : Call} {v : c.Value} {e : Entity}
    (hCreated : c.created? v = some e) : c.creates? = some e.kind := by
  cases c <;> first | (cases hCreated; rfl) | exact absurd hCreated nofun

/-- A call that creates nothing has created none. -/
lemma created?_eq_none_of_creates? {c : Call} (hCreates : c.creates? = none) (v : c.Value) :
    c.created? v = none := by
  cases c <;> first | rfl | exact absurd hCreates nofun

/-- A call that updates nothing returns no updated entity. -/
lemma updatedId?_eq_none_of_updates? {c : Call} (hUpdates : c.updates? = none) (v : c.Value) :
    c.updatedId? v = none := by
  cases c <;> first | rfl | exact absurd hUpdates nofun

/-- A call that updates an entity creates none. -/
lemma creates?_of_updates? {c : Call} {e : Entity} (hUpdates : c.updates? = some e) :
    c.creates? = none := by
  cases c <;> first | rfl | exact absurd hUpdates nofun

/-- A call that deletes an entity creates none. -/
lemma creates?_of_deletes? {c : Call} {e : Entity} (hDeletes : c.deletes? = some e) :
    c.creates? = none := by
  cases c <;> first | rfl | exact absurd hDeletes nofun

/-- A call that deletes an entity updates none. -/
lemma updates?_of_deletes? {c : Call} {e : Entity} (hDeletes : c.deletes? = some e) :
    c.updates? = none := by
  cases c <;> first | rfl | exact absurd hDeletes nofun

/-- A call that updates an entity changes it. -/
lemma touches?_of_updates? {c : Call} {e : Entity} (hUpdates : c.updates? = some e) :
    c.touches? = some e := by
  rw [touches?, hUpdates, Option.some_or]

/-- A call that deletes an entity changes it. -/
lemma touches?_of_deletes? {c : Call} {e : Entity} (hDeletes : c.deletes? = some e) :
    c.touches? = some e := by
  rw [touches?, updates?_of_deletes? hDeletes, Option.none_or, hDeletes, Option.some_or]

/-- A call that changes the members of an entity changes it. -/
lemma touches?_of_regroups? {c : Call} {e : Entity} (hRegroups : c.regroups? = some e) :
    c.touches? = some e := by
  cases c <;> first | exact hRegroups | exact absurd hRegroups nofun

/-- A call that reads an entity looks it up. -/
lemma isRead_of_reads? {c : Call} {e : Entity} (hReads : c.reads? = some e) : c.isRead := by
  cases c <;> first | rfl | exact absurd hReads nofun

/-- A call that looks something up changes no entity. -/
lemma touches?_of_isRead {c : Call} (hRead : c.isRead) : c.touches? = none := by
  cases c <;> first | rfl | exact absurd hRead Bool.false_ne_true

/-- A call that creates an entity changes none. -/
lemma touches?_of_creates? {c : Call} {kind : EntityKind} (hCreates : c.creates? = some kind) :
    c.touches? = none := by
  cases c <;> first | rfl | exact absurd hCreates nofun

/-- A call that looks something up creates no entity. -/
lemma creates?_of_isRead {c : Call} (hRead : c.isRead) : c.creates? = none := by
  cases c <;> first | rfl | exact absurd hRead Bool.false_ne_true

/-- A call that changes no entity updates none. -/
lemma updates?_of_touches? {c : Call} (hTouches : c.touches? = none) : c.updates? = none := by
  cases c <;> first | rfl | exact absurd hTouches nofun

/-- A call that changes no entity deletes none. -/
lemma deletes?_of_touches? {c : Call} (hTouches : c.touches? = none) : c.deletes? = none := by
  cases c <;> first | rfl | exact absurd hTouches nofun

/-- A call that changes an entity creates none. -/
lemma creates?_of_touches? {c : Call} {e : Entity} (hTouches : c.touches? = some e) :
    c.creates? = none := by
  cases c <;> first | rfl | exact absurd hTouches nofun

/-- A call that changes the members of an entity updates none. -/
lemma updates?_of_regroups? {c : Call} {e : Entity} (hRegroups : c.regroups? = some e) :
    c.updates? = none := by
  cases c <;> first | rfl | exact absurd hRegroups nofun

/-- A call that changes the members of an entity deletes none. -/
lemma deletes?_of_regroups? {c : Call} {e : Entity} (hRegroups : c.regroups? = some e) :
    c.deletes? = none := by
  cases c <;> first | rfl | exact absurd hRegroups nofun

/-- A call that deletes an entity names it. -/
lemma names?_of_deletes? {c : Call} {e : Entity} (hDeletes : c.deletes? = some e) :
    c.names? = some e := by
  cases c <;> first | exact hDeletes | exact absurd hDeletes nofun

end Call

end Directory

namespace Kind

/-- The kind of the remote entities of a kind of resources. -/
def entityKind : Kind → Directory.EntityKind
  | .accessGroup => .group
  | .accessPolicy => .policy
  | .authorizationPolicy => .policy
  | .customRole => .role

/-- The remote entity of an identifier. -/
def entity (k : Kind) (id : String) : Directory.Entity :=
  ⟨k.entityKind, id⟩

/-- Entities of one kind of resources are the same when their identifiers are. -/
@[simp] lemma entity_inj {k : Kind} {id other : String} :
    k.entity id = k.entity other ↔ id = other := by
  simp only [entity, Directory.Entity.mk.injEq, true_and]

/-- The remote entities of policies of either kind are policies. -/
lemma entity_of_policy {k : Kind} {id : String} (hKind : k.entityKind = .policy) :
    k.entity id = ⟨.policy, id⟩ := by
  rw [entity, hKind]

end Kind

end IamReconciler
