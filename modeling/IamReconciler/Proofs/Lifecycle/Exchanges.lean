import IamReconciler.Proofs.Directory.Entities
import IamReconciler.Proofs.Histories
import IamReconciler.Reconcile.Conditions

/-!
# Exchanges of passes

What the exchanges of a pass are about.  A call goes to the store, to the accounts, or to what is
only known in an account: the references and the remote service.  The store answers with resources,
and the last of them is what a pass goes by (`LastWord`, `Returns`).  A pass examines the resource
that it has read, or when no pass has seen that one, what the store has returned when it was written
as pending (`Examined`).
-/

namespace IamReconciler

open Directory (Call Entity)

variable {k : Kind} {key : Key} {r x : Resource k} {h : List (Exchange Pass.interface)}
  {y : Exchange Pass.interface}

/-! ## Calls -/

namespace Pass.Call

/-- The call is one of the store. -/
def isStore : Pass.Call → Bool
  | .store _ => true
  | _ => false

/-- The call writes metadata and spec. -/
def writesMetadata : Pass.Call → Bool
  | .store (.update ..) => true
  | _ => false

/-- The call writes a status. -/
def writesStatus : Pass.Call → Bool
  | .store (.updateStatus ..) => true
  | _ => false

/-- The call is one of the remote service. -/
def isRemote : Pass.Call → Bool
  | .directory _ => true
  | _ => false

/-- The call is made in an account: it looks up a reference, or it is one of the remote service. -/
def needsAccount : Pass.Call → Bool
  | .reference _ => true
  | .directory _ => true
  | _ => false

/-- A call of the store is none of the remote service. -/
lemma not_isRemote_of_isStore {c : Pass.Call} (hStore : c.isStore) : ¬c.isRemote := by
  cases c with
  | store => exact Bool.false_ne_true
  | openAccount => exact absurd hStore Bool.false_ne_true
  | reference => exact absurd hStore Bool.false_ne_true
  | directory => exact absurd hStore Bool.false_ne_true

/-- A call that writes metadata is one of the store. -/
lemma isStore_of_writesMetadata {c : Pass.Call} (hWrites : c.writesMetadata) : c.isStore := by
  cases c with
  | store => rfl
  | openAccount => exact absurd hWrites Bool.false_ne_true
  | reference => exact absurd hWrites Bool.false_ne_true
  | directory => exact absurd hWrites Bool.false_ne_true

/-- A call that is made in an account is none of the store. -/
lemma isStore_of_needsAccount {c : Pass.Call} (hNeeds : c.needsAccount) : c.isStore = false := by
  cases c with
  | store => exact absurd hNeeds Bool.false_ne_true
  | openAccount => rfl
  | reference => rfl
  | directory => rfl

end Pass.Call

/-! ## The store -/

/-- A write of the store failed. -/
inductive WriteFailed : Exchange Pass.interface → Prop where
  | update {k : Kind} (w : Resource k) (e : Error) : WriteFailed ⟨.store (.update k w), .error e⟩
  | updateStatus {k : Kind} (w : Resource k) (e : Error) :
      WriteFailed ⟨.store (.updateStatus k w), .error e⟩

/-- The store has answered with a resource. -/
inductive Returns {k : Kind} (r : Resource k) : Exchange Pass.interface → Prop where
  | get (key : Key) : Returns r ⟨.store (.get k key), .ok (some r)⟩
  | update (w : Resource k) : Returns r ⟨.store (.update k w), .ok r⟩
  | updateStatus (w : Resource k) : Returns r ⟨.store (.updateStatus k w), .ok r⟩

/-- The store has answered with a resource that has the finalizer, or it has taken a write of
one. -/
inductive CarriesFinalizer (k : Kind) : Exchange Pass.interface → Prop where
  | returned {r : Resource k} {y : Exchange Pass.interface} (hReturns : Returns r y)
      (hHas : r.metadata.finalizerSet.has k.finalizer) : CarriesFinalizer k y
  | taken {w stored : Resource k} (hHas : w.metadata.finalizerSet.has k.finalizer) :
      CarriesFinalizer k ⟨.store (.update k w), .ok stored⟩

/-- The store has taken a status and returned a resource. -/
inductive StatusTaken {k : Kind} (w stored : Resource k) : Exchange Pass.interface → Prop where
  | updateStatus : StatusTaken w stored ⟨.store (.updateStatus k w), .ok stored⟩

/-- A status is taken by the store. -/
lemma StatusTaken.isStore {w stored : Resource k} (hTaken : StatusTaken w stored y) :
    y.call.isStore := by
  cases hTaken
  rfl

/-- The last exchange with the store has a property. -/
abbrev LastWord (P : Exchange Pass.interface → Prop) (h : List (Exchange Pass.interface)) : Prop :=
  LastAmong (I := Pass.interface) Pass.Call.isStore P h

/-- A write that has failed returns no resource. -/
lemma Returns.not_writeFailed (hReturns : Returns r y) : ¬WriteFailed y := by
  cases hReturns with
  | get => exact nofun
  | update => exact nofun
  | updateStatus => exact nofun

/-- A resource is returned by the store. -/
lemma Returns.isStore (hReturns : Returns r y) : y.call.isStore := by
  cases hReturns <;> rfl

/-! ## What a pass examines -/

/-- How a pass comes to examine a resource: it is the one that was read, or when no pass has seen
that one, what the store has returned when it was written as pending. -/
inductive Opening (k : Kind) (key : Key) (r : Resource k) :
    List (Exchange Pass.interface) → Resource k → Prop where
  | seen (hSeen : ¬r.isUnset) : Opening k key r [⟨.store (.get k key), .ok (some r)⟩] r
  | greeted (hUnset : r.isUnset) (x : Resource k) :
      Opening k key r [⟨.store (.get k key), .ok (some r)⟩,
        ⟨.store (.updateStatus k (r.moveTo .processing)), .ok x⟩] x

/-- A pass that has read `r` examines `x`. -/
def Examined (k : Kind) (key : Key) (r : Resource k) (h : List (Exchange Pass.interface))
    (x : Resource k) : Prop :=
  ∃ opening, Opening k key r opening x ∧ opening <+: h

/-- What a pass examines does not change when it goes on. -/
lemma Examined.append (hExamined : Examined k key r h x) (rest : List (Exchange Pass.interface)) :
    Examined k key r (h ++ rest) x := by
  obtain ⟨opening, hOpening, hPrefix⟩ := hExamined
  exact ⟨opening, hOpening, hPrefix.trans (List.prefix_append _ _)⟩

/-- The store has returned what a pass examines when it starts to do so. -/
lemma Opening.returns {opening : List (Exchange Pass.interface)}
    (hOpening : Opening k key r opening x) (hLast : opening.getLast? = some y) : Returns x y := by
  cases hOpening with
  | seen =>
    cases hLast
    exact .get key
  | greeted =>
    cases hLast
    exact .updateStatus _

/-- A pass has examined a resource before its last exchange, or it starts to do so by it. -/
lemma Examined.of_concat (hExamined : Examined k key r (h ++ [y]) x) :
    Examined k key r h x ∨ Returns x y := by
  obtain ⟨opening, hOpening, hPrefix⟩ := hExamined
  rcases List.prefix_concat_iff.1 hPrefix with rfl | hEarlier
  · exact .inr (hOpening.returns List.getLast?_concat)
  · exact .inl ⟨opening, hOpening, hEarlier⟩

/-- A pass that examines a resource has read one first. -/
lemma Examined.head? (hExamined : Examined k key r h x) :
    h.head? = some ⟨.store (.get k key), .ok (some r)⟩ := by
  obtain ⟨opening, hOpening, rest, rfl⟩ := hExamined
  cases hOpening <;> rfl

/-! ## The remote service -/

/-- The remote service was called. -/
def CalledRemote (h : List (Exchange Pass.interface)) : Prop :=
  ∃ y ∈ h, y.call.isRemote

/-- The remote service is still called when there are more exchanges, or was called just now. -/
lemma calledRemote_concat_iff : CalledRemote (h ++ [y]) ↔ CalledRemote h ∨ y.call.isRemote :=
  exists_mem_concat_iff

/-- A pass has created an entity. -/
def Made (before : List (Exchange Pass.interface)) (entity : Entity) : Prop :=
  ∃ (c : Call) (v : c.Value), ⟨.directory c, .ok v⟩ ∈ before ∧ c.created? v = some entity

/-- The deletion of an entity was answered by success, or by there being no such entity. -/
inductive EntityGone (e : Entity) : Exchange Pass.interface → Prop where
  | directory {c : Call} {answer : c.Answer} (hDeletes : c.deletes? = some e)
      (hAbsent : (Directory.failure? answer).all (·.isNotFound)) :
      EntityGone e ⟨.directory c, answer⟩

end IamReconciler
