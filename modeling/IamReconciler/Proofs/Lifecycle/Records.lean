import IamReconciler.Proofs.Lifecycle.Courses
import IamReconciler.Proofs.Lifecycle.Frame
import IamReconciler.Proofs.Site

/-!
# Passes and the record in the status

A pass works on the resource that the store has returned last (`Reached`).  In a site this is the
resource that is stored (`resource_of_path`), so that a pass knows the record that it goes by.
Before it calls the service, and whenever it fails, it writes statuses that differ from the one
before in the condition alone (`Rewords`); along a path of such writes the record stays the same
(`sameRecord_of_path`).

How a pass proceeds is summed up here (`Outline`): it stays calm, which is to say that it calls no
remote service and only rewords the status, or it comes calmly to the resource whose entity it
deletes, synchronizes or creates.
-/

namespace IamReconciler

variable {k : Kind} {key : Key} {settings : Settings} {h rest : List (Exchange Pass.interface)}
    {r w : Resource k}

/-! ## Records -/

namespace Resource

/-- Two resources have the same status but for the condition. -/
def SameRecord (r w : Resource k) : Prop :=
  ∃ c, w.statusOrBlank = { r.statusOrBlank with condition := c }

/-- A resource has the record of any with the same status. -/
lemma sameRecord_of_status (hStatus : w.status = r.status) : r.SameRecord w :=
  ⟨r.statusOrBlank.condition, by rw [statusOrBlank, hStatus, statusOrBlank]⟩

lemma SameRecord.trans {v : Resource k} (hFirst : r.SameRecord w) (hSecond : w.SameRecord v) :
    r.SameRecord v := by
  obtain ⟨c, hFirst⟩ := hFirst
  obtain ⟨c', hSecond⟩ := hSecond
  exact ⟨c', by rw [hSecond, hFirst]⟩

/-- The same record has the same identifier. -/
lemma SameRecord.remoteId (hSame : r.SameRecord w) : w.remoteId = r.remoteId := by
  obtain ⟨c, hSame⟩ := hSame
  rw [Resource.remoteId, hSame]
  rfl

end Resource

/-- A write of the status moves the condition of what the store has returned last, and nothing
else. -/
def Rewords (k : Kind) (before : List (Exchange Pass.interface)) (y : Exchange Pass.interface) :
    Prop :=
  ∀ (w : Resource k) (answer : Except Error (Resource k)),
    y = ⟨.store (.updateStatus k w), answer⟩ → ∃ (r : Resource k) (c : Condition),
    LastWord (Returns r) before ∧ w = r.moveTo c

/-- An exchange that writes no status rewords none. -/
lemma rewords_of_other {y : Exchange Pass.interface} (hOther : y.call.writesStatus = false) :
    Rewords k h y := by
  rintro w answer rfl
  exact absurd hOther Bool.noConfusion

/-! ## Rewording -/

section

variable {y : Exchange Pass.interface}

/-- A call of another party than the store rewords no status. -/
lemma rewords_of_isStore (hOther : y.call.isStore = false) : Rewords k h y := by
  refine rewords_of_other ?_
  obtain ⟨c, answer⟩ := y
  cases c with
  | store => exact absurd hOther Bool.noConfusion
  | openAccount => rfl
  | reference => rfl
  | directory => rfl

/-- Calls of other parties than the store reword no status. -/
lemma inTurn_rewords_append (hTurn : InTurn (Rewords k) h)
    (hOther : ∀ z ∈ rest, z.call.isStore = false) : InTurn (Rewords k) (h ++ rest) :=
  inTurn_append_iff.2 ⟨hTurn, (inTurn_of_forall hOther).imp fun _ _ hz => rewords_of_isStore hz⟩

/-- A condition that is told of the resource that the store has returned last only rewords its
status. -/
lemma Lifecycle.Telling.rewords {c : Condition} (hTelling : Telling r c rest)
    (hLast : LastWord (Returns r) h) : InTurn (fun before y => Rewords k (h ++ before) y) rest := by
  cases hTelling with
  | known => exact inTurn_nil
  | told =>
    refine inTurn_singleton_iff.2 ?_
    rw [List.append_nil]
    rintro w _ ⟨⟩
    exact ⟨r, c, hLast, rfl⟩

/-- Telling a condition calls no remote service. -/
lemma Lifecycle.Telling.quiet {c : Condition} (hTelling : Telling r c rest) :
    ∀ y ∈ rest, ¬y.call.isRemote := by
  cases hTelling with
  | known => exact List.forall_mem_nil _
  | told => exact List.forall_mem_singleton.2 Bool.false_ne_true

/-- Letting a resource go calls no remote service. -/
lemma Lifecycle.quiet_of_release {x : Except Error Outcome}
    (hRelease : Pass.Traces (release r) rest x) : ∀ y ∈ rest, ¬y.call.isRemote := by
  rcases traces_release hRelease with ⟨-, answer, rfl, -⟩ | ⟨-, rfl, -⟩
  · exact List.forall_mem_singleton.2 Bool.false_ne_true
  · exact List.forall_mem_nil _

end

/-! ## What courses write -/

/-- An exchange states at most something about a resource: it is none with the store, or it writes a
status which moves the condition of the resource, and which may forget its entity or restate its
spec. -/
inductive StatesAtMost (r : Resource k) : Exchange Pass.interface → Prop where
  | elsewhere {y : Exchange Pass.interface} (hOther : y.call.isStore = false) : StatesAtMost r y
  | moved (c : Condition) (answer : Except Error (Resource k)) :
      StatesAtMost r ⟨.store (.updateStatus k (r.moveTo c)), answer⟩
  | forgotten (c : Condition) (answer : Except Error (Resource k)) :
      StatesAtMost r ⟨.store (.updateStatus k (r.moveTo c).forgetRemote), answer⟩
  | applied (ref : RemoteRef) (c : Condition) (answer : Except Error (Resource k)) :
      StatesAtMost r ⟨.store (.updateStatus k ((r.recordApplied ref).moveTo c)), answer⟩

/-- Exchanges with other parties than the store state nothing. -/
lemma statesAtMost_of_isStore (hOther : ∀ y ∈ h, y.call.isStore = false) :
    ∀ y ∈ h, StatesAtMost r y :=
  fun y hMem => .elsewhere (hOther y hMem)

namespace Lifecycle

variable {scope : Scope} {c : Condition} {e : Error}

/-- Telling a condition moves the resource to it. -/
lemma Telling.statesAtMost (hTelling : Telling r c rest) : ∀ y ∈ rest, StatesAtMost r y := by
  cases hTelling with
  | known => exact List.forall_mem_nil _
  | told _ answer => exact List.forall_mem_singleton.2 (.moved c answer)

/-- Greeting a resource moves it. -/
lemma statesAtMost_of_greet {x : Except Error (Resource k)}
    (hGreet : Pass.Traces (greet r) rest x) : ∀ y ∈ rest, StatesAtMost r y := by
  rcases traces_greet_iff.1 hGreet with ⟨-, rfl⟩ | ⟨-, rfl, -⟩
  · exact List.forall_mem_singleton.2 (.moved .processing x)
  · exact List.forall_mem_nil _

/-- Refusing a resource moves it. -/
lemma statesAtMost_of_refuse {x : Except Error Outcome}
    (hRefuse : Pass.Traces (refuse settings r e) rest x) : ∀ y ∈ rest, StatesAtMost r y := by
  rcases traces_refuse hRefuse with ⟨-, answer, rfl, -⟩ | ⟨-, rfl, -⟩
  · exact List.forall_mem_singleton.2 (.moved (.malformed e) answer)
  · exact List.forall_mem_nil _

/-- The entity is removed without the store. -/
lemma Removing.isStore (hRemoving : Removing r rest) : ∀ y ∈ rest, y.call.isStore = false := by
  cases hRemoving with
  | unrecorded => exact List.forall_mem_nil _
  | removed => exact List.forall_mem_singleton.2 rfl

/-- Creating the entity states what is told and what was applied. -/
lemma Creating.statesAtMost {x : Except Error Outcome}
    (hCreating : Creating settings scope r rest x) : ∀ y ∈ rest, StatesAtMost r y := by
  cases hCreating with
  | unresolved hResolve hTold =>
    have hResolved := statesAtMost_of_isStore (r := r) (isStore_of_createRequest hResolve)
    exact List.forall_mem_append.2 ⟨hResolved, hTold.statesAtMost⟩
  | uncreated hResolve hCreate hTold =>
    have hResolved := statesAtMost_of_isStore (r := r) (isStore_of_createRequest hResolve)
    have hMade := statesAtMost_of_isStore (r := r) (isStore_of_create hCreate)
    exact List.forall_mem_append.2 ⟨hResolved, List.forall_mem_append.2 ⟨hMade, hTold.statesAtMost⟩⟩
  | recorded hResolve hCreate stored =>
    have hResolved := statesAtMost_of_isStore (r := r) (isStore_of_createRequest hResolve)
    have hMade := statesAtMost_of_isStore (r := r) (isStore_of_create hCreate)
    refine List.forall_mem_append.2 ⟨hResolved, List.forall_mem_append.2 ⟨hMade, ?_⟩⟩
    exact List.forall_mem_singleton.2 (.applied _ (.created k) (.ok stored))
  | unrecorded hResolve hCreate _ answer =>
    have hResolved := statesAtMost_of_isStore (r := r) (isStore_of_createRequest hResolve)
    have hMade := statesAtMost_of_isStore (r := r) (isStore_of_create hCreate)
    refine List.forall_mem_append.2 ⟨hResolved, List.forall_mem_append.2 ⟨hMade, ?_⟩⟩
    exact List.forall_mem_cons.2 ⟨.applied _ (.created k) _, List.forall_mem_singleton.2
      (.elsewhere rfl)⟩

/-- Bringing the entity in step states what is told and what was applied, or it forgets the
entity. -/
lemma Syncing.statesAtMost {x : Except Error Outcome} (hSyncing : Syncing settings scope r rest x) :
    ∀ y ∈ rest, StatesAtMost r y := by
  cases hSyncing with
  | forgotten hFetch answer =>
    have hRead := statesAtMost_of_isStore (r := r) (isStore_of_fetch hFetch)
    exact List.forall_mem_append.2 ⟨hRead, List.forall_mem_singleton.2 (.forgotten _ answer)⟩
  | unresolved hFetch hResolve hTold =>
    have hDesired := statesAtMost_of_isStore (r := r) (isStore_of_desired hFetch hResolve)
    rw [← List.append_assoc]
    exact List.forall_mem_append.2 ⟨hDesired, hTold.statesAtMost⟩
  | agreed hFetch hResolve => exact statesAtMost_of_isStore (isStore_of_desired hFetch hResolve)
  | synchronized hFetch hResolve _ _ answer =>
    have hDesired := statesAtMost_of_isStore (r := r) (isStore_of_desired hFetch hResolve)
    rw [← List.append_assoc]
    exact List.forall_mem_append.2 ⟨hDesired, List.forall_mem_singleton.2 (.moved _ answer)⟩
  | unchanged hFetch hResolve _ hUpdate hTold =>
    have hDesired := statesAtMost_of_isStore (r := r) (isStore_of_desired hFetch hResolve)
    have hUpdated := statesAtMost_of_isStore (r := r) (isStore_of_update hUpdate)
    rw [← List.append_assoc]
    exact List.forall_mem_append.2
      ⟨hDesired, List.forall_mem_append.2 ⟨hUpdated, hTold.statesAtMost⟩⟩
  | changed hFetch hResolve _ hUpdate answer =>
    have hDesired := statesAtMost_of_isStore (r := r) (isStore_of_desired hFetch hResolve)
    have hUpdated := statesAtMost_of_isStore (r := r) (isStore_of_update hUpdate)
    rw [← List.append_assoc]
    refine List.forall_mem_append.2 ⟨hDesired, List.forall_mem_append.2 ⟨hUpdated, ?_⟩⟩
    exact List.forall_mem_singleton.2 (.applied _ (.updated k) answer)

end Lifecycle

/-! ## Going by a resource -/

/-- Each exchange is in turn by a rule, and the store has returned a resource last, by which a pass
goes on. -/
structure GoesOn (R : List (Exchange Pass.interface) → Exchange Pass.interface → Prop)
    (r : Resource k) (h : List (Exchange Pass.interface)) : Prop where
  inTurn : InTurn R h
  last : LastWord (Returns r) h

namespace GoesOn

variable {R : List (Exchange Pass.interface) → Exchange Pass.interface → Prop}
  {y : Exchange Pass.interface} {e : Error}

/-- A pass goes on by what the store returns. -/
lemma returned (hG : GoesOn R r h) (hMay : R h y) (hReturns : Returns w y) :
    GoesOn R w (h ++ [y]) :=
  ⟨inTurn_concat_iff.2 ⟨hG.inTurn, hMay⟩, lastAmong_concat hReturns.isStore hReturns⟩

/-- A pass goes on by the same resource after exchanges with other parties than the store. -/
lemma asked (hG : GoesOn R r h) (hTurn : InTurn (fun before y => R (h ++ before) y) rest)
    (hOther : ∀ y ∈ rest, y.call.isStore = false) : GoesOn R r (h ++ rest) :=
  ⟨inTurn_append_iff.2 ⟨hG.inTurn, hTurn⟩, hG.last.append hOther⟩

/-- A pass goes on after it has asked for an account. -/
lemma opened (hG : GoesOn R r h) {ns : String} {answer : Except Error Session}
    (hMay : R h ⟨.openAccount ns, answer⟩) : GoesOn R r (h ++ [⟨.openAccount ns, answer⟩]) :=
  ⟨inTurn_concat_iff.2 ⟨hG.inTurn, hMay⟩, hG.last.concat rfl⟩

/-- A write that is made only when it is needed leaves a pass with what the store returns, or with
what it had. -/
lemma written (hG : GoesOn R r h) {x : Except Error (Resource k)}
    (hRest : (∃ y, rest = [y] ∧ R h y ∧ ∀ w, x = .ok w → Returns w y) ∨ rest = [] ∧ x = .ok r) :
    InTurn R (h ++ rest) ∧ ∀ w, x = .ok w → GoesOn R w (h ++ rest) := by
  rcases hRest with ⟨y, rfl, hMay, hReturns⟩ | ⟨rfl, rfl⟩
  · exact ⟨inTurn_concat_iff.2 ⟨hG.inTurn, hMay⟩, fun w hOk => hG.returned hMay (hReturns w hOk)⟩
  · rw [List.append_nil]
    refine ⟨hG.inTurn, ?_⟩
    rintro w ⟨⟩
    exact hG

/-- A pass goes on by the resource that it has greeted. -/
lemma greet (hG : GoesOn R r h) {x : Except Error (Resource k)}
    (hMay : r.isUnset → ∀ answer, R h ⟨.store (.updateStatus k (r.moveTo .processing)), answer⟩)
    (hGreet : Pass.Traces (Lifecycle.greet r) rest x) :
    InTurn R (h ++ rest) ∧ ∀ w, x = .ok w → GoesOn R w (h ++ rest) := by
  refine hG.written ?_
  rcases Lifecycle.traces_greet_iff.1 hGreet with ⟨hUnset, rfl⟩ | ⟨-, hNone⟩
  · refine .inl ⟨_, rfl, hMay hUnset x, ?_⟩
    rintro w rfl
    exact .updateStatus _
  · exact .inr hNone

/-- A pass goes on by the resource that it has restored. -/
lemma restore (hG : GoesOn R r h) {x : Except Error (Resource k)}
    (hMay : ∀ answer, R h ⟨.store (.update k r.restoreImmutable), answer⟩)
    (hRestore : Pass.Traces (Lifecycle.restore r) rest x) :
    InTurn R (h ++ rest) ∧ ∀ w, x = .ok w → GoesOn R w (h ++ rest) := by
  refine hG.written ?_
  rcases Lifecycle.traces_restore_iff.1 hRestore with ⟨-, rfl⟩ | ⟨-, hNone⟩
  · refine .inl ⟨_, rfl, hMay x, ?_⟩
    rintro w rfl
    exact .update _
  · exact .inr hNone

/-- A pass goes on by the resource that it holds. -/
lemma hold (hG : GoesOn R r h) {x : Except Error (Resource k)}
    (hMay : ∀ answer, R h ⟨.store (.update k
      (r.withFinalizers (r.metadata.finalizerSet.add k.finalizer))), answer⟩)
    (hHold : Pass.Traces (Lifecycle.hold r) rest x) :
    InTurn R (h ++ rest) ∧ ∀ w, x = .ok w → GoesOn R w (h ++ rest) := by
  refine hG.written ?_
  rcases Lifecycle.traces_hold_iff.1 hHold with ⟨-, hNone⟩ | ⟨-, rfl⟩
  · exact .inr hNone
  · refine .inl ⟨_, rfl, hMay x, ?_⟩
    rintro w rfl
    exact .update _

/-- A condition is told in turn. -/
lemma told (hG : GoesOn R r h) {c : Condition}
    (hMay : ∀ answer, R h ⟨.store (.updateStatus k (r.moveTo c)), answer⟩)
    (hTelling : Lifecycle.Telling r c rest) : InTurn R (h ++ rest) := by
  cases hTelling with
  | known =>
    rw [List.append_nil]
    exact hG.inTurn
  | told _ answer => exact inTurn_concat_iff.2 ⟨hG.inTurn, hMay answer⟩

/-- A resource is refused in turn. -/
lemma refuse (hG : GoesOn R r h) {x : Except Error Outcome}
    (hMay : ∀ answer, R h ⟨.store (.updateStatus k (r.moveTo (.malformed e))), answer⟩)
    (hRefuse : Pass.Traces (Lifecycle.refuse settings r e) rest x) : InTurn R (h ++ rest) := by
  rcases Lifecycle.traces_refuse hRefuse with ⟨-, answer, rfl, -⟩ | ⟨-, rfl, -⟩
  · exact inTurn_concat_iff.2 ⟨hG.inTurn, hMay answer⟩
  · rw [List.append_nil]
    exact hG.inTurn

/-- A resource is let go in turn. -/
lemma release (hG : GoesOn R r h) {x : Except Error Outcome}
    (hMay : ∀ answer, R h ⟨.store (.update k
      (r.withFinalizers (r.metadata.finalizerSet.erase k.finalizer))), answer⟩)
    (hRelease : Pass.Traces (Lifecycle.release r) rest x) : InTurn R (h ++ rest) := by
  rcases Lifecycle.traces_release hRelease with ⟨-, answer, rfl, -⟩ | ⟨-, rfl, -⟩
  · exact inTurn_concat_iff.2 ⟨hG.inTurn, hMay answer⟩
  · rw [List.append_nil]
    exact hG.inTurn

end GoesOn

/-! ## Coming to a resource -/

/-- No remote service is called, and statuses are only reworded. -/
structure Calm (k : Kind) (h : List (Exchange Pass.interface)) : Prop where
  quiet : ∀ y ∈ h, ¬y.call.isRemote
  rewords : InTurn (Rewords k) h

/-- A pass has come to a resource: the store has returned it last, and the pass was calm. -/
structure Reached (r : Resource k) (h : List (Exchange Pass.interface)) :
    Prop extends Calm k h where
  last : LastWord (Returns r) h

/-- An exchange is calm when it is none of the remote service and only rewords a status. -/
def Calmly (k : Kind) (before : List (Exchange Pass.interface)) (y : Exchange Pass.interface) :
    Prop :=
  ¬y.call.isRemote ∧ Rewords k before y

/-- A pass is calm when each exchange is. -/
lemma calm_iff : Calm k h ↔ InTurn (Calmly k) h := by
  refine ⟨fun hCalm before y after hSplit => ⟨?_, hCalm.rewords before y after hSplit⟩, ?_⟩
  · exact hCalm.quiet y (hSplit ▸ List.mem_append_right before List.mem_cons_self)
  · exact fun hTurn => ⟨hTurn.forall_mem fun _ _ hy => hy.1, hTurn.imp fun _ _ hy => hy.2⟩

/-- A pass that has come to a resource goes on by it, calmly. -/
lemma reached_iff : Reached r h ↔ GoesOn (Calmly k) r h :=
  ⟨fun hR => ⟨calm_iff.1 hR.toCalm, hR.last⟩, fun hG => ⟨calm_iff.2 hG.inTurn, hG.last⟩⟩

/-- Calls that are none of the remote service and write no status are calm. -/
lemma calmly_of_other {y : Exchange Pass.interface} (hQuiet : ¬y.call.isRemote)
    (hOther : y.call.writesStatus = false) : Calmly k h y :=
  ⟨hQuiet, rewords_of_other hOther⟩

/-- A pass that has read the store is calm. -/
lemma calm_get (key : Key) (answer : Except Error (Option (Resource k))) :
    Calm k [⟨.store (.get k key), answer⟩] :=
  calm_iff.2 (inTurn_singleton_iff.2 (calmly_of_other Bool.false_ne_true rfl))

/-- A pass that has read a resource has come to it. -/
lemma reached_get (key : Key) (r : Resource k) :
    Reached r [⟨.store (.get k key), .ok (some r)⟩] where
  toCalm := calm_get key _
  last := lastAmong_concat (h := []) rfl (.get key)

namespace Reached

/-- Moving the condition of the resource is calm. -/
lemma calmly_moved (hR : Reached r h) (c : Condition) (answer : Except Error (Resource k)) :
    Calmly k h ⟨.store (.updateStatus k (r.moveTo c)), answer⟩ := by
  refine ⟨Bool.false_ne_true, ?_⟩
  rintro w _ ⟨⟩
  exact ⟨r, c, hR.last, rfl⟩

/-- Opening the account leaves a pass where it is. -/
lemma opened (hR : Reached r h) (ns : String) (answer : Except Error Session) :
    Reached r (h ++ [⟨.openAccount ns, answer⟩]) :=
  reached_iff.2 ((reached_iff.1 hR).opened (calmly_of_other Bool.false_ne_true rfl))

/-- Telling a condition is calm. -/
lemma calm_telling (hR : Reached r h) {c : Condition} (hTelling : Lifecycle.Telling r c rest) :
    Calm k (h ++ rest) :=
  calm_iff.2 ((reached_iff.1 hR).told (hR.calmly_moved c) hTelling)

/-- A pass that greets a resource is calm, and comes to the one that it gets. -/
lemma greet (hR : Reached r h) {x : Except Error (Resource k)}
    (hGreet : Pass.Traces (Lifecycle.greet r) rest x) :
    Calm k (h ++ rest) ∧ ∀ w, x = .ok w → Reached w (h ++ rest) := by
  simpa only [calm_iff, reached_iff] using
    (reached_iff.1 hR).greet (fun _ => hR.calmly_moved .processing) hGreet

/-- A pass that restores a resource is calm, and comes to the one that it gets. -/
lemma restore (hR : Reached r h) {x : Except Error (Resource k)}
    (hRestore : Pass.Traces (Lifecycle.restore r) rest x) :
    Calm k (h ++ rest) ∧ ∀ w, x = .ok w → Reached w (h ++ rest) := by
  simpa only [calm_iff, reached_iff] using
    (reached_iff.1 hR).restore (fun _ => calmly_of_other Bool.false_ne_true rfl) hRestore

/-- A pass that holds a resource is calm, and comes to the one that it gets. -/
lemma hold (hR : Reached r h) {x : Except Error (Resource k)}
    (hHold : Pass.Traces (Lifecycle.hold r) rest x) :
    Calm k (h ++ rest) ∧ ∀ w, x = .ok w → Reached w (h ++ rest) := by
  simpa only [calm_iff, reached_iff] using
    (reached_iff.1 hR).hold (fun _ => calmly_of_other Bool.false_ne_true rfl) hHold

/-- Refusing a resource is calm. -/
lemma calm_refuse (hR : Reached r h) {e : Error} {x : Except Error Outcome}
    (hRefuse : Pass.Traces (Lifecycle.refuse settings r e) rest x) : Calm k (h ++ rest) :=
  calm_iff.2 ((reached_iff.1 hR).refuse (hR.calmly_moved (.malformed e)) hRefuse)

/-- Letting a resource go is calm. -/
lemma calm_release (hR : Reached r h) {x : Except Error Outcome}
    (hRelease : Pass.Traces (Lifecycle.release r) rest x) : Calm k (h ++ rest) :=
  calm_iff.2 ((reached_iff.1 hR).release (fun _ => calmly_of_other Bool.false_ne_true rfl) hRelease)

/-- A pass that is prepared comes to the resource that it holds. -/
lemma prepared (hR : Reached r h) {session : Session} {held : Resource k}
    (hPrepared : Lifecycle.Preparing key r rest session held) : Reached held (h ++ rest) := by
  obtain ⟨-, hRestore, hHold⟩ := hPrepared
  have hRestored := (hR.restore hRestore).2 _ rfl
  have hHeld := ((hRestored.opened key.ns (.ok session)).hold hHold).2 _ rfl
  rwa [List.append_assoc, List.append_assoc, List.singleton_append] at hHeld

end Reached

/-! ## Outlines of passes -/

/-- How a pass proceeds. -/
inductive Outline (settings : Settings) (k : Kind) (key : Key) :
    List (Exchange Pass.interface) → Except Error Outcome → Prop where
  | calm {h : List (Exchange Pass.interface)} (hCalm : Calm k h) (x : Except Error Outcome) :
      Outline settings k key h x
  | deleting {h rest : List (Exchange Pass.interface)} {r : Resource k} {x : Except Error Outcome}
      (hReached : Reached r h) (hDeleting : Lifecycle.Deleting r rest x) :
      Outline settings k key (h ++ rest) x
  | syncing {h rest : List (Exchange Pass.interface)} {r : Resource k} {session : Session}
      {x : Except Error Outcome} (hReached : Reached r h) (hRecorded : r.isRecorded)
      (hSyncing : Lifecycle.Syncing settings ⟨session, key.ns⟩ r rest x) :
      Outline settings k key (h ++ rest) x
  | creating {h rest : List (Exchange Pass.interface)} {r : Resource k} {session : Session}
      {x : Except Error Outcome} (hReached : Reached r h) (hUnrecorded : ¬r.isRecorded)
      (hCreating : Lifecycle.Creating settings ⟨session, key.ns⟩ r rest x) :
      Outline settings k key (h ++ rest) x

/-- A pass that has come to a resource which is not being deleted stays calm, with an error if the
resource is well formed, or it comes calmly to a resource whose entity it synchronizes or
creates. -/
lemma Reached.living (hR : Reached r h) {x : Except Error Outcome}
    (hLiving : Lifecycle.Living settings key r rest x) :
    Calm k (h ++ rest) ∧ (r.validate = .ok () → ∃ e, x = .error e) ∨
      ∃ (first last : List (Exchange Pass.interface)) (session : Session) (held : Resource k),
        rest = first ++ last ∧ Reached held (h ++ first) ∧
          (held.isRecorded ∧ Lifecycle.Syncing settings ⟨session, key.ns⟩ held last x ∨
            ¬held.isRecorded ∧ Lifecycle.Creating settings ⟨session, key.ns⟩ held last x) := by
  cases hLiving with
  | refused hBroken hRefuse =>
    refine .inl ⟨hR.calm_refuse hRefuse, fun hValid => ?_⟩
    rw [hBroken] at hValid
    cases hValid
  | unrestored _ hRestore => exact .inl ⟨(hR.restore hRestore).1, fun _ => ⟨_, rfl⟩⟩
  | @unopened first told restored e _ hRestore hTold =>
    have hCalm := (((hR.restore hRestore).2 _ rfl).opened key.ns (.error e)).calm_telling hTold
    rw [List.append_assoc, List.append_assoc, List.singleton_append] at hCalm
    exact .inl ⟨hCalm, fun _ => ⟨_, rfl⟩⟩
  | @unheld first holding restored session e _ hRestore hHold =>
    have hCalm := ((((hR.restore hRestore).2 _ rfl).opened key.ns (.ok session)).hold hHold).1
    rw [List.append_assoc, List.append_assoc, List.singleton_append] at hCalm
    exact .inl ⟨hCalm, fun _ => ⟨_, rfl⟩⟩
  | synced hPrepared hRecorded hSync =>
    exact .inr ⟨_, _, _, _, rfl, hR.prepared hPrepared, .inl ⟨hRecorded, hSync⟩⟩
  | created hPrepared hUnrecorded hCreate =>
    exact .inr ⟨_, _, _, _, rfl, hR.prepared hPrepared, .inr ⟨hUnrecorded, hCreate⟩⟩

/-- A pass that has come to a resource which is being deleted stays calm, or it comes calmly to
deleting its entity. -/
lemma Reached.dying (hR : Reached r h) {x : Except Error Outcome}
    (hDying : Lifecycle.Dying key r rest x) :
    Calm k (h ++ rest) ∨ ∃ first last, rest = first ++ last ∧ Reached r (h ++ first) ∧
      Lifecycle.Deleting r last x := by
  cases hDying with
  | abandoned _ hRelease => exact .inl (hR.calm_release hRelease)
  | @unopened last _ _ e hRelease =>
    have hCalm := (hR.opened key.ns (.error e)).calm_release hRelease
    rw [List.append_assoc, List.singleton_append] at hCalm
    exact .inl hCalm
  | opened _ session hDelete => exact .inr ⟨_, _, rfl, hR.opened key.ns (.ok session), hDelete⟩

/-- Every pass proceeds in one of these ways. -/
theorem outline_of_passing {x : Except Error Outcome}
    (hPassing : Lifecycle.Passing settings k key h x) : Outline settings k key h x := by
  cases hPassing with
  | unread e => exact .calm (calm_get key _) _
  | absent => exact .calm (calm_get key _) _
  | lost => exact .calm (calm_get key _) _
  | ungreeted _ hGreet => exact .calm ((reached_get key _).greet hGreet).1 _
  | dying _ _ hGreet hDying =>
    have hGreeted := ((reached_get key _).greet hGreet).2 _ rfl
    rw [← List.cons_append, ← List.singleton_append]
    rcases hGreeted.dying hDying with hCalm | ⟨first, last, rfl, hReached, hDeleting⟩
    · exact .calm hCalm _
    · rw [← List.append_assoc]
      exact .deleting hReached hDeleting
  | living _ hGreet hLiving =>
    have hGreeted := ((reached_get key _).greet hGreet).2 _ rfl
    rw [← List.cons_append, ← List.singleton_append]
    rcases hGreeted.living hLiving with
      ⟨hCalm, -⟩ | ⟨first, last, session, held, rfl, hReached,
        ⟨hRecorded, hSync⟩ | ⟨hUnrecorded, hCreate⟩⟩
    · exact .calm hCalm _
    · rw [← List.append_assoc]
      exact .syncing hReached hRecorded hSync
    · rw [← List.append_assoc]
      exact .creating hReached hUnrecorded hCreate

/-! ## Paths of a site -/

section

variable {δ : Type} {C : Circumstances k δ} {S : Surroundings Pass.interface (Site k δ)}
  {s t u v : Site k δ} {y : Exchange Pass.interface}

/-- Only calls of the store change the stored resource. -/
lemma resource_of_step (hStep : C.surroundings key y.call y.answer u v)
    (hOther : y.call.isStore = false) : v.resource = u.resource := by
  obtain ⟨c, answer⟩ := y
  cases c with
  | store c => exact absurd hOther Bool.noConfusion
  | openAccount ns => rw [hStep.1]
  | reference c => rw [hStep.1]
  | directory c =>
    obtain ⟨d, -, rfl⟩ := hStep
    rfl

/-- Only calls of the remote service change it. -/
lemma remote_of_step (hStep : C.surroundings key y.call y.answer u v) (hQuiet : ¬y.call.isRemote) :
    v.remote = u.remote := by
  obtain ⟨c, answer⟩ := y
  cases c with
  | store c => cases hStep <;> rfl
  | openAccount ns => rw [hStep.1]
  | reference c => rw [hStep.1]
  | directory c => exact absurd rfl hQuiet

/-- A pass that finds a resource finds the stored one. -/
lemma found_of_path
    (hPath : (C.surroundings key).Path s (⟨.store (.get k key), .ok (some r)⟩ :: h) t) :
    r = s.resource ∧ (C.surroundings key).Path s h t := by
  obtain ⟨u, hStep, hRest⟩ := Surroundings.path_cons_iff.1 hPath
  cases hStep with
  | found => exact ⟨rfl, hRest⟩

namespace Lifecycle

/-- The courses of a pass over a stored resource that is not being deleted: the resource cannot be
read or greeted, or the pass goes on with it. -/
inductive Attending (settings : Settings) (key : Key) (r : Resource k) :
    List (Exchange Pass.interface) → Except Error Outcome → Prop where
  | unread (e : Error) : Attending settings key r [⟨.store (.get k key), .error e⟩] (.error e)
  | ungreeted {first : List (Exchange Pass.interface)} {e : Error}
      (hGreet : Pass.Traces (greet r) first (.error e)) :
      Attending settings key r (⟨.store (.get k key), .ok (some r)⟩ :: first) (.error e)
  | living {greeted : Resource k} {first rest : List (Exchange Pass.interface)}
      {x : Except Error Outcome} (hGreet : Pass.Traces (greet r) first (.ok greeted))
      (hRest : Living settings key greeted rest x) :
      Attending settings key r (⟨.store (.get k key), .ok (some r)⟩ :: (first ++ rest)) x

/-- A pass over a stored resource that is not being deleted takes one of these courses. -/
lemma Passing.attending {x : Except Error Outcome} (hPassing : Passing settings k key h x)
    (hPath : (C.surroundings key).Path s h t) (hStored : s.isStored) (hLiving : ¬s.isDeleting) :
    Attending settings key s.resource h x := by
  cases hPassing with
  | unread e => exact .unread e
  | absent =>
    obtain ⟨u, hStep, -⟩ := Surroundings.path_cons_iff.1 hPath
    cases hStep with
    | absent hGone => exact absurd (hStored.symm.trans hGone) Bool.noConfusion
  | lost hDeleting =>
    obtain ⟨rfl, -⟩ := found_of_path hPath
    exact absurd hDeleting hLiving
  | ungreeted _ hGreet =>
    obtain ⟨rfl, -⟩ := found_of_path hPath
    exact .ungreeted hGreet
  | dying hDeleting =>
    obtain ⟨rfl, -⟩ := found_of_path hPath
    exact absurd hDeleting hLiving
  | living _ hGreet hRest =>
    obtain ⟨rfl, -⟩ := found_of_path hPath
    exact .living hGreet hRest

end Lifecycle

/-- The resource that the store has returned is stored. -/
lemma resource_of_returns (hStep : C.surroundings key y.call y.answer u v)
    (hReturns : Returns r y) : v.resource = r := by
  cases hReturns with
  | get key' => cases hStep with
    | found => rfl
  | update w => cases hStep with
    | written => rfl
  | updateStatus w => cases hStep with
    | stated => rfl

/-- The resource that the store has returned last is stored. -/
theorem resource_of_path (hPath : (C.surroundings key).Path s h t)
    (hLast : LastWord (Returns r) h) : t.resource = r := by
  obtain ⟨earlier, y, since, rfl, -, hReturns, hSince⟩ := hLast
  obtain ⟨u, -, hRest⟩ := Surroundings.path_append_iff.1 hPath
  obtain ⟨v, hStep, hSince'⟩ := Surroundings.path_cons_iff.1 hRest
  refine hSince'.keeps (J := fun t => t.resource = r) (fun z hMem v w hStep hSame => ?_) ?_
  · exact (resource_of_step hStep (hSince z hMem)).trans hSame
  · exact resource_of_returns hStep hReturns

/-- A resource that is greeted is stored as it is returned. -/
lemma stored_of_greet (hPath : (C.surroundings key).Path s h t)
    (hGreet : Pass.Traces (Lifecycle.greet s.resource) h (.ok w)) : t.resource = w := by
  rcases Lifecycle.traces_greet_iff.1 hGreet with ⟨-, rfl⟩ | ⟨-, rfl, hSame⟩
  · exact resource_of_path hPath (lastAmong_concat (h := []) rfl (.updateStatus _))
  · cases hSame
    rw [Surroundings.path_nil_iff.1 hPath]

/-- A resource that is restored is stored as it is returned. -/
lemma stored_of_restore (hPath : (C.surroundings key).Path s h t)
    (hRestore : Pass.Traces (Lifecycle.restore s.resource) h (.ok w)) : t.resource = w := by
  rcases Lifecycle.traces_restore_iff.1 hRestore with ⟨-, rfl⟩ | ⟨-, rfl, hSame⟩
  · exact resource_of_path hPath (lastAmong_concat (h := []) rfl (.update _))
  · cases hSame
    rw [Surroundings.path_nil_iff.1 hPath]

/-- A resource that is given the finalizer is stored as it is returned. -/
lemma stored_of_hold (hPath : (C.surroundings key).Path s h t)
    (hHold : Pass.Traces (Lifecycle.hold s.resource) h (.ok w)) : t.resource = w := by
  rcases Lifecycle.traces_hold_iff.1 hHold with ⟨-, rfl, hSame⟩ | ⟨-, rfl⟩
  · cases hSame
    rw [Surroundings.path_nil_iff.1 hPath]
  · exact resource_of_path hPath (lastAmong_concat (h := []) rfl (.update _))

/-- A resource that is restored has nothing in it that cannot change and has changed. -/
lemma unaltered_of_restore (hPath : (C.surroundings key).Path s h t)
    (hRestore : Pass.Traces (Lifecycle.restore s.resource) h (.ok w)) :
    t.resource.immutableDrifted = false := by
  rcases Lifecycle.traces_restore_iff.1 hRestore with ⟨-, rfl⟩ | ⟨hUnaltered, rfl, -⟩
  · obtain ⟨_, hStep, hEnd⟩ := Surroundings.path_cons_iff.1 hPath
    obtain rfl := Surroundings.path_nil_iff.1 hEnd
    cases hStep with
    | written =>
      rw [Site.written, ← Resource.status_restoreImmutable s.resource]
      exact Resource.immutableDrifted_restoreImmutable _
  · rw [Surroundings.path_nil_iff.1 hPath]
    exact Bool.eq_false_iff.2 hUnaltered

/-- A resource that is given the finalizer is otherwise as it was. -/
lemma unaltered_of_hold (hPath : (C.surroundings key).Path s h t)
    (hHold : Pass.Traces (Lifecycle.hold s.resource) h (.ok w)) :
    t.resource.immutableDrifted = s.resource.immutableDrifted := by
  rcases Lifecycle.traces_hold_iff.1 hHold with ⟨-, rfl, -⟩ | ⟨-, rfl⟩
  · rw [Surroundings.path_nil_iff.1 hPath]
  · obtain ⟨_, hStep, hEnd⟩ := Surroundings.path_cons_iff.1 hPath
    obtain rfl := Surroundings.path_nil_iff.1 hEnd
    cases hStep with
    | written => rfl

/-- An exchange that only rewords the status keeps the record. -/
lemma sameRecord_of_step (hPath : (C.surroundings key).Path s h u)
    (hStep : C.surroundings key y.call y.answer u v) (hRewords : Rewords k h y) :
    u.resource.SameRecord v.resource := by
  -- a status may be taken though it is answered by an error; either way the record is the same
  have hStated (w : Resource k) (answer : Except Error (Resource k))
      (hWrite : y = ⟨.store (.updateStatus k w), answer⟩) :
      u.resource.SameRecord (u.stated w).resource := by
    obtain ⟨r, c, hLast, rfl⟩ := hRewords w answer hWrite
    rw [← resource_of_path hPath hLast]
    exact ⟨c, rfl⟩
  have hKept (hSame : v.resource.status = u.resource.status) := Resource.sameRecord_of_status hSame
  obtain ⟨c, answer⟩ := y
  cases c with
  | store c =>
    cases hStep with
    | found => exact hKept rfl
    | absent => exact hKept rfl
    | unread => exact hKept rfl
    | written => exact hKept rfl
    | writeRefused => exact hKept rfl
    | writeUnnoticed => exact hKept rfl
    | stated w => exact hStated w _ rfl
    | statementRefused => exact hKept rfl
    | statementUnnoticed w => exact hStated w _ rfl
  | openAccount ns => exact hKept (by rw [hStep.1])
  | reference c => exact hKept (by rw [hStep.1])
  | directory c => exact hKept (by rw [resource_of_step hStep rfl])

/-- Along a path whose writes of the status only reword it, or have no effect, the record stays the
same. -/
theorem sameRecord_of_path {P : Exchange Pass.interface → Prop}
    (hS : ∀ c answer u v, S c answer u v → C.surroundings key c answer u v)
    (hIdle : ∀ y u v, P y → S y.call y.answer u v → v = u) (hPath : S.Path s h t)
    (hTurn : InTurn (fun before y => P y ∨ Rewords k before y) h) :
    s.resource.SameRecord t.resource := by
  -- the induction is on what is left of the path, after a part along which the record has stayed
  -- the same
  suffices hRest : ∀ (rest before : List (Exchange Pass.interface)) (u : Site k δ),
      (C.surroundings key).Path s before u → s.resource.SameRecord u.resource → S.Path u rest t →
      InTurn (fun earlier y => P y ∨ Rewords k (before ++ earlier) y) rest →
      s.resource.SameRecord t.resource from
    hRest h [] s (.nil s) (Resource.sameRecord_of_status rfl) hPath hTurn
  intro rest
  induction rest with
  | nil =>
    intro before u _ hSame hPath _
    rwa [Surroundings.path_nil_iff.1 hPath]
  | cons y rest ih =>
    intro before u hBefore hSame hPath hTurn
    obtain ⟨v, hStep, hPath⟩ := Surroundings.path_cons_iff.1 hPath
    obtain ⟨hFirst, hTurn⟩ := inTurn_cons_iff.1 hTurn
    rw [List.append_nil] at hFirst
    have hNext : u.resource.SameRecord v.resource := by
      rcases hFirst with hP | hRewords
      · rw [hIdle y u v hP hStep]
        exact Resource.sameRecord_of_status rfl
      · exact sameRecord_of_step hBefore (hS _ _ _ _ hStep) hRewords
    refine ih (before ++ [y]) v ?_ (hSame.trans hNext) hPath (hTurn.imp fun earlier z hz => ?_)
    · exact Surroundings.path_concat_iff.2 ⟨u, hBefore, hS _ _ _ _ hStep⟩
    · rwa [List.append_assoc, List.singleton_append]

/-- Along a path whose writes of the status only reword it, the record stays the same. -/
lemma sameRecord_of_rewords (hPath : (C.surroundings key).Path s h t)
    (hTurn : InTurn (Rewords k) h) : s.resource.SameRecord t.resource :=
  sameRecord_of_path (P := fun _ => False) (fun _ _ _ _ hStep => hStep)
    (fun _ _ _ hNo => hNo.elim) hPath (hTurn.imp fun _ _ hReword => .inr hReword)

end

end IamReconciler
