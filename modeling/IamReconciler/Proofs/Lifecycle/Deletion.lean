import IamReconciler.Proofs.Lifecycle.Records

/-!
# When a resource is let go

A resource that is being deleted is held back by the finalizer of its kind until a pass writes it
without the finalizer.  There are three reasons to do so (`MayLetGo`): the spec is broken and
nothing was ever recorded; the account could not be opened; or the recorded entity is gone, and the
store has taken the status that says so.

The main statement is `releases_iff_of_deleting`: a pass over such a resource lets it go exactly for
one of these reasons, whatever was answered.  Otherwise it ends with an error and leaves the record
of the resource as it was.  In no case does it create or update an entity, or add a finalizer.  Of
the store it is assumed that it returns a resource with the finalizers that it was given.
-/

namespace IamReconciler

open Directory (Call)

/-- A write of a resource without the finalizer. -/
inductive Releases (k : Kind) : Exchange Pass.interface → Prop where
  | update {w : Resource k} {answer : Except Error (Resource k)}
      (hLacks : ¬w.metadata.finalizerSet.has k.finalizer) :
      Releases k ⟨.store (.update k w), answer⟩

/-- The account could not be opened. -/
inductive AccountRefused (ns : String) : Exchange Pass.interface → Prop where
  | error (e : Error) : AccountRefused ns ⟨.openAccount ns, .error e⟩

/-- The account was opened. -/
inductive AccountOpened (ns : String) : Exchange Pass.interface → Prop where
  | ok (session : Session) : AccountOpened ns ⟨.openAccount ns, .ok session⟩

/-- Why a pass that has read `r`, which is being deleted, may let it go. -/
inductive MayLetGo (k : Kind) (key : Key) (r : Resource k) (h : List (Exchange Pass.interface)) :
    Prop where
  /-- The spec is broken, nothing is recorded, and nothing was asked of the accounts, the references
  and the service. -/
  | abandoned {x : Resource k} (hExamined : Examined k key r h x) (hBroken : ¬x.isWellFormed)
      (hUnrecorded : x.remoteId = "") (hUnasked : ∀ y ∈ h, y.call.isStore)
  /-- The account could not be opened, and the service was not called. -/
  | unaccounted (hRefused : ∃ y ∈ h, AccountRefused key.ns y) (hUncalled : ¬CalledRemote h)
  /-- The account was opened, no entity is recorded or the recorded one is gone, and the store has
  taken the status that says so. -/
  | gone {x : Resource k} (hExamined : Examined k key r h x)
      (hOpened : ∃ y ∈ h, AccountOpened key.ns y) (hGone : x.remoteId = "" ∨
        ∃ y ∈ h, EntityGone (k.entity x.remoteId) y)
      (hStated : ∃ w stored : Resource k, (∃ y ∈ h, StatusTaken w stored y) ∧ w.state = .deleted ∧
        w.remoteId = "")

/-- A status that the store took leaves the record and the metadata of the resource that it had
returned last. -/
def LeavesRecord (k : Kind) (before : List (Exchange Pass.interface))
    (y : Exchange Pass.interface) : Prop :=
  ∀ w stored : Resource k, StatusTaken w stored y →
    ∃ x : Resource k, LastWord (Returns x) before ∧ w.remoteId = x.remoteId ∧
    w.metadata = x.metadata

/-- The store returns the finalizers of a status write that it takes. -/
def KeepsFinalizers (k : Kind) (y : Exchange Pass.interface) : Prop :=
  ∀ w stored : Resource k, StatusTaken w stored y → stored.metadata.finalizerSet =
    w.metadata.finalizerSet

/-- An exchange that neither writes metadata nor creates or updates an entity. -/
structure Harmless (y : Exchange Pass.interface) : Prop where
  unwritten : ¬y.call.writesMetadata
  unchanged : ∀ c, y.call = .directory c → c.creates? = none ∧ c.updates? = none

/-- A harmless exchange lets nothing go. -/
lemma Harmless.not_releases {k : Kind} {y : Exchange Pass.interface} (hHarmless : Harmless y) :
    ¬Releases k y := by
  rintro ⟨-⟩
  exact hHarmless.unwritten rfl

namespace Deletion

variable {k : Kind} {settings : Settings} {key : Key} {r x w z : Resource k}
  {h rest : List (Exchange Pass.interface)} {y : Exchange Pass.interface}

/-! ## Histories of passes over resources that are being deleted -/

/-- An exchange that is harmless and is no reason to let a resource go. -/
structure Idle (k : Kind) (key : Key) (y : Exchange Pass.interface) : Prop extends Harmless y where
  accounted : ¬AccountRefused key.ns y
  unstated : ∀ w stored : Resource k, StatusTaken w stored y → w.state ≠ .deleted

/-- The history of a pass that examines `x` as the store returned it last, and has no reason yet to
let it go. -/
structure Waiting (k : Kind) (key : Key) (r x : Resource k) (h : List (Exchange Pass.interface)) :
    Prop where
  examined : Examined k key r h x
  last : LastWord (Returns x) h
  idle : ∀ y ∈ h, Idle k key y
  records : InTurn (LeavesRecord k) h

/-- The history of a pass that has opened the account, too. -/
structure Admitted (k : Kind) (key : Key) (r x : Resource k) (h : List (Exchange Pass.interface)) :
    Prop extends Waiting k key r x h where
  opened : ∃ y ∈ h, AccountOpened key.ns y

/-- A resource was let go, for a reason. -/
def Left (k : Kind) (key : Key) (r : Resource k) (h : List (Exchange Pass.interface)) : Prop :=
  ∃ before w answer, h = before ++ [⟨.store (.update k w), answer⟩] ∧ MayLetGo k key r before ∧
    w.metadata.finalizerSet = r.metadata.finalizerSet.erase k.finalizer ∧ ∀ y ∈ before, Harmless y

/-- A resource was kept as it was, without a reason to let it go. -/
structure Kept (k : Kind) (key : Key) (r : Resource k) (h : List (Exchange Pass.interface)) :
    Prop where
  harmless : ∀ y ∈ h, Harmless y
  unreleased : ¬MayLetGo k key r h
  records : InTurn (LeavesRecord k) h

/-- The pass waits on after an idle exchange in which the store said nothing. -/
lemma Waiting.concat (hW : Waiting k key r x h) (hIdle : Idle k key y) (hSilent : ¬y.call.isStore) :
    Waiting k key r x (h ++ [y]) where
  examined := hW.examined.append _
  last := hW.last.concat (Bool.eq_false_iff.2 hSilent)
  idle := forall_mem_concat_iff.2 ⟨hW.idle, hIdle⟩
  records := by
    refine inTurn_concat_iff.2 ⟨hW.records, fun w stored hTaken => ?_⟩
    exact absurd hTaken.isStore hSilent

/-- With an open account, idle exchanges are no reason to let a resource go. -/
lemma kept_of_idle (hIdle : ∀ y ∈ h, Idle k key y) (hOpened : ∃ y ∈ h, AccountOpened key.ns y)
    (hRecords : InTurn (LeavesRecord k) h) : Kept k key r h where
  harmless y hMem := (hIdle y hMem).toHarmless
  unreleased := by
    intro hMay
    cases hMay with
    | abandoned _ _ _ hUnasked =>
      obtain ⟨y, hMem, ⟨session⟩⟩ := hOpened
      exact Bool.false_ne_true (hUnasked _ hMem)
    | unaccounted hRefused _ =>
      obtain ⟨y, hMem, hRefused⟩ := hRefused
      exact (hIdle y hMem).accounted hRefused
    | gone _ _ _ hStated =>
      obtain ⟨w, stored, ⟨y, hMem, hTaken⟩, hDeleted, -⟩ := hStated
      exact (hIdle y hMem).unstated w stored hTaken hDeleted
  records := hRecords

/-! ## Exchanges -/

/-- An account that was opened is no reason to let a resource go. -/
lemma idle_openAccount (session : Session) : Idle k key ⟨.openAccount key.ns, .ok session⟩ :=
  ⟨⟨nofun, nofun⟩, nofun, fun _ _ hTaken => nomatch hTaken⟩

/-- The deletion of an entity is no reason by itself. -/
lemma idle_deletion {c : Call} {e : Directory.Entity} (hDeletes : c.deletes? = some e)
    (answer : c.Answer) : Idle k key ⟨.directory c, answer⟩ := by
  refine ⟨⟨nofun, ?_⟩, nofun, fun _ _ hTaken => nomatch hTaken⟩
  rintro _ ⟨⟩
  exact ⟨Call.creates?_of_deletes? hDeletes, Call.updates?_of_deletes? hDeletes⟩

/-- A status that says anything but that the entity is deleted is no reason. -/
lemma idle_updateStatus (hState : w.state ≠ .deleted) (answer : Except Error (Resource k)) :
    Idle k key ⟨.store (.updateStatus k w), answer⟩ := by
  refine ⟨⟨nofun, nofun⟩, nofun, ?_⟩
  rintro _ _ ⟨⟩
  exact hState

/-- A status that the store refuses is no reason. -/
lemma idle_updateStatus_error (w : Resource k) (e : Error) :
    Idle k key ⟨.store (.updateStatus k w), .error e⟩ :=
  ⟨⟨nofun, nofun⟩, nofun, fun _ _ hTaken => nomatch hTaken⟩

/-- A new condition leaves the record. -/
lemma leavesRecord_moveTo (hLast : LastWord (Returns x) h) (c : Condition)
    (answer : Except Error (Resource k)) :
    LeavesRecord k h ⟨.store (.updateStatus k (x.moveTo c)), answer⟩ := by
  rintro _ _ ⟨⟩
  exact ⟨x, hLast, rfl, rfl⟩

/-- A status that the store refuses leaves the record. -/
lemma leavesRecord_error (w : Resource k) (e : Error) :
    LeavesRecord k h ⟨.store (.updateStatus k w), .error e⟩ :=
  fun _ _ hTaken => nomatch hTaken

/-! ## Courses -/

/-- A resource with the finalizer is let go for a reason. -/
lemma left_of_release (hMay : MayLetGo k key r h) (hHarmless : ∀ y ∈ h, Harmless y)
    (hHeld : r.metadata.finalizerSet.has k.finalizer)
    (hSame : z.metadata.finalizerSet = r.metadata.finalizerSet) {x' : Except Error Outcome}
    (hRelease : Pass.Traces (Lifecycle.release z) rest x') : Left k key r (h ++ rest) := by
  rcases Lifecycle.traces_release hRelease with ⟨-, answer, rfl, -⟩ | ⟨hLacks, -⟩
  · refine ⟨h, _, answer, rfl, hMay, ?_, hHarmless⟩
    rw [Resource.finalizerSet_withFinalizers, hSame]
  · rw [hSame] at hLacks
    exact absurd hHeld hLacks

namespace Admitted

/-- A resource is kept when a failure is told. -/
lemma told (hA : Admitted k key r x h) {step : Step} {e : Error}
    (hTelling : Lifecycle.Telling x (.failure k step e) rest) : Kept k key r (h ++ rest) := by
  cases hTelling with
  | known =>
    rw [List.append_nil]
    exact kept_of_idle hA.idle hA.opened hA.records
  | told _ answer =>
    refine kept_of_idle ?_ (exists_mem_concat hA.opened) ?_
    · exact forall_mem_concat_iff.2 ⟨hA.idle, idle_updateStatus State.noConfusion answer⟩
    · exact inTurn_concat_iff.2 ⟨hA.records, leavesRecord_moveTo hA.last _ answer⟩

/-- The account stays open while the entity is deleted. -/
lemma called (hA : Admitted k key r x h) {c : Call} {e : Directory.Entity}
    (hDeletes : c.deletes? = some e) (answer : c.Answer) :
    Admitted k key r x (h ++ [⟨.directory c, answer⟩]) where
  toWaiting := hA.toWaiting.concat (idle_deletion hDeletes answer) Bool.false_ne_true
  opened := exists_mem_concat hA.opened

/-- The recorded entity is gone when it was removed. -/
lemma removed (hA : Admitted k key r x h) (hRemoving : Lifecycle.Removing x rest) :
    Admitted k key r x (h ++ rest) ∧
      (x.remoteId = "" ∨ ∃ y ∈ h ++ rest, EntityGone (k.entity x.remoteId) y) := by
  cases hRemoving with
  | unrecorded hNone =>
    rw [List.append_nil]
    exact ⟨hA, .inl (Resource.not_isRecorded_iff.1 hNone)⟩
  | removed _ hDeletes hGone =>
    exact ⟨hA.called hDeletes _, .inr ⟨_, List.mem_concat_self, .directory hDeletes hGone⟩⟩

/-- A deletion lets the resource go after the store has taken the status that says so; else it keeps
the resource and fails. -/
lemma deleting (hA : Admitted k key r x h) (hHeld : r.metadata.finalizerSet.has k.finalizer)
    (hSame : x.metadata.finalizerSet = r.metadata.finalizerSet)
    (hKeeps : ∀ y ∈ rest, KeepsFinalizers k y) {x' : Except Error Outcome}
    (hDeleting : Lifecycle.Deleting x rest x') :
    Left k key r (h ++ rest) ∨ Kept k key r (h ++ rest) ∧ ∃ e, x' = .error e := by
  have hHarmless {t : List (Exchange Pass.interface)} (hA : Admitted k key r x t)
      (answer : Except Error (Resource k)) :
      ∀ y ∈ t ++ [⟨.store (.updateStatus k (x.moveTo (.deleted k)).forgetRemote), answer⟩],
        Harmless y :=
    forall_mem_concat_iff.2 ⟨fun y hMem => (hA.idle y hMem).toHarmless, nofun, nofun⟩
  cases hDeleting with
  | kept _ hDeletes _ hTold =>
    rw [← List.singleton_append, ← List.append_assoc]
    exact .inr ⟨(hA.called hDeletes _).told hTold, _, rfl⟩
  | @unstated first e hRemoving =>
    obtain ⟨hA, -⟩ := hA.removed hRemoving
    rw [← List.append_assoc]
    refine .inr ⟨kept_of_idle ?_ (exists_mem_concat hA.opened) ?_, e, rfl⟩
    · exact forall_mem_concat_iff.2 ⟨hA.idle, idle_updateStatus_error _ e⟩
    · exact inTurn_concat_iff.2 ⟨hA.records, leavesRecord_error _ e⟩
  | @stated first last stored _ hRemoving hRelease =>
    obtain ⟨hA, hGone⟩ := hA.removed hRemoving
    -- the store has answered with what it holds now, and that has the same finalizers
    have hTaken := hKeeps _ (List.mem_append_right first List.mem_cons_self)
    have hStored : stored.metadata.finalizerSet = r.metadata.finalizerSet := by
      rw [hTaken _ stored .updateStatus, Resource.metadata_forgetRemote, Resource.metadata_moveTo,
        hSame]
    have hMay : MayLetGo k key r (h ++ first ++
        [⟨.store (.updateStatus k (x.moveTo (.deleted k)).forgetRemote), .ok stored⟩]) := by
      refine .gone (hA.examined.append _) (exists_mem_concat hA.opened)
        (hGone.imp_right exists_mem_concat) ⟨(x.moveTo (.deleted k)).forgetRemote, stored, ?_⟩
      exact ⟨⟨_, List.mem_concat_self, .updateStatus⟩, Resource.state_forgetRemote _,
        Resource.remoteId_forgetRemote _⟩
    have hLeft := left_of_release hMay (hHarmless hA _) hHeld hStored hRelease
    rw [List.append_assoc, List.append_assoc, List.singleton_append] at hLeft
    exact .inl hLeft

end Admitted

/-- A pass over a resource that is being deleted lets it go for a reason, or keeps it and fails. -/
lemma Waiting.dying (hW : Waiting k key r x h) (hUnasked : ∀ y ∈ h, y.call.isStore)
    (hHeld : r.metadata.finalizerSet.has k.finalizer)
    (hSame : x.metadata.finalizerSet = r.metadata.finalizerSet)
    (hKeeps : ∀ y ∈ rest, KeepsFinalizers k y) {x' : Except Error Outcome}
    (hDying : Lifecycle.Dying key x rest x') :
    Left k key r (h ++ rest) ∨ Kept k key r (h ++ rest) ∧ ∃ e, x' = .error e := by
  have hHarmless : ∀ y ∈ h, Harmless y := fun y hMem => (hW.idle y hMem).toHarmless
  cases hDying with
  | abandoned hAbandoned hRelease =>
    obtain ⟨hUnrecorded, hBroken⟩ := (Bool.and_eq_true _ _).mp hAbandoned
    have hMay : MayLetGo k key r h := by
      refine .abandoned hW.examined ?_ (Resource.not_isRecorded_iff.1 ?_) hUnasked
      · simpa using hBroken
      · simpa using hUnrecorded
    exact .inl (left_of_release hMay hHarmless hHeld hSame hRelease)
  | unopened _ e hRelease =>
    -- nothing but the store was asked before the account, so that the service was not called
    have hMay : MayLetGo k key r (h ++ [⟨.openAccount key.ns, .error e⟩]) := by
      refine .unaccounted ⟨_, List.mem_concat_self, .error e⟩ fun hCalled => ?_
      rcases calledRemote_concat_iff.1 hCalled with ⟨y, hMem, hRemote⟩ | hRemote
      · exact Pass.Call.not_isRemote_of_isStore (hUnasked y hMem) hRemote
      · exact Bool.false_ne_true hRemote
    have hAsked : ∀ y ∈ h ++ [⟨.openAccount key.ns, .error e⟩], Harmless y :=
      forall_mem_concat_iff.2 ⟨hHarmless, nofun, nofun⟩
    rw [← List.singleton_append, ← List.append_assoc]
    exact .inl (left_of_release hMay hAsked hHeld hSame hRelease)
  | opened _ session hDelete =>
    have hA : Admitted k key r x (h ++ [⟨.openAccount key.ns, .ok session⟩]) :=
      ⟨hW.concat (idle_openAccount session) Bool.false_ne_true, _, List.mem_concat_self,
        .ok session⟩
    rw [← List.singleton_append, ← List.append_assoc]
    exact hA.deleting hHeld hSame (fun y hMem => hKeeps y (List.mem_cons_of_mem _ hMem)) hDelete

/-! ## The pass -/

/-- Reading a resource is no reason to let it go. -/
lemma idle_get (found : Option (Resource k)) : Idle k key ⟨.store (.get k key), .ok found⟩ :=
  ⟨⟨nofun, nofun⟩, nofun, fun _ _ hTaken => nomatch hTaken⟩

/-- Without an answer to the pending status nothing is examined. -/
lemma not_examined (hUnset : r.isUnset) {e : Error} : ¬Examined k key r
    [⟨.store (.get k key), .ok (some r)⟩,
      ⟨.store (.updateStatus k (r.moveTo .processing)), .error e⟩] x := by
  rintro ⟨opening, hOpening, hPrefix⟩
  cases hOpening with
  | seen hSeen => exact hSeen hUnset
  | greeted _ x =>
    have hSame := hPrefix.eq_of_length rfl
    rw [List.cons_inj_right, List.singleton_inj] at hSame
    cases hSame

/-- A resource whose pending status the store refuses is kept. -/
lemma kept_of_ungreeted (hUnset : r.isUnset) (e : Error) : Kept k key r
    [⟨.store (.get k key), .ok (some r)⟩,
      ⟨.store (.updateStatus k (r.moveTo .processing)), .error e⟩] where
  harmless := by
    rw [List.forall_mem_cons, List.forall_mem_singleton]
    exact ⟨⟨nofun, nofun⟩, ⟨nofun, nofun⟩⟩
  unreleased := by
    intro hMay
    cases hMay with
    | abandoned hExamined => exact not_examined hUnset hExamined
    | unaccounted hRefused =>
      obtain ⟨y, hMem, ⟨e'⟩⟩ := hRefused
      simp only [List.mem_cons, List.not_mem_nil, or_false] at hMem
      rcases hMem with hGet | hPending
      · cases hGet
      · cases hPending
    | gone hExamined => exact not_examined hUnset hExamined
  records := by
    refine (inTurn_concat_iff (h := [_])).2 ⟨inTurn_singleton_iff.2 ?_, leavesRecord_error _ e⟩
    exact fun _ _ hTaken => nomatch hTaken

/-- A pass that has greeted a resource waits, and has asked nobody but the store. -/
lemma waiting_of_greet (hKeeps : ∀ y ∈ rest, KeepsFinalizers k y)
    (hGreet : Pass.Traces (Lifecycle.greet r) rest (.ok x)) :
    Waiting k key r x (⟨.store (.get k key), .ok (some r)⟩ :: rest) ∧
      (∀ y ∈ (⟨.store (.get k key), .ok (some r)⟩ : Exchange Pass.interface) :: rest,
        y.call.isStore) ∧
      x.metadata.finalizerSet = r.metadata.finalizerSet := by
  have hRead : InTurn (LeavesRecord k) [⟨.store (.get k key), .ok (some r)⟩] :=
    inTurn_singleton_iff.2 fun _ _ hTaken => nomatch hTaken
  have hReturned : LastWord (Returns r) [⟨.store (.get k key), .ok (some r)⟩] :=
    lastAmong_concat (h := []) rfl (.get key)
  rcases Lifecycle.traces_greet_iff.1 hGreet with ⟨hUnset, rfl⟩ | ⟨hSeen, rfl, hSame⟩
  · refine ⟨⟨⟨_, .greeted hUnset x, List.prefix_rfl⟩, ?_, ?_, ?_⟩, ?_, ?_⟩
    · exact lastAmong_concat (h := [_]) rfl (.updateStatus _)
    · refine List.forall_mem_cons.2 ⟨idle_get _, List.forall_mem_singleton.2 ?_⟩
      exact idle_updateStatus State.noConfusion _
    · exact (inTurn_concat_iff (h := [_])).2 ⟨hRead, leavesRecord_moveTo hReturned _ _⟩
    · exact List.forall_mem_cons.2 ⟨rfl, List.forall_mem_singleton.2 rfl⟩
    · exact hKeeps _ List.mem_cons_self (r.moveTo .processing) x .updateStatus
  · cases hSame
    refine ⟨⟨⟨_, .seen hSeen, List.prefix_rfl⟩, hReturned, ?_, hRead⟩, ?_, rfl⟩
    · exact List.forall_mem_singleton.2 (idle_get _)
    · exact List.forall_mem_singleton.2 rfl

/-- A resource with the finalizer that is being deleted is let go for a reason, or kept with an
error. -/
lemma left_of_passing {x' : Except Error Outcome}
    (hPassing : Lifecycle.Passing settings k key h x')
    (hFound : h.head? = some ⟨.store (.get k key), .ok (some r)⟩)
    (hDeleting : r.metadata.isDeleting) (hHeld : r.metadata.finalizerSet.has k.finalizer)
    (hKeeps : ∀ y ∈ h, KeepsFinalizers k y) :
    Left k key r h ∨ Kept k key r h ∧ ∃ e, x' = .error e := by
  cases hPassing with
  | unread => cases hFound
  | absent => cases hFound
  | lost _ hLost =>
    cases hFound
    exact absurd hHeld hLost
  | ungreeted _ hGreet =>
    cases hFound
    rcases Lifecycle.traces_greet_iff.1 hGreet with ⟨hUnset, rfl⟩ | ⟨-, -, hOk⟩
    · exact .inr ⟨kept_of_ungreeted hUnset _, _, rfl⟩
    · cases hOk
  | dying _ _ hGreet hDying =>
    cases hFound
    obtain ⟨hFirst, hLast⟩ := List.forall_mem_append.1 (List.forall_mem_cons.1 hKeeps).2
    obtain ⟨hW, hUnasked, hSame⟩ : Waiting k key r _ _ ∧ _ ∧ _ := waiting_of_greet hFirst hGreet
    rw [← List.cons_append]
    exact hW.dying hUnasked hHeld hSame hLast hDying
  | living hLiving =>
    cases hFound
    exact absurd hDeleting hLiving

/-! ## Reasons and writes -/

/-- A reason remains one when metadata is written. -/
lemma mayLetGo_concat (hMay : MayLetGo k key r h) (answer : Except Error (Resource k)) :
    MayLetGo k key r (h ++ [⟨.store (.update k w), answer⟩]) := by
  cases hMay with
  | abandoned hExamined hBroken hUnrecorded hUnasked =>
    exact .abandoned (hExamined.append _) hBroken hUnrecorded
      (forall_mem_concat_iff.2 ⟨hUnasked, rfl⟩)
  | unaccounted hRefused hUncalled =>
    refine .unaccounted (exists_mem_concat hRefused) fun hCalled => ?_
    exact (calledRemote_concat_iff.1 hCalled).elim hUncalled Bool.false_ne_true
  | gone hExamined hOpened hGone hStated =>
    obtain ⟨w', stored, hTaken, hDeleted, hForgotten⟩ := hStated
    exact .gone (hExamined.append _) (exists_mem_concat hOpened) (hGone.imp_right exists_mem_concat)
      ⟨w', stored, exists_mem_concat hTaken, hDeleted, hForgotten⟩

end Deletion

/-- A pass over a resource of any kind that is being deleted and has the finalizer, whatever the
store, the accounts, the references and the service answer, as long as the store returns the
finalizers that it was given.  The resource is written without the finalizer exactly when there is a
reason to let it go, and then there was one before that write. When it is not, the pass ends with an
error, no metadata is written, and each status that the store took leaves the record of the
resource.  In no case is an entity created or updated, and no metadata is written but without the
finalizer. -/
theorem releases_iff_of_deleting {settings : Settings} {k : Kind} {key : Key} {r : Resource k}
    {trace : List (Exchange Pass.interface)} {outcome : Outcome}
    (hRun : (reconcile settings k key).Runs (.free _) () trace outcome ())
    (hFound : trace.head? = some ⟨.store (.get k key), .ok (some r)⟩)
    (hDeleting : r.metadata.isDeleting) (hHeld : r.metadata.finalizerSet.has k.finalizer)
    (hKeeps : ∀ y ∈ trace, KeepsFinalizers k y) :
    ((∃ y ∈ trace, Releases k y) ↔ MayLetGo k key r trace) ∧
      (∀ before y after, trace = before ++ y :: after → Releases k y → MayLetGo k key r before) ∧
      ((¬∃ y ∈ trace, Releases k y) →
        outcome.error ≠ none ∧ (∀ y ∈ trace, ¬y.call.writesMetadata) ∧
          ∀ before y after, trace = before ++ y :: after → LeavesRecord k before y) ∧
      (∀ y ∈ trace, ∀ c, y.call = .directory c → c.creates? = none ∧ c.updates? = none) ∧
      ∀ y ∈ trace, ∀ w : Resource k, y.call = .store (.update k w) →
        w.metadata.finalizerSet = r.metadata.finalizerSet.erase k.finalizer := by
  obtain ⟨x', hPassing, rfl⟩ :=
    Lifecycle.passing_of_reconcile (Program.runs_iff.1 hRun).1
  -- either the last exchange lets the resource go, and no earlier one does, or none does
  rcases Deletion.left_of_passing hPassing hFound hDeleting hHeld hKeeps with
    ⟨before, w, answer, rfl, hMay, hErased, hHarmless⟩ | ⟨hKept, e, rfl⟩
  · have hLast : (⟨.store (.update k w), answer⟩ : Exchange Pass.interface) ∈
        before ++ [⟨.store (.update k w), answer⟩] := List.mem_concat_self
    have hReleases : Releases k ⟨.store (.update k w), answer⟩ := by
      refine .update ?_
      rw [hErased, Finalizers.has_erase]
      exact Bool.false_ne_true
    have hInTurn : InTurn (fun earlier y => Releases k y → MayLetGo k key r earlier)
        (before ++ [⟨.store (.update k w), answer⟩]) := by
      refine inTurn_concat_iff.2 ⟨fun earlier y since hSplit hReleased => ?_, fun _ => hMay⟩
      have hMem : y ∈ before := by
        rw [hSplit]
        exact List.mem_append_right _ List.mem_cons_self
      exact absurd hReleased (hHarmless y hMem).not_releases
    refine ⟨⟨fun _ => Deletion.mayLetGo_concat hMay answer, fun _ => ⟨_, hLast, hReleases⟩⟩,
      hInTurn, fun hNever => absurd ⟨_, hLast, hReleases⟩ hNever, ?_, ?_⟩
    · exact forall_mem_concat_iff.2 ⟨fun y hMem => (hHarmless y hMem).unchanged, nofun⟩
    · refine forall_mem_concat_iff.2 ⟨fun y hMem w' hWrite => ?_, ?_⟩
      · refine absurd ?_ (hHarmless y hMem).unwritten
        rw [hWrite]
        rfl
      · rintro _ ⟨⟩
        exact hErased
  · have hNever : ¬∃ y ∈ trace, Releases k y := by
      rintro ⟨y, hMem, hReleases⟩
      exact (hKept.harmless y hMem).not_releases hReleases
    refine ⟨iff_of_false hNever hKept.unreleased, fun before y after hSplit hReleases =>
      ?_, fun _ => ?_, ?_, ?_⟩
    · refine absurd ⟨y, ?_, hReleases⟩ hNever
      rw [hSplit]
      exact List.mem_append_right _ List.mem_cons_self
    · exact ⟨Option.some_ne_none e, fun y hMem => (hKept.harmless y hMem).unwritten, hKept.records⟩
    · exact fun y hMem => (hKept.harmless y hMem).unchanged
    · intro y hMem w hWrite
      refine absurd ?_ (hKept.harmless y hMem).unwritten
      rw [hWrite]
      rfl

/-! ## A policy that is gone already -/

namespace Deletion

/-- An authorization policy with a broken spec that is recorded, has its finalizer and is being
deleted. -/
def doomedPolicy : Resource .authorizationPolicy where
  metadata :=
    { name := some "grant", ns := some "team",
      finalizers := some [Kind.authorizationPolicy.finalizer],
      deletionTimestamp := some ⟨⟨2024, 1, 1⟩, 0, 0, 0, by decide⟩ }
  spec := .blank
  status := some ⟨.created .authorizationPolicy, ⟨"policy-1"⟩, .blank⟩

/-- The policy after the status says that the entity is deleted. -/
def deletedPolicy : Resource .authorizationPolicy :=
  (doomedPolicy.moveTo (.deleted .authorizationPolicy)).forgetRemote

/-- The policy without the finalizer. -/
def freedPolicy : Resource .authorizationPolicy :=
  deletedPolicy.withFinalizers
    (deletedPolicy.metadata.finalizerSet.erase Kind.authorizationPolicy.finalizer)

/-- The calls of a pass that finds the entity gone, says so, and lets the policy go. -/
def goneTrace : List (Exchange Pass.interface) :=
  [ ⟨.store (.get .authorizationPolicy ⟨"team", "grant"⟩), .ok (some doomedPolicy)⟩,
    ⟨.openAccount "team", .ok ⟨"account"⟩⟩,
    ⟨.directory (.deletePolicy "policy-1"), .error (.notFound "policy" "policy-1")⟩,
    ⟨.store (.updateStatus .authorizationPolicy deletedPolicy), .ok deletedPolicy⟩,
    ⟨.store (.update .authorizationPolicy freedPolicy), .ok freedPolicy⟩ ]

/-- The pass that finds the entity gone. -/
lemma runs_gone :
    (reconcile {} .authorizationPolicy ⟨"team", "grant"⟩).Runs (.free _)
      () goneTrace .finished () :=
  .answered _ <| .answered _ <| .answered _ <| .answered _ <| .answered _ <| .done _ _

/-- The store returns the finalizers that it was given. -/
lemma keepsFinalizers_goneTrace : ∀ y ∈ goneTrace, KeepsFinalizers .authorizationPolicy y := by
  intro y hMem w stored hTaken
  simp only [goneTrace, List.mem_cons, List.not_mem_nil, or_false] at hMem
  rcases hMem with rfl | rfl | rfl | rfl | rfl
  · nomatch hTaken
  · nomatch hTaken
  · nomatch hTaken
  · cases hTaken
    rfl
  · nomatch hTaken

end Deletion

/-- The policy is written without the finalizer, and there is a reason to let it go. -/
theorem releases_of_goneTrace :
    (∃ y ∈ Deletion.goneTrace, Releases .authorizationPolicy y) ∧
      MayLetGo .authorizationPolicy ⟨"team", "grant"⟩ Deletion.doomedPolicy Deletion.goneTrace := by
  have hReleases : ∃ y ∈ Deletion.goneTrace, Releases .authorizationPolicy y := by
    refine ⟨⟨.store (.update .authorizationPolicy Deletion.freedPolicy), .ok Deletion.freedPolicy⟩,
      ?_, .update ?_⟩
    · simp only [Deletion.goneTrace, List.mem_cons, true_or, or_true]
    · decide
  refine ⟨hReleases, ?_⟩
  have hDeletion :=
    releases_iff_of_deleting Deletion.runs_gone rfl rfl rfl Deletion.keepsFinalizers_goneTrace
  exact hDeletion.1.1 hReleases

end IamReconciler
