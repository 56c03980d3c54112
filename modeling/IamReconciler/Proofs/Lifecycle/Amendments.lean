import IamReconciler.Proofs.Finalizers
import IamReconciler.Proofs.Lifecycle.Forgetting
import IamReconciler.Proofs.Lifecycle.Ordering
import IamReconciler.Proofs.Lifecycle.Records

/-!
# What a pass writes of metadata and spec

A resource belongs to its owner, and its finalizers belong to several controllers.  A pass writes
metadata and spec for three reasons only (`Amends`): it adds the finalizer of the kind to a resource
that is not being deleted, it removes that finalizer from one that is, or it sets back the name and
the service of a custom role.  Each write starts from what the store has returned last and changes
nothing else.

The main statement is `amends_of_run`, which holds whatever was answered.  It also says that the
finalizers of other controllers stay listed, in the order of their first occurrences, that no pass
both adds and removes the finalizer, and that no pass writes metadata more than twice.
-/

namespace IamReconciler

variable {k : Kind} {settings : Settings} {key : Key} {scope : Scope} {found r w : Resource k}
  {h rest trace : List (Exchange Pass.interface)} {outcome : Outcome} {n : Nat}

/-! ## Amendments -/

/-- How a write of a pass that has read `found` may differ from what the store has returned last. -/
inductive Amends : {k : Kind} → (found r w : Resource k) → Prop where
  /-- The finalizer is added after the first occurrences of those that were listed. -/
  | held {k : Kind} {found r : Resource k} (hLiving : ¬found.metadata.isDeleting)
      (hLacks : k.finalizer ∉ r.metadata.listed) :
      Amends found r
        { r with
          metadata := { r.metadata with
            finalizers := some (r.metadata.listed.eraseDups ++ [k.finalizer]) } }
  /-- The finalizer is removed, and the first occurrences of the others are left. -/
  | released {k : Kind} {found r : Resource k} {others : List String}
      (hDeleting : found.metadata.isDeleting) (hHas : k.finalizer ∈ r.metadata.listed)
      (hOthers : others = r.metadata.listedBesides k.finalizer) :
      Amends found r
        { r with
          metadata :=
            { r.metadata with finalizers := if others.isEmpty then none else some others.eraseDups }
              }
  /-- The name and the service of a recorded role are those that were applied. -/
  | restored {found r : Resource .customRole} (hLiving : ¬found.metadata.isDeleting)
      (hRecorded : r.isRecorded) : Amends found r
        { r with
          spec :=
            { r.spec with
              roleName := r.statusOrBlank.applied.roleName
              serviceClass := r.statusOrBlank.applied.serviceClass } }

namespace Amends

/-- The finalizers of other controllers are listed in the order of their first occurrences. -/
lemma eraseDups_listedBesides (hAmends : Amends found r w) :
    (w.metadata.listedBesides k.finalizer).eraseDups =
      (r.metadata.listedBesides k.finalizer).eraseDups := by
  cases hAmends with
  | held =>
    have hOthers : (r.metadata.listed.eraseDups ++ [k.finalizer]).filter (· ≠ k.finalizer) =
        (r.metadata.listedBesides k.finalizer).eraseDups := by
      rw [Metadata.listedBesides, Finalizers.eraseDups_filter]
      simp
    exact (congrArg List.eraseDups hOthers).trans (Finalizers.eraseDups_eraseDups _)
  | @released _ _ _ others _ _ hOthers =>
    have hListed : (if others.isEmpty then none else some others.eraseDups).getD [] =
        others.eraseDups := by
      cases others with
      | nil => rfl
      | cons => rfl
    have hKept : others.filter (· ≠ k.finalizer) = others := by
      rw [hOthers, Metadata.listedBesides, List.filter_filter]
      simp
    rw [Metadata.listedBesides, Metadata.listed, hListed, ← Finalizers.eraseDups_filter, hKept,
      Finalizers.eraseDups_eraseDups, hOthers]
  | restored => rfl

/-- The finalizers of other controllers stay listed. -/
lemma mem_listed (hAmends : Amends found r w) {token : String} (hListed : token ∈ r.metadata.listed)
    (hOther : token ≠ k.finalizer) : token ∈ w.metadata.listed := by
  have hBefore : token ∈ r.metadata.listedBesides k.finalizer :=
    List.mem_filter.2 ⟨hListed, decide_eq_true hOther⟩
  have hAfter : token ∈ w.metadata.listedBesides k.finalizer := by
    rw [← List.mem_eraseDups, hAmends.eraseDups_listedBesides, List.mem_eraseDups]
    exact hBefore
  exact (List.mem_filter.1 hAfter).1

/-- The finalizer is not removed from a resource that is not being deleted. -/
lemma mem_of_living (hAmends : Amends found r w) (hLiving : ¬found.metadata.isDeleting)
    (hListed : k.finalizer ∈ r.metadata.listed) : k.finalizer ∈ w.metadata.listed := by
  cases hAmends with
  | held _ hLacks => exact absurd hListed hLacks
  | released hDeleting => exact absurd hDeleting hLiving
  | restored => exact hListed

/-- The finalizer is not added to a resource that is being deleted. -/
lemma not_mem_of_deleting (hAmends : Amends found r w) (hDeleting : found.metadata.isDeleting) :
    k.finalizer ∉ w.metadata.listed := by
  cases hAmends with
  | held hLiving => exact absurd hDeleting hLiving
  | @released _ _ _ others _ _ hOthers =>
    intro hListed
    have hMem : k.finalizer ∈ others := by
      cases others with
      | nil => exact absurd hListed List.not_mem_nil
      | cons => exact List.mem_eraseDups.1 hListed
    rw [hOthers] at hMem
    exact absurd rfl (of_decide_eq_true (List.mem_filter.1 hMem).2)
  | restored hLiving => exact absurd hDeleting hLiving

/-- Giving a resource the finalizer amends it. -/
lemma hold (hLiving : ¬found.metadata.isDeleting)
    (hLacks : ¬r.metadata.finalizerSet.has k.finalizer) :
    Amends found r (r.withFinalizers (r.metadata.finalizerSet.add k.finalizer)) := by
  have hUnlisted : k.finalizer ∉ r.metadata.listed := mt Metadata.has_finalizerSet_iff.2 hLacks
  rw [Resource.withFinalizers, Metadata.withFinalizers_add hUnlisted]
  exact .held hLiving hUnlisted

/-- Letting a resource go amends it. -/
lemma release (hDeleting : found.metadata.isDeleting)
    (hHas : r.metadata.finalizerSet.has k.finalizer) :
    Amends found r (r.withFinalizers (r.metadata.finalizerSet.erase k.finalizer)) := by
  rw [Resource.withFinalizers, Metadata.withFinalizers_erase]
  exact .released hDeleting (Metadata.has_finalizerSet_iff.1 hHas) rfl

/-- Setting back what cannot change amends a resource, which is a custom role. -/
lemma restore (hLiving : ¬found.metadata.isDeleting) (hDrifted : r.immutableDrifted) :
    Amends found r r.restoreImmutable := by
  obtain ⟨hRecorded, hDiffers⟩ := (Bool.and_eq_true _ _).mp hDrifted
  rw [Resource.restoreImmutable, if_pos hDrifted]
  cases k with
  | customRole => exact .restored hLiving hRecorded
  | accessGroup => exact absurd hDiffers Bool.false_ne_true
  | accessPolicy => exact absurd hDiffers Bool.false_ne_true
  | authorizationPolicy => exact absurd hDiffers Bool.false_ne_true

end Amends

/-- An exchange writes no metadata, or it amends what the store has returned last. -/
def Amending (found : Resource k) (before : List (Exchange Pass.interface))
    (y : Exchange Pass.interface) : Prop :=
  y.call.writesMetadata →
    ∃ (r w : Resource k) (answer : Except Error (Resource k)),
      y = ⟨.store (.update k w), answer⟩ ∧ LastWord (Returns r) before ∧ Amends found r w

/-! ## Parts that write no metadata -/

/-- No metadata is written. -/
def LeavesMetadata (h : List (Exchange Pass.interface)) : Prop :=
  ∀ y ∈ h, ¬y.call.writesMetadata

/-- What states at most something about a resource writes no metadata. -/
lemma leavesMetadata_of_states (hStates : ∀ y ∈ h, StatesAtMost r y) : LeavesMetadata h := by
  intro y hMem
  cases hStates y hMem with
  | elsewhere hOther =>
    obtain ⟨c, answer⟩ := y
    cases c with
    | store => exact absurd hOther Bool.noConfusion
    | openAccount => exact Bool.false_ne_true
    | reference => exact Bool.false_ne_true
    | directory => exact Bool.false_ne_true
  | moved => exact Bool.false_ne_true
  | forgotten => exact Bool.false_ne_true
  | applied => exact Bool.false_ne_true

/-- A write of the status writes no metadata. -/
lemma leavesMetadata_updateStatus (w : Resource k) (answer : Except Error (Resource k)) :
    LeavesMetadata [⟨.store (.updateStatus k w), answer⟩] :=
  List.forall_mem_singleton.2 Bool.false_ne_true

/-- Removing the entity writes no metadata. -/
lemma Lifecycle.Removing.leavesMetadata (hRemoving : Removing r rest) : LeavesMetadata rest :=
  leavesMetadata_of_states (statesAtMost_of_isStore (r := r) hRemoving.isStore)

/-! ## The pass -/

/-- Whatever metadata a pass that has read `found` has written, it has amended, and not more than
`n` times. -/
structure Amended (found : Resource k) (n : Nat) (h : List (Exchange Pass.interface)) : Prop where
  inTurn : InTurn (Amending found) h
  writes : h.countP (·.call.writesMetadata) ≤ n

namespace Amended

/-- The bound on the number of writes may be weakened. -/
lemma mono {m : Nat} (hA : Amended found n h) (hLe : n ≤ m) : Amended found m h :=
  ⟨hA.inTurn, Nat.le_trans hA.writes hLe⟩

/-- A part that writes no metadata. -/
lemma leave (hA : Amended found n h) (hLeaves : LeavesMetadata rest) :
    Amended found n (h ++ rest) where
  inTurn := by
    refine inTurn_append_iff.2 ⟨hA.inTurn, (inTurn_of_forall hLeaves).imp fun before y hNot => ?_⟩
    exact fun hWrites => absurd hWrites hNot
  writes := by
    have hNone : rest.countP (·.call.writesMetadata) = 0 := List.countP_eq_zero.2 hLeaves
    rw [List.countP_append, hNone, Nat.add_zero]
    exact hA.writes

/-- One more write, which amends what the store has returned last. -/
lemma write (hA : Amended found n h) (hLast : LastWord (Returns r) h) (hAmends : Amends found r w)
    (answer : Except Error (Resource k)) :
    Amended found (n + 1) (h ++ [⟨.store (.update k w), answer⟩]) where
  inTurn := inTurn_concat_iff.2 ⟨hA.inTurn, fun _ => ⟨r, w, answer, rfl, hLast, hAmends⟩⟩
  writes := by
    have hOne : [(⟨.store (.update k w), answer⟩ : Exchange Pass.interface)].countP
      (·.call.writesMetadata) = 1 := rfl
    rw [List.countP_append, hOne]
    exact Nat.add_le_add_right hA.writes 1

/-- Restoring what the store has returned last takes one write. -/
lemma restore (hA : Amended found n h) (hLast : LastWord (Returns r) h)
    (hLiving : ¬found.metadata.isDeleting)
    {x : Except Error (Resource k)} (hRestore : Pass.Traces (Lifecycle.restore r) rest x) :
    Amended found (n + 1) (h ++ rest) := by
  rcases Lifecycle.traces_restore_iff.1 hRestore with ⟨hDrifted, rfl⟩ | ⟨-, rfl, -⟩
  · exact hA.write hLast (.restore hLiving hDrifted) x
  · rw [List.append_nil]
    exact hA.mono (Nat.le_succ n)

/-- Holding what the store has returned last takes one write. -/
lemma hold (hA : Amended found n h) (hLast : LastWord (Returns r) h)
    (hLiving : ¬found.metadata.isDeleting)
    {x : Except Error (Resource k)} (hHold : Pass.Traces (Lifecycle.hold r) rest x) :
    Amended found (n + 1) (h ++ rest) := by
  rcases Lifecycle.traces_hold_iff.1 hHold with ⟨-, rfl, -⟩ | ⟨hLacks, rfl⟩
  · rw [List.append_nil]
    exact hA.mono (Nat.le_succ n)
  · exact hA.write hLast (.hold hLiving hLacks) x

/-- Letting go what the store has returned last takes one write. -/
lemma release (hA : Amended found n h) (hLast : LastWord (Returns r) h)
    (hDeleting : found.metadata.isDeleting)
    {x : Except Error Outcome} (hRelease : Pass.Traces (Lifecycle.release r) rest x) :
    Amended found (n + 1) (h ++ rest) := by
  rcases Lifecycle.traces_release hRelease with ⟨hHas, answer, rfl, -⟩ | ⟨-, rfl, -⟩
  · exact hA.write hLast (.release hDeleting hHas) answer
  · rw [List.append_nil]
    exact hA.mono (Nat.le_succ n)

/-- Opening the account writes no metadata. -/
lemma opened (hA : Amended found n h) (ns : String) (answer : Except Error Session) :
    Amended found n (h ++ [⟨.openAccount ns, answer⟩]) :=
  hA.leave (List.forall_mem_singleton.2 Bool.false_ne_true)

/-- A pass that is prepared has restored and held what the store has returned. -/
lemma prepare (hA : Amended found n h) (hR : Reached r h) (hLiving : ¬found.metadata.isDeleting)
    {session : Session}
    {held : Resource k} (hPrepared : Lifecycle.Preparing key r rest session held) :
    Amended found (n + 2) (h ++ rest) := by
  obtain ⟨-, hRestore, hHold⟩ := hPrepared
  have hRestored := (hR.restore hRestore).2 _ rfl
  have hOpened := hRestored.opened key.ns (.ok session)
  have hHeld := ((hA.restore hR.last hLiving hRestore).opened key.ns (.ok session)).hold
    hOpened.last hLiving hHold
  rwa [List.append_assoc, List.append_assoc, List.singleton_append] at hHeld

/-- A pass over a resource that is not being deleted takes two writes. -/
lemma living (hA : Amended found n h) (hR : Reached r h) (hLiving : ¬found.metadata.isDeleting)
    {x : Except Error Outcome} (hRest : Lifecycle.Living settings key r rest x) :
    Amended found (n + 2) (h ++ rest) := by
  cases hRest with
  | refused _ hRefuse =>
    have hLeaves := leavesMetadata_of_states (Lifecycle.statesAtMost_of_refuse hRefuse)
    exact (hA.leave hLeaves).mono (Nat.le_add_right n 2)
  | unrestored _ hRestore => exact (hA.restore hR.last hLiving hRestore).mono (Nat.le_succ (n + 1))
  | @unopened first told restored e _ hRestore hTold =>
    have hOpened := (hA.restore hR.last hLiving hRestore).opened key.ns (.error e)
    have hEnd := (hOpened.leave (leavesMetadata_of_states hTold.statesAtMost)).mono
      (Nat.le_succ (n + 1))
    rwa [List.append_assoc, List.append_assoc, List.singleton_append] at hEnd
  | @unheld first holding restored session e _ hRestore hHold =>
    have hRestored := (hR.restore hRestore).2 _ rfl
    have hOpened := (hA.restore hR.last hLiving hRestore).opened key.ns (.ok session)
    have hEnd := hOpened.hold (hRestored.opened key.ns (.ok session)).last hLiving hHold
    rwa [List.append_assoc, List.append_assoc, List.singleton_append] at hEnd
  | synced hPrepared _ hSync =>
    have hEnd := (hA.prepare hR hLiving hPrepared).leave
      (leavesMetadata_of_states hSync.statesAtMost)
    rwa [List.append_assoc] at hEnd
  | created hPrepared _ hCreate =>
    have hEnd := (hA.prepare hR hLiving hPrepared).leave
      (leavesMetadata_of_states hCreate.statesAtMost)
    rwa [List.append_assoc] at hEnd

/-- Deleting the entity takes one write. -/
lemma deleting (hA : Amended found n h) (hDeleting : found.metadata.isDeleting)
    {x : Except Error Outcome} (hRest : Lifecycle.Deleting r rest x) :
    Amended found (n + 1) (h ++ rest) := by
  cases hRest with
  | @kept c e told _ _ _ hTold =>
    have hStill : LeavesMetadata (⟨.directory c, .error e⟩ :: told) :=
      List.forall_mem_cons.2 ⟨Bool.false_ne_true, (leavesMetadata_of_states hTold.statesAtMost)⟩
    exact (hA.leave hStill).mono (Nat.le_succ n)
  | unstated hRemoving =>
    refine (hA.leave (List.forall_mem_append.2 ⟨hRemoving.leavesMetadata, ?_⟩)).mono (Nat.le_succ n)
    exact leavesMetadata_updateStatus _ _
  | @stated first last stored _ hRemoving hRelease =>
    have hStated : Amended found n
        (h ++ first ++ [⟨.store (.updateStatus k (r.moveTo (.deleted k)).forgetRemote),
          .ok stored⟩]) :=
      (hA.leave hRemoving.leavesMetadata).leave (leavesMetadata_updateStatus _ _)
    have hLast : LastWord (Returns stored)
        (h ++ first ++ [⟨.store (.updateStatus k (r.moveTo (.deleted k)).forgetRemote),
          .ok stored⟩]) :=
      lastAmong_concat rfl (.updateStatus _)
    have hEnd := hStated.release hLast hDeleting hRelease
    rwa [List.append_assoc, List.append_assoc, List.singleton_append] at hEnd

/-- A pass over a resource that is being deleted takes one write. -/
lemma dying (hA : Amended found n h) (hR : Reached r h) (hDeleting : found.metadata.isDeleting)
    {x : Except Error Outcome} (hRest : Lifecycle.Dying key r rest x) :
    Amended found (n + 1) (h ++ rest) := by
  cases hRest with
  | abandoned _ hRelease => exact hA.release hR.last hDeleting hRelease
  | unopened _ e hRelease =>
    have hEnd := (hA.opened key.ns (.error e)).release (hR.opened key.ns (.error e)).last
      hDeleting hRelease
    rwa [List.append_assoc, List.singleton_append] at hEnd
  | opened _ session hDelete =>
    have hEnd := (hA.opened key.ns (.ok session)).deleting hDeleting hDelete
    rwa [List.append_assoc, List.singleton_append] at hEnd

/-- A pass that has read a resource takes two writes. -/
lemma passing (hFound : h.head? = some ⟨.store (.get k key), .ok (some found)⟩)
    {x : Except Error Outcome} (hPassing : Lifecycle.Passing settings k key h x) :
    Amended found 2 h := by
  have hRead (r : Resource k) : Amended r 0 [⟨.store (.get k key), .ok (some r)⟩] :=
    ⟨inTurn_singleton_iff.2 fun hWrites => absurd hWrites Bool.false_ne_true, Nat.le_refl 0⟩
  cases hPassing with
  | unread => cases hFound
  | absent => cases hFound
  | lost =>
    cases hFound
    exact (hRead found).mono (Nat.zero_le 2)
  | ungreeted _ hGreet =>
    cases hFound
    exact ((hRead found).leave
      (leavesMetadata_of_states (Lifecycle.statesAtMost_of_greet hGreet))).mono (Nat.zero_le 2)
  | dying hDeleting _ hGreet hDying =>
    cases hFound
    have hGreeted := ((reached_get key found).greet hGreet).2 _ rfl
    have hStart :=
      (hRead found).leave (leavesMetadata_of_states (Lifecycle.statesAtMost_of_greet hGreet))
    exact (hStart.dying hGreeted hDeleting hDying).mono (Nat.le_succ 1)
  | living hLiving hGreet hRest =>
    cases hFound
    have hGreeted := ((reached_get key found).greet hGreet).2 _ rfl
    have hStart :=
      (hRead found).leave (leavesMetadata_of_states (Lifecycle.statesAtMost_of_greet hGreet))
    exact hStart.living hGreeted hLiving hRest

end Amended

/-- A pass that has read no resource writes no metadata. -/
lemma leavesMetadata_or_found {x : Except Error Outcome}
    (hPassing : Lifecycle.Passing settings k key h x) :
    LeavesMetadata h ∨ ∃ found, h.head? = some ⟨.store (.get k key), .ok (some found)⟩ := by
  cases hPassing with
  | unread => exact .inl (List.forall_mem_singleton.2 Bool.false_ne_true)
  | absent => exact .inl (List.forall_mem_singleton.2 Bool.false_ne_true)
  | lost => exact .inr ⟨_, rfl⟩
  | ungreeted => exact .inr ⟨_, rfl⟩
  | dying => exact .inr ⟨_, rfl⟩
  | living => exact .inr ⟨_, rfl⟩

/-! ## Adding and removing the finalizer -/

/-- A write adds the finalizer to what the store has returned last. -/
def AddsFinalizer (k : Kind) (before : List (Exchange Pass.interface))
    (y : Exchange Pass.interface) : Prop :=
  ∃ (r w : Resource k) (answer : Except Error (Resource k)), y = ⟨.store (.update k w), answer⟩ ∧
    LastWord (Returns r) before ∧ k.finalizer ∉ r.metadata.listed ∧ k.finalizer ∈ w.metadata.listed

/-- A write removes the finalizer from what the store has returned last. -/
def RemovesFinalizer (k : Kind) (before : List (Exchange Pass.interface))
    (y : Exchange Pass.interface) : Prop :=
  ∃ (r w : Resource k) (answer : Except Error (Resource k)), y = ⟨.store (.update k w), answer⟩ ∧
    LastWord (Returns r) before ∧ k.finalizer ∈ r.metadata.listed ∧ k.finalizer ∉ w.metadata.listed

/-- The store has returned one resource last. -/
lemma LastWord.unique {v : Resource k} (hFirst : LastWord (Returns r) h)
    (hSecond : LastWord (Returns v) h) : v = r := by
  obtain ⟨_, y, _, -, -, ⟨hReturns, hReturns'⟩, -⟩ := LastAmong.and hFirst hSecond
  cases hReturns with
  | get => cases hReturns' with
    | get => rfl
  | update => cases hReturns' with
    | update => rfl
  | updateStatus => cases hReturns' with
    | updateStatus => rfl

/-- The finalizer is added only while the resource is not being deleted. -/
lemma Amending.living_of_adds {before : List (Exchange Pass.interface)}
    {y : Exchange Pass.interface} (hAmending : Amending found before y)
    (hAdds : AddsFinalizer k before y) : ¬found.metadata.isDeleting := by
  obtain ⟨_, w, answer, rfl, -, -, hListed⟩ := hAdds
  obtain ⟨_, _, _, hSame, -, hAmends⟩ := hAmending rfl
  cases hSame
  exact fun hDeleting => hAmends.not_mem_of_deleting hDeleting hListed

/-- The finalizer is removed only while the resource is being deleted. -/
lemma Amending.deleting_of_removes {before : List (Exchange Pass.interface)}
    {y : Exchange Pass.interface} (hAmending : Amending found before y)
    (hRemoves : RemovesFinalizer k before y) : found.metadata.isDeleting := by
  obtain ⟨r, w, answer, rfl, hLast, hListed, hUnlisted⟩ := hRemoves
  obtain ⟨_, _, _, hSame, hLast', hAmends⟩ := hAmending rfl
  cases hSame
  obtain rfl := hLast'.unique hLast
  by_contra hLiving
  exact hUnlisted (hAmends.mem_of_living hLiving hListed)

/-- In the trace of any pass, whatever was answered: a write of metadata and spec amends what the
store has returned last, and keeps the finalizers of other controllers listed, in the order of their
first occurrences.  The finalizer of the kind is not both added and removed, and there are no more
than two such writes. -/
theorem amends_of_run (hRun : (reconcile settings k key).Runs (.free _) () trace outcome ()) :
    (∀ before y after, trace = before ++ y :: after → y.call.writesMetadata →
        ∃ (found r w : Resource k) (answer : Except Error (Resource k)),
          trace.head? = some ⟨.store (.get k key), .ok (some found)⟩ ∧
          y = ⟨.store (.update k w), answer⟩ ∧
            LastWord (Returns r) before ∧ Amends found r w ∧
              (∀ token ∈ r.metadata.listed, token ≠ k.finalizer → token ∈ w.metadata.listed) ∧
                (w.metadata.listedBesides k.finalizer).eraseDups =
                  (r.metadata.listedBesides k.finalizer).eraseDups) ∧
      ¬((∃ before y after, trace = before ++ y :: after ∧ AddsFinalizer k before y) ∧
          ∃ before y after, trace = before ++ y :: after ∧ RemovesFinalizer k before y) ∧
        trace.countP (·.call.writesMetadata) ≤ 2 := by
  obtain ⟨x, hPassing, rfl⟩ := Lifecycle.passing_of_reconcile hRun
  -- where the store has shown no resource there is none whose metadata could be written
  rcases leavesMetadata_or_found hPassing with hLeaves | ⟨found, hFound⟩
  · refine ⟨?_, ?_, ?_⟩
    · rintro before y after rfl hWrites
      exact absurd hWrites (hLeaves y (List.mem_append_right _ List.mem_cons_self))
    · rintro ⟨⟨before, y, after, rfl, ⟨_, _, _, rfl, -⟩⟩, -⟩
      exact hLeaves _ (List.mem_append_right _ List.mem_cons_self) rfl
    · rw [List.countP_eq_zero.2 hLeaves]
      exact Nat.zero_le 2
  · have hAmended : Amended found 2 trace := .passing hFound hPassing
    refine ⟨?_, ?_, hAmended.writes⟩
    · intro before y after hSplit hWrites
      obtain ⟨r, w, answer, hWrite, hLast, hAmends⟩ := hAmended.inTurn before y after hSplit hWrites
      exact ⟨found, r, w, answer, hFound, hWrite, hLast, hAmends, fun _ => hAmends.mem_listed,
        hAmends.eraseDups_listedBesides⟩
    · -- one pass finds the resource being deleted or not, and keeps to what it has found
      rintro ⟨⟨before, y, after, hSplit, hAdds⟩, before', z, after', hSplit', hRemoves⟩
      have hLiving := (hAmended.inTurn before y after hSplit).living_of_adds hAdds
      exact hLiving ((hAmended.inTurn before' z after' hSplit').deleting_of_removes hRemoves)

/-! ## A role that was renamed -/

namespace Amendments

/-- A recorded role that was renamed, and whose finalizers another controller has listed twice. -/
def renamedRole : Resource .customRole :=
  { Reader.recorded with
    metadata := { Reader.recorded.metadata with finalizers := some ["backup", "backup"] }
    spec := { Reader.recorded.spec with roleName := "Writer" } }

/-- The role with its own name. -/
def restoredRole : Resource .customRole :=
  { renamedRole with spec := Reader.recorded.spec }

/-- The role with the finalizer. -/
def heldRole : Resource .customRole :=
  { restoredRole with
    metadata :=
    { restoredRole.metadata with finalizers := some ["backup", Kind.customRole.finalizer] } }

/-- The calls of a pass that sets the name back and fails to add the finalizer. -/
def renamedTrace : List (Exchange Pass.interface) :=
  [ ⟨.store (.get .customRole ⟨"team", "reader"⟩), .ok (some renamedRole)⟩,
    ⟨.store (.update .customRole restoredRole), .ok restoredRole⟩,
    ⟨.openAccount "team", .ok ⟨"account"⟩⟩,
    ⟨.store (.update .customRole heldRole), .error Auditors.storeDown⟩ ]

/-- The pass that sets the name back. -/
lemma runs_renamed :
    (reconcile {} .customRole ⟨"team", "reader"⟩).Runs (.free _) () renamedTrace
      (.failure Auditors.storeDown) () :=
  .answered _ <| .answered _ <| .answered _ <| .answered _ <| .done _ _

end Amendments

/-- Both writes of the pass over the renamed role amend what the store has returned before. -/
theorem amends_of_renamed :
    (∃ r, LastWord (Returns r) (Amendments.renamedTrace.take 1) ∧
        Amends Amendments.renamedRole r Amendments.restoredRole) ∧
      (∃ r, LastWord (Returns r) (Amendments.renamedTrace.take 3) ∧
          Amends Amendments.renamedRole r Amendments.heldRole) ∧
        Amendments.renamedTrace.countP (·.call.writesMetadata) ≤ 2 := by
  obtain ⟨hAmends, -, hTwice⟩ := amends_of_run Amendments.runs_renamed
  obtain ⟨_, r, _, _, hFound, hWrite, hLast, hRestored, -⟩ :=
    hAmends (Amendments.renamedTrace.take 1) _ _ rfl rfl
  cases hFound
  cases hWrite
  obtain ⟨_, s, _, _, hFound, hWrite, hLast', hHeld, -⟩ :=
    hAmends (Amendments.renamedTrace.take 3) _ _ rfl rfl
  cases hFound
  cases hWrite
  exact ⟨⟨r, hLast, hRestored⟩, ⟨s, hLast', hHeld⟩, hTwice⟩

end IamReconciler
