import IamReconciler.Proofs.Directory.Contents
import IamReconciler.Reconcile.Lifecycle

/-!
# Resolving a spec again

What a pass has resolved, another pass resolves again, although it may go another way: users who
were invited the first time are there the second time.  The first time anything may fail; the second
time nothing does, and the resolution only looks (`Finds`).

`Recalls R p q` says that whatever `p` finds, `q` finds again in all contents that are related by
`R` to those that `p` has left.  The relation composes along parts of passes.  With `Contents.Later`
it says that a value stays good for all that passes over a kind may do later; with equality, that it
is good as long as nothing changes.
-/

namespace IamReconciler

open Directory (Call)

/-! ## First and second time -/

namespace Neighbours

/-- The surroundings of a pass in which everything but absence may fail. -/
abbrev loosely (nb : Neighbours) (k : Kind) (key : Key) :
    Surroundings Pass.interface (Site k Contents) :=
  (nb.circumstances k True).surroundings key

/-- The surroundings of a pass in which nothing fails. -/
abbrev strictly (nb : Neighbours) (k : Kind) (key : Key) :
    Surroundings Pass.interface (Site k Contents) :=
  (nb.circumstances k False).surroundings key

variable {nb : Neighbours} {k : Kind} {key : Key} {α β : Type} {s : Site k Contents} {c : Call}
    {operation : String}

/-- A read ensures what holds of all values that it may show, and of all errors. -/
lemma ensures_read {Q : c.Value → Site k Contents → Prop} {E : Error → Site k Contents → Prop}
    (hRead : c.isRead) (hShown : ∀ v, s.remote.Shows c v → Q v s)
    (hError : ∀ e : RemoteError, (e.isNotFound → ∀ v, ¬s.remote.Shows c v) →
      E (.remote operation e) s) :
    Pass.Ensures (nb.loosely k key) (Pass.remote operation c) s Q E := by
  refine Pass.ensures_remote_iff.2 ⟨?_, ?_⟩
  · rintro v _ ⟨d, hServes, rfl⟩
    obtain ⟨rfl, hShows⟩ := hServes.of_ok hRead
    exact hShown v hShows
  · rintro e _ ⟨d, hServes, rfl⟩
    obtain ⟨rfl, hReason⟩ := hServes.of_error hRead
    exact hError e fun hNotFound => hReason.elim And.right fun hOther => absurd hNotFound hOther.1

/-- A change ensures what holds of everything that it may make of the contents. -/
lemma ensures_changing {Q : c.Value → Site k Contents → Prop} {E : Error → Site k Contents → Prop}
    (hChange : c.isRead = false)
    (hMade : ∀ v d, s.remote.Becomes d c v → Q v { s with remote := d })
    (hError : ∀ e t, E (.remote operation e) t) :
    Pass.Ensures (nb.loosely k key) (Pass.remote operation c) s Q E := by
  refine Pass.ensures_remote_iff.2 ⟨?_, fun e t _ => hError e t⟩
  rintro v _ ⟨d, hServes, rfl⟩
  exact hMade v d (hServes.of_change hChange)

/-- What follows a read goes on from something that was shown, unless the read has failed. -/
lemma ensures_read_bind {f : c.Value → Pass α} {Q : α → Site k Contents → Prop} (hRead : c.isRead)
    (hRest : ∀ v, s.remote.Shows c v → Pass.Ensures (nb.loosely k key) (f v) s Q fun _ _ => True) :
    Pass.Ensures (nb.loosely k key) (Pass.remote operation c >>= f) s Q fun _ _ => True :=
  Pass.ensures_bind_iff.2 (ensures_read hRead hRest fun _ _ => trivial)

/-- What follows a change goes on from the contents that it has made, unless the change has
failed. -/
lemma ensures_changing_bind {f : c.Value → Pass α} {Q : α → Site k Contents → Prop}
    (hChange : c.isRead = false)
    (hRest : ∀ v d, s.remote.Becomes d c v →
      Pass.Ensures (nb.loosely k key) (f v) { s with remote := d } Q fun _ _ => True) :
    Pass.Ensures (nb.loosely k key) (Pass.remote operation c >>= f) s Q fun _ _ => True :=
  Pass.ensures_bind_iff.2 (ensures_changing hChange hRest fun _ _ => trivial)

/-- A read that has something to show looks, and shows it. -/
lemma looks_read {Q : c.Value → Prop} {E : Error → Prop} (hRead : c.isRead)
    (hSome : ∃ v, s.remote.Shows c v) (hShown : ∀ v, s.remote.Shows c v → Q v) :
    Pass.Looks (nb.strictly k key) s (Pass.remote operation c) Q E := by
  obtain ⟨v, hv⟩ := hSome
  refine Pass.looks_remote hRead ⟨.ok v, _, .shown hRead hv, rfl⟩ ?_ ?_
  · rintro w _ ⟨d, hServes, rfl⟩
    obtain ⟨rfl, hShows⟩ := hServes.of_ok hRead
    exact ⟨rfl, hShown w hShows⟩
  · rintro e _ ⟨d, hServes, rfl⟩
    obtain ⟨-, hAbsent | hOther⟩ := hServes.of_error hRead
    · exact absurd hv (hAbsent.2 v)
    · exact hOther.2.elim

/-- A read that has nothing to show looks, and says so. -/
lemma looks_absent {Q : c.Value → Prop} {E : Error → Prop} (hRead : c.isRead)
    (hNone : ∀ v, ¬s.remote.Shows c v)
    (hError : ∀ e : RemoteError, e.isNotFound → E (.remote operation e)) :
    Pass.Looks (nb.strictly k key) s (Pass.remote operation c) Q E := by
  refine Pass.looks_remote hRead ⟨.error (.notFound "" ""), _, .absent hRead rfl hNone, rfl⟩ ?_ ?_
  · rintro v _ ⟨d, hServes, rfl⟩
    exact absurd (hServes.of_ok hRead).2 (hNone v)
  · rintro e _ ⟨d, hServes, rfl⟩
    obtain ⟨rfl, hAbsent | hOther⟩ := hServes.of_error hRead
    · exact ⟨rfl, hError e hAbsent.1⟩
    · exact hOther.2.elim

end Neighbours

/-! ## Finding -/

section Finding

variable {nb : Neighbours} {k : Kind} {key : Key} {α β : Type}

/-- A part of a pass finds a value wherever the service has given contents, and only looks. -/
def Finds (nb : Neighbours) (k : Kind) (key : Key) (p : Pass α) (d : Contents) (v : α) : Prop :=
  ∀ s : Site k Contents, s.remote = d → Pass.Looks (nb.strictly k key) s p (· = v) fun _ => False

lemma finds_pure (d : Contents) (v : α) : Finds nb k key (pure v) d v :=
  fun _ _ => rfl

lemma Finds.bind {p : Pass α} {f : α → Pass β} {d : Contents} {v : α} {w : β}
    (hp : Finds nb k key p d v) (hf : Finds nb k key (f v) d w) : Finds nb k key (p >>= f) d w := by
  intro s hs
  refine (hp s hs).bind ?_
  rintro _ rfl
  exact hf s hs

/-- A read finds the only value that it can show. -/
lemma finds_read {c : Call} {operation : String} {d : Contents} {v : c.Value} (hRead : c.isRead)
    (hv : d.Shows c v) (hUnique : ∀ w, d.Shows c w → w = v) :
    Finds nb k key (Pass.remote operation c) d v := by
  rintro s rfl
  exact Neighbours.looks_read hRead ⟨v, hv⟩ hUnique

/-- A look-up of a declared group finds it. -/
lemma finds_lookUpGroup (ns name : String) (d : Contents) :
    Finds nb k key (Pass.lookUpGroup ns name) d (nb.group ns name) := by
  rintro s -
  refine Pass.looks_call rfl ⟨.ok (nb.group ns name), rfl, rfl⟩ ?_
  rintro (e | found) t ⟨rfl, hRefers⟩
  · exact hRefers.elim
  · exact ⟨rfl, hRefers⟩

/-- A look-up of a declared role finds it. -/
lemma finds_lookUpRole (ns name : String) (d : Contents) :
    Finds nb k key (Pass.lookUpRole ns name) d (nb.role ns name) := by
  rintro s -
  refine Pass.looks_call rfl ⟨.ok (nb.role ns name), rfl, rfl⟩ ?_
  rintro (e | found) t ⟨rfl, hRefers⟩
  · exact hRefers.elim
  · exact ⟨rfl, hRefers⟩

end Finding

/-! ## Recalling -/

/-- Whatever a part finds at first, after which at most users have changed, another part finds again
in all related contents. -/
def Recalls (nb : Neighbours) (k : Kind) (key : Key) (R : Contents → Contents → Prop) {α : Type}
    (p q : Pass α) : Prop :=
  ∀ s : Site k Contents, Pass.Ensures (nb.loosely k key) p s
    (fun v t => ∃ d, t = { s with remote := d } ∧ (∃ user, d = { s.remote with user := user }) ∧
      R s.remote d ∧ ∀ d', R d d' → Finds nb k key q d' v)
    fun _ _ => True

section Recalling

variable {nb : Neighbours} {k : Kind} {key : Key} {α β : Type} {R : Contents → Contents → Prop}

lemma recalls_pure (hR : Contents.Lasts R) (v : α) : Recalls nb k key R (pure v) (pure v) :=
  fun s => Pass.ensures_pure_iff.2 ⟨s.remote, rfl, ⟨_, rfl⟩, hR.refl _, fun d' _ => finds_pure d' v⟩

lemma recalls_throw (e : Error) (q : Pass α) : Recalls nb k key R (throw e) q :=
  fun _ => Pass.ensures_throw_iff.2 trivial

/-- Sequences recall each other when their parts do. -/
lemma Recalls.bind (hR : Contents.Lasts R) {p q : Pass α} {f g : α → Pass β}
    (hp : Recalls nb k key R p q) (hf : ∀ v, Recalls nb k key R (f v) (g v)) :
    Recalls nb k key R (p >>= f) (q >>= g) := by
  intro s
  refine (hp s).bind ?_
  rintro v _ ⟨d, rfl, ⟨user, rfl⟩, hsd, hFirst⟩
  refine (hf v { s with remote := { s.remote with user } }).imp ?_
  rintro w _ ⟨d', rfl, ⟨user', rfl⟩, hdd', hSecond⟩
  refine ⟨_, rfl, ⟨user', rfl⟩, hR.trans hsd hdd', fun d'' hd'' => ?_⟩
  exact (hFirst d'' (hR.trans hdd' hd'')).bind (hSecond d'' hd'')

/-- A result that is known is recalled. -/
lemma recalls_liftExcept (hR : Contents.Lasts R) (x : Except Error α) :
    Recalls nb k key R (liftM x : Pass α) (liftM x : Pass α) := by
  cases x with
  | ok v => exact recalls_pure hR v
  | error e => exact recalls_throw e _

/-- Parts for the elements of a list recall each other when each does. -/
lemma Recalls.mapM (hR : Contents.Lasts R) {f g : α → Pass β}
    (hf : ∀ a, Recalls nb k key R (f a) (g a)) (items : List α) :
    Recalls nb k key R (items.mapM f) (items.mapM g) := by
  induction items with
  | nil => exact recalls_pure hR _
  | cons item rest ih =>
    rw [List.mapM_cons, List.mapM_cons]
    exact (hf item).bind hR fun _ => ih.bind hR fun _ => recalls_pure hR _

/-- A read is recalled when it shows the same value in all related contents. -/
lemma recalls_read {c : Call} {operation : String} (hRead : c.isRead) (hR : Contents.Lasts R)
    (hStable : ∀ d d' v, R d d' → d.Shows c v → d'.Shows c v ∧ ∀ w, d'.Shows c w → w = v) :
    Recalls nb k key R (Pass.remote operation c) (Pass.remote operation c) := by
  intro s
  refine Neighbours.ensures_read hRead (fun v hv => ?_) fun _ _ => trivial
  refine ⟨s.remote, rfl, ⟨_, rfl⟩, hR.refl _, fun d' hd' => ?_⟩
  obtain ⟨hShows, hUnique⟩ := hStable _ _ v hd' hv
  exact finds_read hRead hShows hUnique

/-- A read of something that stays the same is recalled. -/
lemma recalls_same {c : Call} {operation : String} (hR : Contents.Lasts R) (f : Contents → c.Value)
    (hRead : c.isRead) (hShows : ∀ d v, d.Shows c v ↔ v = f d)
    (hSame : ∀ {d d'}, R d d' → f d' = f d) :
    Recalls nb k key R (Pass.remote operation c) (Pass.remote operation c) := by
  refine recalls_read hRead hR fun d d' v hd hv => ⟨?_, fun w hw => ?_⟩
  · exact (hShows d' v).2 (((hShows d v).1 hv).trans (hSame hd).symm)
  · exact ((hShows d' w).1 hw).trans ((hSame hd).trans ((hShows d v).1 hv).symm)

/-- Choices between parts recall each other when the parts do. -/
lemma recalls_ite {c : Prop} [Decidable c] {p p' q q' : Pass α} (h : c → Recalls nb k key R p q)
    (h' : ¬c → Recalls nb k key R p' q') :
    Recalls nb k key R (if c then p else p') (if c then q else q') := by
  by_cases hc : c
  · rw [if_pos hc, if_pos hc]
    exact h hc
  · rw [if_neg hc, if_neg hc]
    exact h' hc

/-- A look-up of a declared group is recalled. -/
lemma recalls_lookUpGroup (hR : Contents.Lasts R) (ns name : String) :
    Recalls nb k key R (Pass.lookUpGroup ns name) (Pass.lookUpGroup ns name) := by
  intro s
  refine Pass.ensures_lookUpGroup_iff.2 ⟨?_, fun _ _ _ => trivial⟩
  rintro found t ⟨rfl, hRefers⟩
  cases hRefers
  exact ⟨_, rfl, ⟨_, rfl⟩, hR.refl _, fun d' _ => finds_lookUpGroup ns name d'⟩

/-- A look-up of a declared role is recalled. -/
lemma recalls_lookUpRole (hR : Contents.Lasts R) (ns name : String) :
    Recalls nb k key R (Pass.lookUpRole ns name) (Pass.lookUpRole ns name) := by
  intro s
  refine Pass.ensures_lookUpRole_iff.2 ⟨?_, fun _ _ _ => trivial⟩
  rintro found t ⟨rfl, hRefers⟩
  cases hRefers
  exact ⟨_, rfl, ⟨_, rfl⟩, hR.refl _, fun d' _ => finds_lookUpRole ns name d'⟩

end Recalling

end IamReconciler
