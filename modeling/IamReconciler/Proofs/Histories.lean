import IamReconciler.Proofs.Runs

/-!
# Histories

What can be said of what has happened, in its order: that each item was in turn, given those before
it (`InTurn`), and what the last of some exchanges was like (`LastAmong`).  Histories grow by one
item at a time, and for each property there is a statement of what one more item does to it.
-/

namespace IamReconciler

variable {I : Interface}

section

variable {α : Type} {R : List α → α → Prop} {P : α → Prop} {h : List α} {y : α}

/-! ## One more item -/

/-- Something holds of each item, the last one included. -/
lemma forall_mem_concat_iff : (∀ z ∈ h ++ [y], P z) ↔ (∀ z ∈ h, P z) ∧ P y := by
  rw [List.forall_mem_append, List.forall_mem_singleton]

/-- Something holds of some item, which may be the last one. -/
lemma exists_mem_concat_iff : (∃ z ∈ h ++ [y], P z) ↔ (∃ z ∈ h, P z) ∨ P y := by
  constructor
  · rintro ⟨z, hMem, hP⟩
    rcases List.mem_append.1 hMem with hOld | hNew
    · exact .inl ⟨z, hOld, hP⟩
    · rw [List.mem_singleton.1 hNew] at hP
      exact .inr hP
  · rintro (⟨z, hMem, hP⟩ | hP)
    · exact ⟨z, List.mem_append_left _ hMem, hP⟩
    · exact ⟨y, List.mem_concat_self, hP⟩

/-- What holds of some item holds of one when there are more. -/
lemma exists_mem_concat (hSome : ∃ z ∈ h, P z) : ∃ z ∈ h ++ [y], P z :=
  exists_mem_concat_iff.2 (.inl hSome)

/-! ## Items in turn -/

/-- Each item of a history relates to those before it. -/
def InTurn (R : List α → α → Prop) (h : List α) : Prop :=
  ∀ before y after, h = before ++ y :: after → R before y

/-- Nothing is out of turn before the first item. -/
lemma inTurn_nil : InTurn R [] := by
  intro before y after hSplit
  exact absurd hSplit.symm (List.append_ne_nil_of_right_ne_nil _ (List.cons_ne_nil _ _))

/-- One more item is in turn when it relates to all that there were. -/
lemma inTurn_concat_iff : InTurn R (h ++ [y]) ↔ InTurn R h ∧ R h y := by
  constructor
  · intro hAll
    refine ⟨fun before z after hSplit => ?_, hAll h y [] rfl⟩
    refine hAll before z (after ++ [y]) ?_
    rw [hSplit, List.append_assoc, List.cons_append]
  · rintro ⟨hOld, hNew⟩ before z after hSplit
    rcases List.eq_nil_or_concat after with rfl | ⟨rest, last, rfl⟩
    · obtain ⟨rfl, rfl⟩ := List.append_singleton_inj.1 hSplit
      exact hNew
    · have hSplit : h ++ [y] = (before ++ z :: rest) ++ [last] := by
        rw [hSplit, List.concat_eq_append, List.append_assoc, List.cons_append]
      exact hOld before z rest (List.append_singleton_inj.1 hSplit).1

/-- The first item is in turn when it relates to nothing before it. -/
lemma inTurn_singleton_iff : InTurn R [y] ↔ R [] y :=
  (inTurn_concat_iff (h := [])).trans (and_iff_right inTurn_nil)

/-- What each item relates to may be weakened. -/
lemma InTurn.imp {R' : List α → α → Prop} (hTurn : InTurn R h)
    (hImp : ∀ before z, R before z → R' before z) : InTurn R' h :=
  fun before z after hSplit => hImp before z (hTurn before z after hSplit)

/-- Two histories are in turn, one after the other, when the items of the second one relate to the
first one too. -/
lemma inTurn_append_iff {rest : List α} :
    InTurn R (h ++ rest) ↔ InTurn R h ∧ InTurn (fun before z => R (h ++ before) z) rest := by
  constructor
  · intro hAll
    refine ⟨fun before z after hSplit => hAll before z (after ++ rest) ?_,
      fun before z after hSplit => ?_⟩
    · rw [hSplit, List.append_assoc, List.cons_append]
    · refine hAll (h ++ before) z after ?_
      rw [hSplit, List.append_assoc]
  · rintro ⟨hFirst, hRest⟩ before z after hSplit
    rcases List.append_eq_append_iff.1 hSplit with ⟨more, rfl, hMore⟩ | ⟨more, rfl, hMore⟩
    · exact hRest more z after hMore
    · cases more with
      | nil =>
        have hHere := hRest [] z after hMore.symm
        rwa [List.append_nil, List.append_nil] at hHere
      | cons first more =>
        obtain ⟨rfl, rfl⟩ := List.cons_eq_cons.1 hMore
        exact hFirst before z more rfl

/-- A history is in turn when its first item is, and the others are after it. -/
lemma inTurn_cons_iff :
    InTurn R (y :: h) ↔ R [] y ∧ InTurn (fun before z => R (y :: before) z) h := by
  rw [← List.singleton_append, inTurn_append_iff, inTurn_singleton_iff]
  rfl

/-- An item that relates to what was before it does so when more was. -/
def Lasting (R : List α → α → Prop) : Prop :=
  ∀ earlier before y, R before y → R (earlier ++ before) y

/-- Histories that are in turn by themselves are so one after the other, when items relate to more
than they need. -/
lemma InTurn.append {rest : List α} (hTurn : InTurn R h) (hLasting : Lasting R)
    (hRest : InTurn R rest) : InTurn R (h ++ rest) :=
  inTurn_append_iff.2 ⟨hTurn, hRest.imp fun before z hz => hLasting h before z hz⟩

/-- Items of a property, which asks nothing of what was before them, are in turn. -/
lemma inTurn_of_forall {P : α → Prop} (hAll : ∀ z ∈ h, P z) : InTurn (fun _ z => P z) h := by
  rintro before z after rfl
  exact hAll z (List.mem_append_right before List.mem_cons_self)

/-- Items that are in turn by a rule which implies a property all have it. -/
lemma InTurn.forall_mem (hTurn : InTurn R h) (hImp : ∀ before z, R before z → P z) :
    ∀ z ∈ h, P z := by
  intro z hMem
  obtain ⟨before, after, hSplit⟩ := List.append_of_mem hMem
  exact hImp before z (hTurn before z after hSplit)

/-- A history splits in one way at its only item with a property. -/
lemma split_eq_of_sole {before after before' after' : List α} {z : α}
    (hSplit : before ++ y :: after = before' ++ z :: after') (hNone : ∀ w ∈ before ++ after,
      ¬P w) (hz : P z) :
    before' = before ∧ z = y ∧ after' = after := by
  rcases List.append_eq_append_iff.1 hSplit with ⟨more, rfl, hMore⟩ | ⟨more, rfl, hMore⟩
  · cases more with
    | nil =>
      obtain ⟨rfl, rfl⟩ := List.cons_eq_cons.1 hMore
      exact ⟨List.append_nil before, rfl, rfl⟩
    | cons w more =>
      obtain ⟨-, rfl⟩ := List.cons_eq_cons.1 hMore
      exact absurd hz
        (hNone z (List.mem_append_right _ (List.mem_append_right _ List.mem_cons_self)))
  · cases more with
    | nil =>
      obtain ⟨rfl, rfl⟩ := List.cons_eq_cons.1 hMore
      exact ⟨(List.append_nil before').symm, rfl, rfl⟩
    | cons w more =>
      obtain ⟨rfl, -⟩ := List.cons_eq_cons.1 hMore
      exact absurd hz
        (hNone z (List.mem_append_left _ (List.mem_append_right _ List.mem_cons_self)))

end

/-! ## The last exchange among some -/

/-- The last exchange of a history among some calls has a property. -/
def LastAmong (among : I.Call → Bool) (P : Exchange I → Prop) (h : List (Exchange I)) : Prop :=
  ∃ earlier y since, h = earlier ++ y :: since ∧ among y.call ∧ P y ∧ ∀ z ∈ since,
    among z.call = false

variable {among : I.Call → Bool} {P Q : Exchange I → Prop} {h : List (Exchange I)} {y : Exchange I}

/-- The exchange that was just made is the last one. -/
lemma lastAmong_concat (hAmong : among y.call) (hP : P y) : LastAmong among P (h ++ [y]) :=
  ⟨h, y, [], rfl, hAmong, hP, fun _ hMem => absurd hMem List.not_mem_nil⟩

/-- An exchange of another call leaves the last one as it was. -/
lemma LastAmong.concat (hLast : LastAmong among P h) (hOther : among y.call = false) :
    LastAmong among P (h ++ [y]) := by
  obtain ⟨earlier, z, since, rfl, hAmong, hP, hSince⟩ := hLast
  refine ⟨earlier, z, since ++ [y], ?_, hAmong, hP, forall_mem_concat_iff.2 ⟨hSince, hOther⟩⟩
  rw [List.append_assoc, List.cons_append]

/-- Exchanges of other calls leave the last one as it was. -/
lemma LastAmong.append {rest : List (Exchange I)} (hLast : LastAmong among P h)
    (hOther : ∀ z ∈ rest, among z.call = false) : LastAmong among P (h ++ rest) := by
  obtain ⟨earlier, z, since, rfl, hAmong, hP, hSince⟩ := hLast
  refine ⟨earlier, z, since ++ rest, ?_, hAmong, hP, List.forall_mem_append.2 ⟨hSince, hOther⟩⟩
  rw [List.append_assoc, List.cons_append]

/-- What is known of the last exchange may be weakened. -/
lemma LastAmong.imp (hLast : LastAmong among P h) (hPQ : ∀ y, P y → Q y) : LastAmong among Q h := by
  obtain ⟨earlier, y, since, hSplit, hAmong, hP, hSince⟩ := hLast
  exact ⟨earlier, y, since, hSplit, hAmong, hPQ y hP, hSince⟩

/-- What is known of the last exchange in two ways is known of one exchange. -/
lemma LastAmong.and (hP : LastAmong among P h) (hQ : LastAmong among Q h) :
    LastAmong among (fun y => P y ∧ Q y) h := by
  obtain ⟨earlier, y, since, rfl, hAmong, hy, hSince⟩ := hP
  obtain ⟨earlier', z, since', hSplit, hAmong', hz, hSince'⟩ := hQ
  have hSame : z = y := by
    rcases List.append_eq_append_iff.1 hSplit with ⟨more, -, hMore⟩ | ⟨more, -, hMore⟩
    · cases more with
      | nil => exact (List.cons_eq_cons.1 hMore).1.symm
      | cons w more =>
        obtain ⟨-, rfl⟩ := List.cons_eq_cons.1 hMore
        have hLater := hSince z (List.mem_append_right _ List.mem_cons_self)
        exact absurd (hLater.symm.trans hAmong') Bool.false_ne_true
    · cases more with
      | nil => exact (List.cons_eq_cons.1 hMore).1
      | cons w more =>
        obtain ⟨-, rfl⟩ := List.cons_eq_cons.1 hMore
        have hLater := hSince' y (List.mem_append_right _ List.mem_cons_self)
        exact absurd (hLater.symm.trans hAmong) Bool.false_ne_true
  rw [hSame] at hz
  exact ⟨earlier, y, since, rfl, hAmong, ⟨hy, hz⟩, hSince⟩

/-- The exchange that was just made is the last one, if it is among them. -/
lemma LastAmong.of_concat (hLast : LastAmong among P (h ++ [y])) (hAmong : among y.call) : P y := by
  obtain ⟨_, z, _, -, -, ⟨hP, rfl⟩, -⟩ := hLast.and (lastAmong_concat (P := (· = y)) hAmong rfl)
  exact hP

end IamReconciler
