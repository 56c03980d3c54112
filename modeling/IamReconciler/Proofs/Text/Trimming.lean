import IamReconciler.Text.Blank
import Mathlib.Data.List.TakeWhile

/-!
# Trimmed texts

Trimming takes white space away from both ends of a text until other characters stand there, or
nothing is left.  This determines what it leaves (`trims_iff`), which is not blank unless it is
empty.
-/

namespace IamReconciler.Text

/-- A text is what is left of another one without the white space at both ends. -/
structure Trims (s t : String) : Prop where
  /-- Nothing but white space is taken away. -/
  around : ∃ before after, s.toList = before ++ t.toList ++ after ∧
  (∀ c ∈ before, isBlankChar c = true) ∧
    ∀ c ∈ after, isBlankChar c = true
  /-- What is left does not begin with white space. -/
  begins : ∀ c, t.toList.head? = some c → isBlankChar c = false
  /-- What is left does not end with white space. -/
  ends : ∀ c, t.toList.getLast? = some c → isBlankChar c = false

section

variable {α : Type} {p : α → Bool}

/-- Elements of a class are dropped from the front up to the first one that is not in the class. -/
lemma dropWhile_append_of_head {before rest : List α} (hBefore : ∀ a ∈ before, p a = true)
    (hRest : ∀ a, rest.head? = some a → p a = false) : (before ++ rest).dropWhile p = rest := by
  rw [List.dropWhile_append_of_pos hBefore]
  cases rest with
  | nil => rfl
  | cons a rest => exact List.dropWhile_cons_of_neg (by simp [hRest a rfl])

/-- What is left after elements of a class were dropped does not begin with one. -/
lemma not_of_head?_dropWhile {l : List α} {a : α} (h : (l.dropWhile p).head? = some a) :
    p a = false := by
  have hNot := List.head?_dropWhile_not p l
  rwa [h] at hNot

end

variable {s t : String}

/-- What is left without the white space at both ends is what trimming leaves. -/
lemma Trims.eq_trim (h : Trims s t) : t = trim s := by
  obtain ⟨⟨before, after, hText, hBefore, hAfter⟩, hBegins, hEnds⟩ := h
  suffices hChars : trimChars s.toList = t.toList by
    rw [trim, hChars, String.ofList_toList]
  rw [hText]
  by_cases hNil : t.toList = []
  · -- there is white space only, so that the two ends cannot be told apart
    rw [hNil, List.append_nil]
    refine (trimChars_eq_nil_iff _).2 fun c hMem => ?_
    rcases List.mem_append.1 hMem with hMem | hMem
    · exact hBefore c hMem
    · exact hAfter c hMem
  obtain ⟨first, rest, hCons⟩ := List.exists_cons_of_ne_nil hNil
  have hFront : (before ++ (t.toList ++ after)).dropWhile isBlankChar = t.toList ++ after := by
    refine dropWhile_append_of_head hBefore fun c hHead => hBegins c ?_
    rw [hCons] at hHead ⊢
    exact hHead
  have hBack : (after.reverse ++ t.toList.reverse).dropWhile isBlankChar = t.toList.reverse := by
    refine dropWhile_append_of_head (fun c hMem => hAfter c (List.mem_reverse.1 hMem))
      fun c hHead => ?_
    rw [List.head?_reverse] at hHead
    exact hEnds c hHead
  rw [trimChars, List.append_assoc, hFront, List.reverse_append, hBack, List.reverse_reverse]

/-- Trimming leaves a text without white space at its ends, and takes nothing else away. -/
lemma trims_trim (s : String) : Trims s (trim s) := by
  have hLeft : (trim s).toList = trimChars s.toList := String.toList_ofList
  have hFront : s.toList.takeWhile isBlankChar ++ s.toList.dropWhile isBlankChar = s.toList :=
    List.takeWhile_append_dropWhile
  generalize hTail : s.toList.dropWhile isBlankChar = tail at hFront
  have hChars : trimChars s.toList = (tail.reverse.dropWhile isBlankChar).reverse := by
    rw [trimChars, hTail]
  have hBack : tail = trimChars s.toList ++ (tail.reverse.takeWhile isBlankChar).reverse := by
    rw [hChars, ← List.reverse_append, List.takeWhile_append_dropWhile, List.reverse_reverse]
  constructor
  case around =>
    refine ⟨s.toList.takeWhile isBlankChar, (tail.reverse.takeWhile isBlankChar).reverse, ?_, ?_,
      ?_⟩
    · rw [hLeft, List.append_assoc, ← hBack, hFront]
    · exact fun c hMem => List.mem_takeWhile_imp hMem
    · exact fun c hMem => List.mem_takeWhile_imp (List.mem_reverse.1 hMem)
  case begins =>
    intro c hHead
    have hTailHead : tail.head? = some c := by
      rw [hBack, List.head?_append, ← hLeft, hHead]
      rfl
    exact not_of_head?_dropWhile (hTail ▸ hTailHead)
  case ends =>
    intro c hLast
    rw [hLeft, hChars, List.getLast?_reverse] at hLast
    exact not_of_head?_dropWhile hLast

/-- Trimming is the only way to take all white space away from both ends and nothing else. -/
theorem trims_iff : Trims s t ↔ t = trim s := by
  constructor
  · exact Trims.eq_trim
  · rintro rfl
    exact trims_trim s

/-- What trimming leaves is not blank, if anything is left. -/
lemma Trims.not_blank (h : Trims s t) (hSome : t ≠ "") : isBlank t = false := by
  obtain ⟨first, rest, hCons⟩ := List.exists_cons_of_ne_nil fun hNil =>
    hSome (String.toList_eq_nil_iff.1 hNil)
  have hFirst : isBlankChar first = false := h.begins first (by rw [hCons]; rfl)
  rw [← Bool.not_eq_true, isBlank_iff]
  intro hAll
  rw [hAll first (hCons ▸ List.mem_cons_self)] at hFirst
  cases hFirst

/-- Nothing is left of a blank text. -/
lemma nonBlank?_eq_none_iff : nonBlank? s = none ↔ ∀ c ∈ s.toList, isBlankChar c = true := by
  rw [← isBlank_iff]
  simp [nonBlank?]

/-- What is left of a text that is not blank is what trimming leaves. -/
lemma nonBlank?_eq_some_iff : nonBlank? s = some t ↔ t ≠ "" ∧ Trims s t := by
  rw [trims_iff, nonBlank?, isBlank]
  constructor
  · intro h
    split at h
    · cases h
    · rename_i hSome
      obtain rfl := Option.some.inj h
      exact ⟨fun hEmpty => hSome (String.isEmpty_iff.2 hEmpty), rfl⟩
  · rintro ⟨hSome, rfl⟩
    exact if_neg fun hEmpty => hSome (String.isEmpty_iff.1 hEmpty)

end IamReconciler.Text
