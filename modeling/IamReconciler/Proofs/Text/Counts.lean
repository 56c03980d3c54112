import IamReconciler.Text.Count
import Mathlib.Data.List.Induction
import Mathlib.Data.List.TakeWhile
import Mathlib.Data.Nat.Digits.Defs

/-!
# What counts denote

The digits of a count are read from left to right, and the value is checked against the largest
count after each of them.  As the value never falls, this tells whether all of the digits exceed the
largest count (`foldlM_pushDigit`), however many zeros stand in front.

A text is read up to its first fault, so that what is found wrong depends on what comes first: the
digit that makes the value too large, or the character that is no digit (`readsAs_iff`).
-/

namespace IamReconciler.Text

/-! ## Digits -/

/-- The number that digits denote in base ten, where the last digit counts ones. -/
def decimal (digits : List Char) : Nat :=
  Nat.ofDigits 10 (digits.map fun c => c.toNat - '0'.toNat).reverse

/-- All characters are digits of ASCII. -/
def AllDigits (cs : List Char) : Prop :=
  ∀ c ∈ cs, c.isDigit = true

variable {c : Char} {cs digits rest : List Char}

/-- One more digit at the end multiplies what stands before it by ten. -/
lemma decimal_concat (digits : List Char) (c : Char) :
    decimal (digits ++ [c]) = decimal digits * 10 + (c.toNat - '0'.toNat) := by
  rw [decimal, List.map_append, List.reverse_append, List.map_singleton, List.reverse_singleton,
    List.singleton_append, Nat.ofDigits_cons, Nat.mul_comm, Nat.add_comm]
  rfl

lemma allDigits_concat_iff : AllDigits (digits ++ [c]) ↔ AllDigits digits ∧ c.isDigit = true := by
  simp [AllDigits, or_imp, forall_and]

/-- The digits of ASCII have a value. -/
lemma digitValue?_of_isDigit (h : c.isDigit = true) :
    digitValue? c = some (c.toNat - '0'.toNat) := by
  simp only [Char.isDigit, Bool.and_eq_true, decide_eq_true_eq] at h
  exact if_pos h

/-- Other characters have no value. -/
lemma digitValue?_of_not_isDigit (h : c.isDigit = false) : digitValue? c = none := by
  refine if_neg fun hRange => ?_
  have hDigit : c.isDigit = true := by
    simp only [Char.isDigit, Bool.and_eq_true, decide_eq_true_eq]
    exact hRange
  rw [hDigit] at h
  cases h

/-- Digits are read as what they denote unless that exceeds the largest count. -/
theorem foldlM_pushDigit (h : AllDigits digits) :
    digits.foldlM pushDigit 0 = if maxCount < decimal digits then
      .error .tooLarge else .ok (decimal digits) := by
  induction digits using List.reverseRecOn with
  | nil => rfl
  | append_singleton digits c ih =>
    obtain ⟨hDigits, hLast⟩ := allDigits_concat_iff.1 h
    rw [List.foldlM_append, ih hDigits, decimal_concat]
    by_cases hLarge : maxCount < decimal digits
    · -- what is too large before the last digit is too large with it
      have hStill : maxCount < decimal digits * 10 + (c.toNat - '0'.toNat) := by omega
      rw [if_pos hLarge, if_pos hStill]
      rfl
    · rw [if_neg hLarge]
      change [c].foldlM pushDigit (decimal digits) = _
      rw [List.foldlM_cons, pushDigit, digitValue?_of_isDigit hLast]
      dsimp only
      split <;> rfl

/-! ## Readings -/

/-- How characters are read as a count: what they denote, or what is found first that is wrong with
them. -/
inductive ReadsAs : List Char → Except CountFault Nat → Prop where
  /-- One or more digits denote a count. -/
  | count {digits : List Char} (hSome : digits ≠ []) (hDigits : AllDigits digits)
      (hFits : decimal digits ≤ maxCount) : ReadsAs digits (.ok (decimal digits))
  /-- There is no digit. -/
  | nothing : ReadsAs [] (.error .notADigit)
  /-- After digits that denote a count, or after none, there is a character that is no digit. -/
  | stray {digits rest : List Char} {c : Char} (hDigits : AllDigits digits)
      (hFits : decimal digits ≤ maxCount) (hStray : c.isDigit = false) :
      ReadsAs (digits ++ c :: rest) (.error .notADigit)
  /-- The first digits exceed the largest count, whatever comes after them. -/
  | large {digits rest : List Char} (hDigits : AllDigits digits)
      (hLarge : maxCount < decimal digits) : ReadsAs (digits ++ rest) (.error .tooLarge)

/-- Characters are read digit by digit when there are any. -/
lemma digitsValue_of_ne_nil (h : cs ≠ []) : digitsValue cs = cs.foldlM pushDigit 0 := by
  cases cs with
  | nil => exact absurd rfl h
  | cons => rfl

/-- Reading stops at digits that exceed the largest count. -/
lemma digitsValue_large (hDigits : AllDigits digits) (hLarge : maxCount < decimal digits) :
    digitsValue (digits ++ rest) = .error .tooLarge := by
  have hSome : digits ++ rest ≠ [] := by
    intro hNil
    obtain ⟨rfl, -⟩ := List.append_eq_nil_iff.1 hNil
    exact absurd hLarge (Nat.not_lt_zero _)
  rw [digitsValue_of_ne_nil hSome, List.foldlM_append, foldlM_pushDigit hDigits, if_pos hLarge]
  rfl

/-- Reading stops at a character that is no digit. -/
lemma digitsValue_stray (hDigits : AllDigits digits) (hFits : decimal digits ≤ maxCount)
    (hStray : c.isDigit = false) : digitsValue (digits ++ c :: rest) = .error .notADigit := by
  have hSome : digits ++ c :: rest ≠ [] :=
    List.append_ne_nil_of_right_ne_nil _ (List.cons_ne_nil _ _)
  rw [digitsValue_of_ne_nil hSome, List.foldlM_append, foldlM_pushDigit hDigits,
    if_neg (Nat.not_lt.2 hFits)]
  change (c :: rest).foldlM pushDigit (decimal digits) = _
  rw [List.foldlM_cons, pushDigit, digitValue?_of_not_isDigit hStray]
  rfl

/-- Every list of characters is read in one of the ways. -/
lemma readsAs_digitsValue (cs : List Char) : ReadsAs cs (digitsValue cs) := by
  have hSplit : cs.takeWhile Char.isDigit ++ cs.dropWhile Char.isDigit = cs :=
    List.takeWhile_append_dropWhile
  have hDigits : AllDigits (cs.takeWhile Char.isDigit) := fun c => List.mem_takeWhile_imp
  have hStop := List.head?_dropWhile_not Char.isDigit cs
  generalize cs.takeWhile Char.isDigit = digits at hSplit hDigits
  generalize cs.dropWhile Char.isDigit = rest at hSplit hStop
  subst hSplit
  by_cases hLarge : maxCount < decimal digits
  · rw [digitsValue_large hDigits hLarge]
    exact .large hDigits hLarge
  have hFits : decimal digits ≤ maxCount := Nat.not_lt.1 hLarge
  cases rest with
  | cons c rest =>
    rw [digitsValue_stray hDigits hFits hStop]
    exact .stray hDigits hFits hStop
  | nil =>
    rw [List.append_nil]
    by_cases hNone : digits = []
    · subst hNone
      exact .nothing
    · rw [digitsValue_of_ne_nil hNone, foldlM_pushDigit hDigits, if_neg hLarge]
      exact .count hNone hDigits hFits

/-- Characters are read in one way only. -/
theorem readsAs_iff {result : Except CountFault Nat} :
    ReadsAs cs result ↔ digitsValue cs = result := by
  constructor
  · intro h
    cases h with
    | count hSome hDigits hFits =>
      rw [digitsValue_of_ne_nil hSome, foldlM_pushDigit hDigits, if_neg (Nat.not_lt.2 hFits)]
    | nothing => rfl
    | stray hDigits hFits hStray => exact digitsValue_stray hDigits hFits hStray
    | large hDigits hLarge => exact digitsValue_large hDigits hLarge
  · rintro rfl
    exact readsAs_digitsValue cs

/-! ## Texts -/

/-- What follows the sign of a text, or the whole text when it has none. -/
def unsigned (s : String) : List Char :=
  match s.toList with
  | '+' :: digits => digits
  | cs => cs

/-- A text denotes a number when it consists of one or more digits of that value, with or without a
plus sign. -/
def Denotes (s : String) (n : Nat) : Prop :=
  ∃ sign digits, s.toList = sign ++ digits ∧ (sign = [] ∨ sign = ['+']) ∧ digits ≠ [] ∧
    AllDigits digits ∧ decimal digits = n

/-- A text strays when what comes first after its sign, and after some digits that denote a count,
is no digit; or when nothing comes after its sign. -/
def Strays (s : String) : Prop :=
  ∃ digits rest, unsigned s = digits ++ rest ∧ AllDigits digits ∧ decimal digits ≤ maxCount ∧
    (digits = [] ∧ rest = [] ∨ ∃ c, rest.head? = some c ∧ c.isDigit = false)

/-- A text exceeds when the digits that come first after its sign denote more than the largest
count. -/
def Exceeds (s : String) : Prop :=
  ∃ digits rest, unsigned s = digits ++ rest ∧ AllDigits digits ∧ maxCount < decimal digits

variable {s : String}

/-- A text that is not empty is read after its sign. -/
lemma readCount_eq (h : s ≠ "") : readCount s = digitsValue (unsigned s) := by
  have hSome : s.toList ≠ [] := fun hNil => h (String.toList_eq_nil_iff.1 hNil)
  unfold readCount unsigned
  split
  · contradiction
  · rename_i hSign
    rw [hSign]
    rfl
  · rename_i hOther
    split
    · rename_i digits hSign
      exact absurd hSign (hOther digits)
    · rfl

/-- Digits do not begin with a sign. -/
lemma AllDigits.ne_sign (h : AllDigits digits) (rest : List Char) : digits ≠ '+' :: rest := by
  rintro rfl
  exact absurd (h '+' List.mem_cons_self) (by decide)

/-- A text denotes the value of the digits after its sign. -/
lemma denotes_iff {n : Nat} :
    Denotes s n ↔ unsigned s ≠ [] ∧ AllDigits (unsigned s) ∧ decimal (unsigned s) = n := by
  constructor
  · rintro ⟨sign, digits, hText, hSign, hSome, hDigits, hValue⟩
    have hUnsigned : unsigned s = digits := by
      unfold unsigned
      rw [hText]
      rcases hSign with rfl | rfl
      · rw [List.nil_append]
        split
        · exact absurd rfl (hDigits.ne_sign _)
        · rfl
      · rfl
    rw [hUnsigned]
    exact ⟨hSome, hDigits, hValue⟩
  · intro h
    have hText : s.toList = '+' :: unsigned s ∨ s.toList = unsigned s := by
      unfold unsigned
      split
      · rename_i hSign
        exact .inl hSign
      · exact .inr rfl
    rcases hText with hText | hText
    · exact ⟨['+'], unsigned s, hText, .inr rfl, h⟩
    · exact ⟨[], unsigned s, hText, .inl rfl, h⟩

/-- A text is read as a count when it denotes it. -/
lemma readCount_eq_ok_iff {n : Nat} : readCount s = .ok n ↔ Denotes s n ∧ n ≤ maxCount := by
  by_cases hEmpty : s = ""
  · subst hEmpty
    refine ⟨nofun, fun h => ?_⟩
    exact absurd rfl (denotes_iff.1 h.1).1
  rw [readCount_eq hEmpty, ← readsAs_iff, denotes_iff]
  constructor
  · generalize unsigned s = cs
    intro h
    cases h with
    | count hSome hDigits hFits => exact ⟨⟨hSome, hDigits, rfl⟩, hFits⟩
  · rintro ⟨⟨hSome, hDigits, rfl⟩, hFits⟩
    exact .count hSome hDigits hFits

/-- A text that is not empty is refused for a character that is no digit when it strays. -/
lemma readCount_eq_notADigit_iff (hSome : s ≠ "") : readCount s = .error .notADigit ↔ Strays s := by
  rw [readCount_eq hSome, ← readsAs_iff, Strays]
  generalize unsigned s = cs
  constructor
  · intro h
    cases h with
    | nothing => exact ⟨[], [], rfl, nofun, Nat.zero_le _, .inl ⟨rfl, rfl⟩⟩
    | stray hDigits hFits hStray => exact ⟨_, _, rfl, hDigits, hFits, .inr ⟨_, rfl, hStray⟩⟩
  · rintro ⟨digits, rest, rfl, hDigits, hFits, ⟨rfl, rfl⟩ | ⟨c, hHead, hStray⟩⟩
    · exact .nothing
    · obtain ⟨rest, rfl⟩ := List.head?_eq_some_iff.1 hHead
      exact .stray hDigits hFits hStray

/-- A text is refused for its value when it exceeds. -/
lemma readCount_eq_tooLarge_iff (hSome : s ≠ "") : readCount s = .error .tooLarge ↔ Exceeds s := by
  rw [readCount_eq hSome, ← readsAs_iff, Exceeds]
  generalize unsigned s = cs
  constructor
  · intro h
    cases h with
    | large hDigits hLarge => exact ⟨_, _, rfl, hDigits, hLarge⟩
  · rintro ⟨digits, rest, rfl, hDigits, hLarge⟩
    exact .large hDigits hLarge

/-- A text that is not empty is not refused for being empty. -/
lemma readCount_ne_empty (hSome : s ≠ "") : readCount s ≠ .error .empty := by
  rw [readCount_eq hSome]
  generalize unsigned s = cs
  intro h
  cases readsAs_iff.2 h

end IamReconciler.Text
