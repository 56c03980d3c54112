import IamReconciler.Proofs.Json.Spelling
import IamReconciler.Proofs.Json.Yields
import Mathlib.Data.List.TakeDrop

/-!
# Scanning what is spelled

What a scan does with characters of which the first ones are known: it gives a value and leaves the
others (`Scan.Takes`).  Where the cursor stands does not matter, and the rules follow the scan from
one step to the next.

The words, numbers and strings that a value spells are taken in this way.  A number ends where
something stands that may follow a value (`Scan.Ends`), which no digit does.
-/

namespace IamReconciler

namespace Scan

variable {α β : Type} {p : Scan α} {n : Nat} {cs mid rest : List Char} {a : α} {b : β}

/-- With so many levels left that may be entered, a scan gives a value and takes characters as far
as others. -/
def Takes (p : Scan α) (n : Nat) (cs : List Char) (a : α) (rest : List Char) : Prop :=
  ∀ offset, ∃ offset', p.run ⟨cs, offset, n + 1⟩ = (.ok a, ⟨rest, offset', n + 1⟩)

/-! ## Steps -/

/-- A scan that gives a value. -/
lemma takes_pure (a : α) : (pure a : Scan α).Takes n cs a cs :=
  fun offset => ⟨offset, rfl⟩

/-- A scan followed by another. -/
lemma Takes.bind {k : α → Scan β} (h : p.Takes n cs a mid) (hNext : (k a).Takes n mid b rest) :
    (p >>= k).Takes n cs b rest := by
  intro offset
  obtain ⟨between, hFirst⟩ := h offset
  obtain ⟨after, hSecond⟩ := hNext between
  refine ⟨after, ?_⟩
  rw [run_bind, hFirst]
  exact hSecond

/-- A scan whose value is turned into another. -/
lemma Takes.map (f : α → β) (h : p.Takes n cs a rest) : (f <$> p).Takes n cs (f a) rest := by
  rw [← bind_pure_comp]
  exact h.bind (takes_pure _)

/-- A scan whose faults get a place. -/
lemma Takes.settle (h : p.Takes n cs a rest) : (settle p).Takes n cs a rest := by
  intro offset
  obtain ⟨after, hRun⟩ := h offset
  refine ⟨after, ?_⟩
  rw [Scan.settle, run_tryCatch, hRun]

/-- The value of a reading. -/
lemma takes_ofRead {read : Except ReadFault α} (h : read = .ok a) :
    (ofRead read).Takes n cs a cs := by
  rw [h]
  exact takes_pure a

/-- A scan that is closed by another. -/
lemma Takes.closing {close : Scan Unit} (h : p.Takes n cs a mid)
    (hClose : close.Takes n mid () rest) : (closing p close).Takes n cs a rest := by
  intro offset
  obtain ⟨between, hFirst⟩ := h offset
  obtain ⟨after, hSecond⟩ := hClose between
  refine ⟨after, ?_⟩
  change ((p.run _).1 >>= fun value => (close.run (p.run _).2).1.map fun _ => value,
    (close.run (p.run _).2).2) = _
  rw [hFirst, hSecond]
  rfl

/-- A scan inside a list or an object has one level less. -/
lemma Takes.inside {c : Char} (h : p.Takes n cs a rest) :
    (inside p).Takes (n + 1) (c :: cs) a rest := by
  intro offset
  obtain ⟨after, hRun⟩ := h (offset + c.utf8Size)
  refine ⟨after, ?_⟩
  have hDepth : ¬ n + 1 + 1 ≤ 1 := by omega
  change (if n + 1 + 1 ≤ 1 then failAhead .tooDeep else _ : Scan α).run
    ⟨c :: cs, offset, n + 1 + 1⟩ = _
  rw [if_neg hDepth]
  change ((p >>= _ : Scan α)).run ⟨cs, offset + c.utf8Size, n + 1⟩ = _
  rw [run_bind, hRun]
  rfl

/-- The character to come. -/
lemma takes_peek : peek.Takes n cs cs.head? cs :=
  fun offset => ⟨offset, rfl⟩

/-- A character is passed. -/
lemma takes_skip {c : Char} : skip.Takes n (c :: cs) () cs :=
  fun offset => ⟨offset + c.utf8Size, rfl⟩

/-- The bound for the steps that are left. -/
lemma takes_fuel : fuel.Takes n cs (2 * cs.length + 2) cs :=
  fun offset => ⟨offset, rfl⟩

/-- What is no more than the characters before others is within the bound. -/
lemma le_fuel {k : Nat} (h : k ≤ cs.length) : k ≤ 2 * (cs ++ rest).length + 2 := by
  rw [List.length_append]
  omega

/-- The first character of the token to come, where no space stands. -/
lemma takes_peekToken {c : Char} (hSpace : isSpace c = false) :
    peekToken.Takes n (c :: cs) (some c) (c :: cs) := by
  intro offset
  refine ⟨offset, ?_⟩
  have hNone : (c :: cs).takeWhile isSpace = [] := List.takeWhile_cons_of_neg (by simp [hSpace])
  have hAll : (c :: cs).dropWhile isSpace = c :: cs := List.dropWhile_cons_of_neg (by simp [hSpace])
  change (Except.ok ((c :: cs).dropWhile isSpace).head?, (⟨(c :: cs).dropWhile isSpace,
    offset + ((c :: cs).takeWhile isSpace).length, n + 1⟩ : Cursor)) = _
  rw [hNone, hAll]
  rfl

/-- The end of the text. -/
lemma takes_peekToken_nil : peekToken.Takes n [] none [] :=
  fun offset => ⟨offset, rfl⟩

/-- Digits are passed up to a character that is none. -/
lemma takes_digits {ds : List Char} (hDigits : ∀ c ∈ ds, c.isDigit)
    (hRest : ∀ c ∈ rest.head?, c.isDigit = false) : digits.Takes n (ds ++ rest) ds rest := by
  intro offset
  refine ⟨offset + ds.length, ?_⟩
  have hSpan : (ds ++ rest).span Char.isDigit = (ds, rest) := by
    rw [List.span_eq_takeWhile_dropWhile, List.takeWhile_append_of_pos hDigits,
      List.dropWhile_append_of_pos hDigits]
    cases rest with
    | nil => rw [List.takeWhile_nil, List.dropWhile_nil, List.append_nil]
    | cons c rest =>
      have hOther : ¬c.isDigit := by rw [hRest c rfl]; exact Bool.false_ne_true
      rw [List.takeWhile_cons_of_neg hOther, List.dropWhile_cons_of_neg hOther, List.append_nil]
  change (Except.ok ((ds ++ rest).span Char.isDigit).1, (⟨((ds ++ rest).span Char.isDigit).2,
    offset + ((ds ++ rest).span Char.isDigit).1.length, n + 1⟩ : Cursor)) = _
  rw [hSpan]

/-- The letters of a word are passed. -/
lemma takes_word (letters : List Char) : (word letters).Takes n (letters ++ rest) () rest := by
  induction letters with
  | nil => exact takes_pure ()
  | cons letter letters ih =>
    refine .bind takes_peek ?_
    change (if letter = letter then _ else _ : Scan Unit).Takes _ _ _ _
    rw [if_pos rfl]
    exact .bind takes_skip ih

/-! ## Numbers -/

/-- What may stand after a value: the end of the text, of a list or of an object, or a comma. -/
inductive Ends : List Char → Prop where
  | text : Ends []
  | comma (rest : List Char) : Ends (',' :: rest)
  | list (rest : List Char) : Ends (']' :: rest)
  | object (rest : List Char) : Ends ('\x7d' :: rest)

/-- No digit stands after a value. -/
lemma Ends.not_isDigit (h : Ends rest) : ∀ c ∈ rest.head?, c.isDigit = false := by
  cases h with
  | text => exact nofun
  | comma | list | object =>
    rintro c ⟨⟩
    rfl

/-- The digits of a number are passed, and a zero in front stands alone. -/
lemma takes_wholeDigits (m : Nat) (hEnds : Ends rest) :
    wholeDigits.Takes n (Nat.toDigits 10 m ++ rest) (Nat.toDigits 10 m) rest := by
  obtain ⟨c, cs, hDigits, hDigit, hZero⟩ := Json.exists_toDigits_eq_cons m
  refine .bind takes_peek ?_
  by_cases hFirst : c = '0'
  · obtain rfl := hZero hFirst
    refine .bind takes_skip (.bind takes_peek ?_)
    change (if rest.head?.any Char.isDigit then _ else _ : Scan (List Char)).Takes _ _ _ _
    rw [(Option.any_eq_false _ _).2 hEnds.not_isDigit]
    exact takes_pure _
  · have hHead : (Nat.toDigits 10 m ++ rest).head? = some c := by
      rw [hDigits]
      rfl
    rw [hHead]
    split
    · contradiction
    · rename_i hEq
      exact absurd (Option.some.inj hEq) hFirst
    · rename_i hEq
      rw [← Option.some.inj hEq, if_pos hDigit]
      exact takes_digits (fun c => Nat.isDigit_of_mem_toDigits (by decide) (by decide))
        hEnds.not_isDigit

/-- Digits all count when their number fits into 64 bits. -/
lemma foldl_pushWhole (ds : List Char) (v : Nat) (h : Nat.ofDigitChars 10 ds v < Nat.pow 2 64) :
    ds.foldl Significand.pushWhole ⟨v, 0, 0⟩ = ⟨Nat.ofDigitChars 10 ds v, 0, 0⟩ := by
  induction ds generalizing v with
  | nil => rfl
  | cons c ds ih =>
    rw [Nat.ofDigitChars_cons] at h ⊢
    generalize hNext : 10 * v + (c.toNat - '0'.toNat) = next at h ⊢
    have hValue : v * 10 + digitValue c = next := by
      rw [← hNext, Nat.mul_comm]
      rfl
    -- more digits only make the number greater, so that this one counts as well
    have hMore : next ≤ Nat.ofDigitChars 10 ds next := by
      rw [Nat.ofDigitChars_eq_ofDigitChars_zero]
      exact (Nat.le_mul_of_pos_left _ (Nat.pow_pos (by decide))).trans (Nat.le_add_right _ _)
    have hPush : Significand.pushWhole ⟨v, 0, 0⟩ c = ⟨next, 0, 0⟩ := by
      rw [← hValue] at hMore h ⊢
      exact if_pos ⟨rfl, decide_eq_true (hMore.trans_lt h)⟩
    rw [List.foldl_cons, hPush]
    exact ih next h

/-- An integer that fits into 64 bits is read from its digits. -/
lemma takes_number {negative : Bool} {i : Int} (hSign : decide (i < 0) = negative)
    (hFits : fitsWord i) (hEnds : Ends rest) :
    (number negative).Takes n (Nat.toDigits 10 i.natAbs ++ rest) (.int i) rest := by
  subst hSign
  have hDigits : (Nat.toDigits 10 i.natAbs).foldl Significand.pushWhole ⟨0, 0, 0⟩ =
      ⟨i.natAbs, 0, 0⟩ := by
    have hSmall : Nat.ofDigitChars 10 (Nat.toDigits 10 i.natAbs) 0 < Nat.pow 2 64 := by
      simp only [fitsWord, Bool.and_eq_true, decide_eq_true_eq, Nat.pow_eq] at hFits ⊢
      rw [Nat.ofDigitChars_ten_toDigits]
      omega
    rw [foldl_pushWhole _ _ hSmall, Nat.ofDigitChars_ten_toDigits]
  have hWhole : whole (decide (i < 0)) ⟨i.natAbs, 0, 0⟩ = pure (.int i) := by
    have hValue : (if decide (i < 0) then -(i.natAbs : Int) else i.natAbs) = i := by
      simp only [decide_eq_true_eq]
      omega
    have hZero : ¬(decide (i < 0) ∧ i.natAbs = 0) := by
      simp only [decide_eq_true_eq]
      omega
    rw [whole, hValue]
    exact (if_neg fun hOmitted => hOmitted rfl).trans (if_pos ⟨hFits, hZero⟩)
  refine .bind (takes_wholeDigits i.natAbs hEnds) (.bind takes_peek ?_)
  rw [hDigits]
  cases hEnds with
  | text | comma | list | object =>
    change (whole _ _).Takes _ _ _ _
    rw [hWhole]
    exact takes_pure _

/-- A number that does not matter is passed. -/
lemma takes_passNumber (m : Nat) (hEnds : Ends rest) :
    passNumber.Takes n (Nat.toDigits 10 m ++ rest) () rest := by
  obtain ⟨c, cs, hDigits, hDigit, -⟩ := Json.exists_toDigits_eq_cons m
  have hNeed : needDigit.Takes n (Nat.toDigits 10 m ++ rest) () (Nat.toDigits 10 m ++ rest) := by
    refine .bind takes_peek ?_
    rw [hDigits]
    change (if !c.isDigit then _ else _ : Scan Unit).Takes _ _ _ _
    rw [hDigit]
    exact takes_pure ()
  refine .bind hNeed (.bind (takes_wholeDigits m hEnds) (.bind takes_peek ?_))
  cases hEnds with
  | text | comma | list | object => exact .bind takes_peek (takes_pure ())

/-! ## Strings -/

/-- How a character stands in a string: as a letter or as a number after a backslash, or for
itself. -/
inductive StandsFor (c : Char) : List Char → Prop where
  | letter {l : Char} (hLetter : l ≠ 'u') (h : escapeLetter? l = some c) : StandsFor c ['\\', l]
  | number {h₁ h₂ h₃ h₄ : Char} (hControl : c.toNat < 0x20)
      (h : fourHexValue? h₁ h₂ h₃ h₄ = some c.toNat) : StandsFor c ['\\', 'u', h₁, h₂, h₃, h₄]
  | plain (hQuote : c ≠ '"') (hBackslash : c ≠ '\\') (hPrintable : ¬c.toNat < 0x20) :
      StandsFor c [c]

/-- Every character stands in a string as it is printed. -/
lemma standsFor_escapeChar (c : Char) : StandsFor c (Json.escapeChar c).toList := by
  unfold Json.escapeChar
  split
  case h_8 hQuote hBackslash _ _ _ _ _ =>
    split
    · rename_i hControl
      have hDigits : ∀ n < 0x20, fourHexValue? (Nat.digitChar (n / Nat.pow 16 3 % 16))
          (Nat.digitChar (n / Nat.pow 16 2 % 16)) (Nat.digitChar (n / Nat.pow 16 1 % 16))
          (Nat.digitChar (n / Nat.pow 16 0 % 16)) = some n := by
        decide
      have hText : ("\\u" ++ Json.fourHex c.toNat).toList =
          ['\\', 'u', Nat.digitChar (c.toNat / Nat.pow 16 3 % 16),
            Nat.digitChar (c.toNat / Nat.pow 16 2 % 16),
            Nat.digitChar (c.toNat / Nat.pow 16 1 % 16),
            Nat.digitChar (c.toNat / Nat.pow 16 0 % 16)] := by
        rw [String.toList_append]
        exact congrArg (['\\', 'u'] ++ ·) String.toList_ofList
      rw [hText]
      exact .number hControl (hDigits c.toNat hControl)
    · rename_i hPrintable
      rw [Char.toString, String.toList_singleton]
      exact .plain hQuote hBackslash hPrintable
  all_goals exact .letter (by decide) rfl

/-- What stands for a character is read as it. -/
lemma StandsFor.stringChars {c : Char} (h : StandsFor c cs) (read : List Char) (offset : Nat)
    (rest : List Char) :
    ∃ offset', stringChars read offset (cs ++ rest) = stringChars (c :: read) offset' rest := by
  cases h with
  | @letter l hLetter h =>
    refine ⟨offset + 2, ?_⟩
    change Scan.stringChars read offset ('\\' :: l :: rest) = _
    rw [Scan.stringChars, h]
    · rintro _ _ _ _ _ rfl
      exact absurd rfl hLetter
    · exact hLetter
  | number hControl h =>
    refine ⟨offset + 6, ?_⟩
    have hWhole : ∀ n < 0x20, isSecondHalf n = false ∧ isFirstHalf n = false := by decide
    obtain ⟨hSecond, hFirst⟩ := hWhole c.toNat hControl
    change Scan.stringChars read offset ('\\' :: 'u' :: _ :: _ :: _ :: _ :: rest) = _
    rw [Scan.stringChars, h]
    simp only [hSecond, hFirst, Bool.false_eq_true, if_false, Char.ofNat_toNat]
  | plain hQuote hBackslash hPrintable =>
    refine ⟨offset + c.utf8Size, ?_⟩
    change Scan.stringChars read offset (c :: rest) = _
    rw [Scan.stringChars, if_neg hPrintable]
    · exact hQuote
    all_goals
      intros
      contradiction

/-- What stands for a character is passed. -/
lemma StandsFor.afterString {c : Char} (h : StandsFor c cs) (offset : Nat) (rest : List Char) :
    ∃ offset', afterString offset (cs ++ rest) = afterString offset' rest := by
  cases h with
  | @letter l hLetter h =>
    refine ⟨offset + 2, ?_⟩
    change Scan.afterString offset ('\\' :: l :: rest) = _
    rw [Scan.afterString, h]
    · rintro _ _ _ _ _ rfl
      exact absurd rfl hLetter
    · exact hLetter
  | number _ h =>
    refine ⟨offset + 6, ?_⟩
    change Scan.afterString offset ('\\' :: 'u' :: _ :: _ :: _ :: _ :: rest) = _
    rw [Scan.afterString, h]
  | plain hQuote hBackslash hPrintable =>
    refine ⟨offset + c.utf8Size, ?_⟩
    change Scan.afterString offset (c :: rest) = _
    rw [Scan.afterString, if_neg hPrintable]
    · exact hQuote
    all_goals
      intros
      contradiction

/-- The characters of a string are read up to its closing quote. -/
lemma stringChars_spellChars (s read : List Char) (offset : Nat) (rest : List Char) :
    ∃ offset', stringChars read offset (Json.spellChars s ++ '"' :: rest) =
      .ok (s.reverse ++ read, rest, offset') := by
  induction s generalizing read offset with
  | nil => exact ⟨offset + 1, rfl⟩
  | cons c s ih =>
    obtain ⟨between, hFirst⟩ := (standsFor_escapeChar c).stringChars read offset
      (Json.spellChars s ++ '"' :: rest)
    obtain ⟨after, hRest⟩ := ih (c :: read) between
    refine ⟨after, ?_⟩
    rw [Json.spellChars, List.flatMap_cons, List.append_assoc]
    refine hFirst.trans (hRest.trans ?_)
    rw [List.reverse_cons, List.append_assoc, List.singleton_append]

/-- The characters of a string are passed up to its closing quote. -/
lemma afterString_spellChars (s : List Char) (offset : Nat) (rest : List Char) :
    ∃ offset', afterString offset (Json.spellChars s ++ '"' :: rest) = .ok (rest, offset') := by
  induction s generalizing offset with
  | nil => exact ⟨offset + 1, rfl⟩
  | cons c s ih =>
    obtain ⟨between, hFirst⟩ := (standsFor_escapeChar c).afterString offset
      (Json.spellChars s ++ '"' :: rest)
    obtain ⟨after, hRest⟩ := ih between
    refine ⟨after, ?_⟩
    rw [Json.spellChars, List.flatMap_cons, List.append_assoc]
    exact hFirst.trans hRest

/-- A scan that goes by the cursor. -/
lemma run_get_bind (k : Cursor → Scan α) (c : Cursor) : (get >>= k : Scan α).run c = (k c).run c :=
  rfl

/-- A string is read after its opening quote. -/
lemma takes_stringText (s : String) :
    stringText.Takes n (Json.spellChars s.toList ++ '"' :: rest) s rest := by
  intro offset
  obtain ⟨after, hRead⟩ := stringChars_spellChars s.toList [] offset rest
  refine ⟨after, ?_⟩
  rw [stringText, run_get_bind]
  dsimp only
  rw [hRead, List.append_nil]
  change (Except.ok (String.ofList s.toList.reverse.reverse), _) = _
  rw [List.reverse_reverse, String.ofList_toList]

/-- A string that does not matter is passed after its opening quote. -/
lemma takes_passString (s : String) :
    passString.Takes n (Json.spellChars s.toList ++ '"' :: rest) () rest := by
  intro offset
  obtain ⟨after, hRead⟩ := afterString_spellChars s.toList offset rest
  refine ⟨after, ?_⟩
  rw [passString, run_get_bind]
  dsimp only
  rw [hRead]
  rfl

end Scan

end IamReconciler
