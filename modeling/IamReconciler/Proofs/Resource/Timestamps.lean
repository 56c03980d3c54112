import IamReconciler.Proofs.Json.Formats
import IamReconciler.Resource.Timestamp
import Mathlib.Data.List.TakeDrop
import Mathlib.Data.List.TakeWhile

/-!
# Written timestamps

A timestamp is read back from its text (`Timestamp.ofChars_text`).  Every number in the text is
written with digits only and ends before a mark that is no digit, so that each step of the reader
takes what one step of the writer gave and leaves the rest; what is left at the end is the offset of
universal time, which moves nothing.
-/

namespace IamReconciler

/-- A digit is no white space. -/
lemma Text.isBlankChar_of_isDigit {c : Char} (h : c.isDigit = true) : isBlankChar c = false := by
  simp only [Char.isDigit, Bool.and_eq_true, decide_eq_true_eq, ge_iff_le,
    UInt32.le_iff_toNat_le] at h
  have hLow : 48 ≤ c.toNat := h.1
  have hHigh : c.toNat ≤ 57 := h.2
  simp only [isBlankChar, blankRanges, List.any_cons, List.any_nil, Bool.or_false,
    Bool.or_eq_false_iff, Bool.and_eq_false_iff, decide_eq_false_iff_not]
  omega

namespace Timestamp

/-! ## Numbers -/

variable {width n : Nat} {rest : List Char}

/-- The characters of a padded number. -/
lemma toList_padded (width n : Nat) :
    (padded width n).toList =
      List.replicate (width - (Nat.toDigits 10 n).length) '0' ++ Nat.toDigits 10 n :=
  String.toList_ofList

/-- A padded number consists of digits. -/
lemma isDigit_of_mem_padded {c : Char} (h : c ∈ (padded width n).toList) : c.isDigit = true := by
  rw [toList_padded, List.mem_append] at h
  rcases h with hZero | hDigit
  · rw [(List.mem_replicate.1 hZero).2]
    rfl
  · exact Nat.isDigit_of_mem_toDigits (by decide) (by decide) hDigit

/-- A padded number has a digit. -/
lemma padded_ne_nil (width n : Nat) : (padded width n).toList ≠ [] := by
  rw [toList_padded]
  exact List.append_ne_nil_of_right_ne_nil _ Nat.toDigits_ne_nil

/-- A padded number that fits has the digits that were asked for. -/
lemma length_padded (hWidth : 0 < width) (hFits : n < Nat.pow 10 width) :
    (padded width n).toList.length = width := by
  have hDigits : (Nat.toDigits 10 n).length ≤ width :=
    (Nat.length_toDigits_le_iff (by decide) hWidth).2 hFits
  rw [toList_padded, List.length_append, List.length_replicate]
  omega

/-- Digits denote their value in base ten. -/
lemma digitsValue_eq (digits : List Char) : digitsValue digits = Nat.ofDigitChars 10 digits 0 := by
  simp only [digitsValue, Nat.ofDigitChars, Nat.mul_comm]

/-- Zeros before digits do not change the value. -/
lemma digitsValue_zeros (count : Nat) (digits : List Char) :
    digitsValue (List.replicate count '0' ++ digits) = digitsValue digits := by
  induction count with
  | zero => rfl
  | succ count ih => exact ih

/-- A padded number denotes what it was made of. -/
lemma digitsValue_padded (width n : Nat) : digitsValue (padded width n).toList = n := by
  rw [toList_padded, digitsValue_zeros, digitsValue_eq]
  exact Nat.ofDigitChars_ten_toDigits

/-- A padded number is a number. -/
lemma takeNumber_padded (width n : Nat) (rest : List Char) :
    takeNumber (padded width n).toList rest = .ok (n, rest) := by
  have hValue := digitsValue_padded width n
  cases hDigits : (padded width n).toList with
  | nil => exact absurd hDigits (padded_ne_nil width n)
  | cons c cs =>
    rw [hDigits] at hValue
    exact congrArg (fun value => Except.ok (value, rest)) hValue

/-- A padded number that fits is read as a short number. -/
lemma shortNumber_padded (hWidth : 0 < width) (hFits : n < Nat.pow 10 width) :
    shortNumber width ((padded width n).toList ++ rest) = .ok (n, rest) := by
  have hTake : ((padded width n).toList ++ rest).take width = (padded width n).toList :=
    List.take_left' (length_padded hWidth hFits)
  have hDigits : (padded width n).toList.takeWhile Char.isDigit = (padded width n).toList :=
    List.takeWhile_eq_self_iff.2 fun _ => isDigit_of_mem_padded
  rw [shortNumber, hTake, hDigits, List.drop_left]
  exact takeNumber_padded width n rest

/-- A padded number of less than 64 bits before a mark is read as a long number. -/
lemma longNumber_padded {mark : Char} (hMark : mark.isDigit = false) (hFits : n < Nat.pow 2 63) :
    longNumber ((padded width n).toList ++ mark :: rest) = .ok (n, mark :: rest) := by
  have hTake : ((padded width n).toList ++ mark :: rest).span Char.isDigit =
      ((padded width n).toList, mark :: rest) := by
    rw [List.span_eq_takeWhile_dropWhile, List.takeWhile_append_of_pos fun _ =>
      isDigit_of_mem_padded, List.dropWhile_append_of_pos fun _ => isDigit_of_mem_padded,
        List.takeWhile_cons_of_neg (by simp [hMark]),
      List.dropWhile_cons_of_neg (by simp [hMark]), List.append_nil]
  simp only [longNumber, hTake, takeNumber_padded, bind, Except.bind, if_pos hFits]

/-- No white space stands before a padded number. -/
lemma dropBlank_padded (width n : Nat) (rest : List Char) :
    dropBlank ((padded width n).toList ++ rest) = (padded width n).toList ++ rest := by
  cases hDigits : (padded width n).toList with
  | nil => exact absurd hDigits (padded_ne_nil width n)
  | cons c cs =>
    have hDigit : c.isDigit = true := isDigit_of_mem_padded (hDigits ▸ List.mem_cons_self)
    exact List.dropWhile_cons_of_neg (by simp [Text.isBlankChar_of_isDigit hDigit])

/-! ## Parts -/

/-- A part of two digits is read back when it lies between the bounds. -/
lemma readPart_padded {low high : Nat} (hLow : low ≤ n) (hHigh : n ≤ high) (hBound : high < 100) :
    readPart low high ((padded 2 n).toList ++ rest) = .ok (n, rest) := by
  have hNumber : shortNumber 2 ((padded 2 n).toList ++ rest) = .ok (n, rest) :=
    shortNumber_padded (by decide) (Nat.lt_of_le_of_lt hHigh hBound)
  simp only [readPart, dropBlank_padded, hNumber, bind, Except.bind, if_pos (And.intro hLow hHigh)]

/-- A year without a sign is read back when it has at most four digits. -/
lemma readYear_unsigned (hFits : n < 10000) :
    readYear ((padded 4 n).toList ++ rest) = .ok ((n : Int), rest) := by
  have hNumber : shortNumber 4 ((padded 4 n).toList ++ rest) = .ok (n, rest) :=
    shortNumber_padded (by decide) hFits
  have hLimit : -((Nat.pow 2 31 : Nat) : Int) ≤ n ∧ (n : Int) < ((Nat.pow 2 31 : Nat) : Int) := by
    have hPow : Nat.pow 2 31 = 2147483648 := rfl
    omega
  have hSign (sign : Char) (hSign : sign.isDigit = false) (cs : List Char) :
      (padded 4 n).toList ++ rest ≠ sign :: cs := by
    intro hEq
    cases hDigits : (padded 4 n).toList with
    | nil => exact padded_ne_nil 4 n hDigits
    | cons c digits =>
      rw [hDigits] at hEq
      have hDigit : c.isDigit = true := isDigit_of_mem_padded (hDigits ▸ List.mem_cons_self)
      rw [(List.cons.inj hEq).1, hSign] at hDigit
      cases hDigit
  rw [readYear, dropBlank_padded]
  split
  · rename_i cs hEq
    exact absurd hEq (hSign '-' rfl cs)
  · rename_i cs hEq
    exact absurd hEq (hSign '+' rfl cs)
  · simp only [hNumber, Except.map, bind, Except.bind, if_pos hLimit]

/-- A year of the calendar is read back. -/
lemma readYear_yearText {year : Int} (hFirst : Day.firstYear ≤ year) (hLast : year ≤ Day.lastYear) :
    readYear ((yearText year).toList ++ '-' :: rest) = .ok (year, '-' :: rest) := by
  simp only [Day.firstYear, Day.lastYear] at hFirst hLast
  have hLimit : -((Nat.pow 2 31 : Nat) : Int) ≤ year ∧ year < ((Nat.pow 2 31 : Nat) : Int) := by
    have hPow : Nat.pow 2 31 = 2147483648 := rfl
    omega
  have hLong : longNumber ((padded 4 year.natAbs).toList ++ '-' :: rest) = .ok
      (year.natAbs, '-' :: rest) :=
    longNumber_padded rfl (by have hPow : Nat.pow 2 63 = 9223372036854775808 := rfl; omega)
  rw [yearText]
  -- a year has a sign when it is negative or has more than four digits
  by_cases hNegative : year < 0
  · have hYear : -(year.natAbs : Int) = year := by omega
    have hBlank (cs : List Char) : dropBlank ('-' :: cs) = '-' :: cs := rfl
    have hSign : "-".toList = ['-'] := rfl
    simp only [if_pos hNegative, String.toList_append, hSign, List.cons_append, List.nil_append]
    simp only [readYear, hBlank, hLong, Except.map, bind, Except.bind, hYear, if_pos hLimit]
  · by_cases hLarge : 9999 < year
    · have hYear : (year.natAbs : Int) = year := by omega
      have hBlank (cs : List Char) : dropBlank ('+' :: cs) = '+' :: cs := rfl
      have hSign : "+".toList = ['+'] := rfl
      simp only [if_neg hNegative, if_pos hLarge, String.toList_append, hSign, List.cons_append,
        List.nil_append]
      simp only [readYear, hBlank, hLong, Except.map, bind, Except.bind, hYear, if_pos hLimit]
    · have hYear : (year.natAbs : Int) = year := by omega
      simp only [if_neg hNegative, if_neg hLarge, String.empty_append]
      rw [readYear_unsigned (by omega), hYear]

/-- Local time without an offset is universal time. -/
lemma ofLocal_zero (t : Timestamp) : ofLocal t.day t.hour t.minute t.second 0 = .ok t := by
  obtain ⟨day, hour, minute, second, hDay, hHour, hMinute, hSecond⟩ := t
  have hMinutes : ((hour * 60 + minute : Nat) : Int) - 0 = ((hour * 60 + minute : Nat) : Int) :=
    Int.sub_zero _
  have hInDay : (((hour * 60 + minute : Nat) : Int) % 1440).toNat = hour * 60 + minute := by omega
  have hHours : (hour * 60 + minute) / 60 = hour := by omega
  have hRest : (hour * 60 + minute) % 60 = minute := by omega
  simp only [ofLocal, hMinutes, if_pos (show day.IsValid ∧ (0 : Int).natAbs < 1440 from
    ⟨hDay, by decide⟩), if_neg (show ¬((hour * 60 + minute : Nat) : Int) < 0 by omega),
    if_neg (show ¬1440 ≤ ((hour * 60 + minute : Nat) : Int) by omega), hInDay, hHours, hRest]
  exact dif_pos ⟨hDay, hHour, hMinute, hSecond⟩

/-- The characters of the text of a timestamp. -/
lemma toList_text (t : Timestamp) :
    t.text.toList = (yearText t.day.year).toList ++ '-' :: ((padded 2 t.day.month).toList ++ '-' ::
      ((padded 2 t.day.day).toList ++ 'T' ::
        ((padded 2 t.hour).toList ++ ':' ::
          ((padded 2 t.minute).toList ++ ':' :: ((padded 2 t.second).toList ++ ['Z']))))) := by
  have hDash : "-".toList = ['-'] := rfl
  have hLetter : "T".toList = ['T'] := rfl
  have hColon : ":".toList = [':'] := rfl
  have hZone : "Z".toList = ['Z'] := rfl
  simp only [text, String.toList_append, List.append_assoc, hDash, hLetter, hColon, hZone,
    List.cons_append, List.nil_append]

/-- A timestamp is read back from its text. -/
theorem ofChars_text (t : Timestamp) : ofChars t.text.toList = .ok t := by
  obtain ⟨⟨hFirst, hLast, hMonth, hMonth', hDay, hDay'⟩, hHour, hMinute, hSecond⟩ := t.valid
  have hDays : daysInMonth t.day.year t.day.month ≤ 31 := by
    rw [daysInMonth]
    split
    · split <;> decide
    · split <;> decide
  have hDash (cs : List Char) : readMark ['-'] (dropBlank ('-' :: cs)) = .ok cs := rfl
  have hLetter (cs : List Char) : readMark ['T', 't', ' '] ('T' :: cs) = .ok cs := rfl
  have hColon (cs : List Char) : readMark [':'] (dropBlank (':' :: cs)) = .ok cs := rfl
  have hFraction : skipFraction ['Z'] = .ok ['Z'] := rfl
  have hOffset : readOffset (dropBlank ['Z']) = .ok (0, []) := rfl
  simp only [ofChars, toList_text, bind, Except.bind, readYear_yearText hFirst hLast, hDash,
    readPart_padded hMonth hMonth' (by decide), readPart_padded hDay (Nat.le_trans hDay' hDays) (by
      decide), hLetter,
    readPart_padded (Nat.zero_le _) (Nat.le_of_lt_succ hHour) (by decide), hColon,
    readPart_padded (Nat.zero_le _) (Nat.le_of_lt_succ hMinute) (by decide),
    readPart_padded (Nat.zero_le _) hSecond (by decide), hFraction, hOffset]
  exact ofLocal_zero t

/-- Timestamps are read back. -/
lemma faithful : format.Faithful where
  read_write t := by
    simp only [format, Format.scalar, ofChars_text]
  isNull_write _ := rfl

end Timestamp

end IamReconciler
