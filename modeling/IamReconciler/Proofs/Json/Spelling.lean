import Mathlib.Tactic.Lemma
import IamReconciler.Json.Printer
import IamReconciler.Json.Token

/-!
# Spellings

The compact text of a value, character by character (`Json.toList_compact`).  Printing appends to
what was printed before; here the characters of a value stand alone, so that what reads them can be
followed from one token to the next.

A value fits when its text gives all of it back: its numbers are whole and have at most 64 bits, it
is not nested too deeply, and the fields of its objects stand in the order of their names.  A number
of double precision does not fit, since its text is read as a number that need not be the nearest.
-/

namespace IamReconciler

namespace Json

/-! ## Characters -/

/-- The characters between the quotes of a string. -/
def spellChars (cs : List Char) : List Char :=
  cs.flatMap fun c => (escapeChar c).toList

/-- The characters of a string with its quotes. -/
def spellString (s : String) : List Char :=
  '"' :: spellChars s.toList ++ ['"']

/-- What stands before an item or a field: a comma, unless it is the first. -/
def separator (first : Bool) : List Char :=
  if first then [] else [',']

mutual

/-- The characters of the compact text of a value. -/
def spell : Json → List Char
  | .null => ['n', 'u', 'l', 'l']
  | .bool true => ['t', 'r', 'u', 'e']
  | .bool false => ['f', 'a', 'l', 's', 'e']
  | .int i => (toString i).toList
  | .double x => x.text.toList
  | .str s => spellString s
  | .arr items => '[' :: spellItems true items ++ [']']
  | .obj fields => '\x7b' :: spellFields true fields ++ ['\x7d']
termination_by structural json => json

/-- The characters of the items of a list. -/
def spellItems (first : Bool) : List Json → List Char
  | [] => []
  | item :: rest => separator first ++ spell item ++ spellItems false rest
termination_by structural items => items

/-- The characters of the fields of an object. -/
def spellFields (first : Bool) : List (String × Json) → List Char
  | [] => []
  | field :: rest => separator first ++ spellField field ++ spellFields false rest
termination_by structural fields => fields

/-- The characters of a field. -/
def spellField : String × Json → List Char
  | (name, value) => spellString name ++ ':' :: spell value
termination_by structural field => field

end

/-- A printed string is added to the output. -/
lemma toList_printString (out s : String) :
    (printString out s).toList = out.toList ++ spellString s := by
  have hEscaped (cs : List Char) (before : String) :
      (cs.foldl (fun out c => out ++ escapeChar c) before).toList =
        before.toList ++ spellChars cs := by
    induction cs generalizing before with
    | nil => exact (List.append_nil _).symm
    | cons c cs ih =>
      rw [List.foldl_cons, ih, String.toList_append, List.append_assoc]
      rfl
  simp only [printString, spellString, String.toList_push, hEscaped, List.append_assoc,
    List.cons_append, List.nil_append]

/-- A string before other characters. -/
lemma spellString_append (s : String) (rest : List Char) :
    spellString s ++ rest = '"' :: (spellChars s.toList ++ '"' :: rest) := by
  rw [spellString, List.append_assoc]
  rfl

/-- The separator is added to the output. -/
lemma toList_separated (out : String) (first : Bool) :
    (if first then out else out.push ',').toList = out.toList ++ separator first := by
  cases first with
  | true => exact (List.append_nil _).symm
  | false => exact String.toList_push ..

mutual

/-- A printed value is added to the output. -/
lemma toList_print (out : String) :
    (json : Json) → (print out json).toList = out.toList ++ spell json
  | .null => String.toList_append
  | .bool true => String.toList_append
  | .bool false => String.toList_append
  | .int _ => String.toList_append
  | .double _ => String.toList_append
  | .str s => toList_printString out s
  | .arr items => by
    simp only [print, spell, String.toList_push, toList_printItems, List.append_assoc,
      List.cons_append, List.nil_append]
  | .obj fields => by
    have hOpen : Char.ofNat 0x7B = '\x7b' := rfl
    have hClose : Char.ofNat 0x7D = '\x7d' := rfl
    simp only [print, spell, String.toList_push, toList_printFields, List.append_assoc,
      List.cons_append, List.nil_append, hOpen, hClose]
termination_by structural json => json

/-- Printed items are added to the output. -/
lemma toList_printItems (out : String) (first : Bool) :
    (items : List Json) → (printItems out first items).toList = out.toList ++ spellItems first items
  | [] => (List.append_nil _).symm
  | item :: rest => by
    rw [printItems, toList_printItems, toList_print, toList_separated, spellItems]
    simp only [List.append_assoc]
termination_by structural items => items

/-- Printed fields are added to the output. -/
lemma toList_printFields (out : String) (first : Bool) :
    (fields : List (String × Json)) →
      (printFields out first fields).toList = out.toList ++ spellFields first fields
  | [] => (List.append_nil _).symm
  | field :: rest => by
    rw [printFields, toList_printFields, toList_printField, toList_separated, spellFields]
    simp only [List.append_assoc]
termination_by structural fields => fields

/-- A printed field is added to the output. -/
lemma toList_printField (out : String) :
    (field : String × Json) → (printField out field).toList = out.toList ++ spellField field
  | (name, value) => by
    rw [printField, toList_print, String.toList_push, toList_printString, spellField]
    simp only [List.append_assoc, List.cons_append, List.nil_append]
termination_by structural field => field

end

/-- The compact text of a value consists of its characters. -/
theorem toList_compact (json : Json) : json.compact.toList = json.spell :=
  toList_print "" json

/-- A list before other characters. -/
lemma spell_arr_append (items : List Json) (rest : List Char) :
    spell (.arr items) ++ rest = '[' :: (spellItems true items ++ ']' :: rest) := by
  rw [spell, List.append_assoc]
  rfl

/-- An object before other characters. -/
lemma spell_obj_append (fields : List (String × Json)) (rest : List Char) :
    spell (.obj fields) ++ rest = '\x7b' :: (spellFields true fields ++ '\x7d' :: rest) := by
  rw [spell, List.append_assoc]
  rfl

/-- The items of a list from the first one on. -/
lemma spellItems_true (item : Json) (items : List Json) :
    spellItems true (item :: items) = spell item ++ spellItems false items := rfl

/-- The items of a list from a later one on. -/
lemma spellItems_false (item : Json) (items : List Json) :
    spellItems false (item :: items) = ',' :: spellItems true (item :: items) := rfl

/-- The fields of an object from the first one on. -/
lemma spellFields_true (name : String) (value : Json) (fields : List (String × Json)) :
    spellFields true ((name, value) :: fields) = '"' :: (spellChars name.toList ++
      '"' :: ':' :: (spell value ++ spellFields false fields)) := by
  simp only [spellFields, spellField, separator, if_true, List.nil_append, List.append_assoc,
    spellString_append, List.cons_append]

/-- The fields of an object from a later one on. -/
lemma spellFields_false (field : String × Json) (fields : List (String × Json)) :
    spellFields false (field :: fields) = ',' :: spellFields true (field :: fields) := rfl

/-- The brackets of a list are two characters. -/
lemma length_spell_arr (items : List Json) :
    (spell (.arr items)).length = (spellItems true items).length + 2 := by
  simp only [spell, List.cons_append, List.length_cons, List.length_append, List.length_nil]

/-- The brackets of an object are two characters. -/
lemma length_spell_obj (fields : List (String × Json)) :
    (spell (.obj fields)).length = (spellFields true fields).length + 2 := by
  simp only [spell, List.cons_append, List.length_cons, List.length_append, List.length_nil]

/-- Fields of an object before other characters. -/
lemma spellFields_append (first : Bool) (name : String) (value : Json)
    (fields : List (String × Json)) (rest : List Char) :
    spellFields first ((name, value) :: fields) ++ rest = separator first ++ (spellString name ++
      ':' :: (spell value ++ (spellFields false fields ++ rest))) := by
  simp only [spellFields, spellField, List.append_assoc, List.cons_append]

/-! ## Values that fit -/

/-- The text of a value, which has at most so many levels of lists and objects, gives all of it
back. -/
inductive Fits : Nat → Json → Prop where
  | null {n : Nat} : Fits n .null
  | bool {n : Nat} (b : Bool) : Fits n (.bool b)
  | int {n : Nat} {i : Int} (h : Scan.fitsWord i) : Fits n (.int i)
  | str {n : Nat} (s : String) : Fits n (.str s)
  | arr {n : Nat} {items : List Json} (h : ∀ item ∈ items, Fits n item) : Fits (n + 1) (.arr items)
  | obj {n : Nat} {fields : List (String × Json)} (hSorted : Entries.Sorted fields)
      (h : ∀ field ∈ fields, Fits n field.2) : Fits (n + 1) (.obj fields)

/-- How many levels of lists and objects a text may have. -/
def maxLevels : Nat :=
  Cursor.maxDepth - 1

/-- The digits of a number begin with a zero only when it is zero. -/
lemma exists_toDigits_eq_cons (m : Nat) :
    ∃ c cs, Nat.toDigits 10 m = c :: cs ∧ c.isDigit ∧ (c = '0' → m = 0) := by
  induction m using Nat.strongRecOn with
  | ind m ih =>
    by_cases hLess : m < 10
    · have hDigit : ∀ m < 10, (Nat.digitChar m).isDigit ∧ (Nat.digitChar m = '0' → m = 0) := by
        decide
      exact ⟨_, _, Nat.toDigits_of_lt_base hLess, hDigit m hLess⟩
    · obtain ⟨c, cs, hHead, hDigit, hZero⟩ := ih (m / 10) (by omega)
      refine ⟨c, cs ++ [(m % 10).digitChar], ?_, hDigit, fun hEq => ?_⟩
      · rw [Nat.toDigits_of_base_le (by decide) (by omega), hHead, List.cons_append]
      · have := hZero hEq
        omega

/-- A natural number is spelled by its digits. -/
lemma spell_ofNat (m : Nat) : spell (.int (.ofNat m)) = Nat.toDigits 10 m := by
  change (Nat.repr m).toList = _
  rw [Nat.repr_eq_ofList_toDigits, String.toList_ofList]

/-- A negative number is spelled by a minus and the digits of its absolute value. -/
lemma spell_negSucc (m : Nat) : spell (.int (.negSucc m)) = '-' :: Nat.toDigits 10 (m + 1) := by
  change ("-" ++ Nat.repr (m + 1)).toList = _
  rw [String.toList_append, Nat.repr_eq_ofList_toDigits]
  exact congrArg ('-' :: ·) String.toList_ofList

/-- A digit is no character that is not one. -/
lemma ne_of_isDigit {c d : Char} (hDigit : c.isDigit) (hOther : d.isDigit = false) : c ≠ d := by
  rintro rfl
  rw [hDigit] at hOther
  cases hOther

/-- A digit is no space. -/
lemma isSpace_of_isDigit {c : Char} (hDigit : c.isDigit) : Scan.isSpace c = false := by
  simp only [Scan.isSpace, Bool.or_eq_false_iff, decide_eq_false_iff_not]
  exact ⟨⟨⟨ne_of_isDigit hDigit rfl, ne_of_isDigit hDigit rfl⟩, ne_of_isDigit hDigit rfl⟩,
    ne_of_isDigit hDigit rfl⟩

/-- The first character of a value that fits. -/
inductive Starts : Json → Char → Prop where
  | null : Starts .null 'n'
  | yes : Starts (.bool true) 't'
  | no : Starts (.bool false) 'f'
  | digit {i : Int} {c : Char} (hDigit : c.isDigit) : Starts (.int i) c
  | minus (i : Int) : Starts (.int i) '-'
  | str (s : String) : Starts (.str s) '"'
  | arr (items : List Json) : Starts (.arr items) '['
  | obj (fields : List (String × Json)) : Starts (.obj fields) '\x7b'

/-- A value that fits has a first character. -/
lemma Fits.exists_starts {n : Nat} {json : Json} (h : json.Fits n) :
    ∃ c cs, json.spell = c :: cs ∧ json.Starts c := by
  cases h with
  | null => exact ⟨_, _, rfl, .null⟩
  | bool b =>
    cases b with
    | true => exact ⟨_, _, rfl, .yes⟩
    | false => exact ⟨_, _, rfl, .no⟩
  | @int _ i _ =>
    cases i with
    | ofNat m =>
      obtain ⟨c, cs, hDigits, hDigit, -⟩ := exists_toDigits_eq_cons m
      exact ⟨c, cs, (spell_ofNat m).trans hDigits, .digit hDigit⟩
    | negSucc m => exact ⟨_, _, spell_negSucc m, .minus _⟩
  | str s => exact ⟨_, _, rfl, .str s⟩
  | arr _ => exact ⟨_, _, rfl, .arr _⟩
  | obj _ _ => exact ⟨_, _, rfl, .obj _⟩

namespace Starts

variable {json : Json} {c : Char}

/-- No value starts with space. -/
lemma isSpace_eq_false (h : json.Starts c) : Scan.isSpace c = false := by
  cases h with
  | digit hDigit => exact isSpace_of_isDigit hDigit
  | null | yes | no | minus | str | arr | obj => rfl

/-- No value starts with the end of a list. -/
lemma ne_endList (h : json.Starts c) : c ≠ ']' := by
  cases h with
  | digit hDigit => exact ne_of_isDigit hDigit rfl
  | null | yes | no | minus | str | arr | obj => decide

/-- Only null starts with its first letter. -/
lemma eq_null (h : json.Starts 'n') : json = .null := by
  cases h with
  | null => rfl
  | digit hDigit => cases hDigit

/-- What is neither a list nor an object starts with no bracket. -/
lemma ne_bracket (h : json.Starts c) (hFits : json.Fits 0) : c ≠ '[' ∧ c ≠ '\x7b' := by
  cases h with
  | digit hDigit => exact ⟨ne_of_isDigit hDigit rfl, ne_of_isDigit hDigit rfl⟩
  | null | yes | no | minus | str => decide
  | arr | obj => cases hFits

end Starts

end Json

end IamReconciler
