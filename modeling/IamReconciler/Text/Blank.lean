/-!
# Blank text

White space in the sense of the Unicode property `White_Space`, and the two operations that rest on
it: `trim` removes white space from both ends of a text, and `isBlank` asks whether anything is
left.

A text is blank exactly when all of its characters are white space (`isBlank_iff`).
-/

namespace IamReconciler.Text

/-- The code points with the Unicode property `White_Space`, as ranges. -/
def blankRanges : List (Nat × Nat) :=
  [(0x9, 0xD), (0x20, 0x20), (0x85, 0x85), (0xA0, 0xA0), (0x1680, 0x1680), (0x2000, 0x200A),
    (0x2028, 0x2029), (0x202F, 0x202F), (0x205F, 0x205F), (0x3000, 0x3000)]

/-- A character is white space when its code point lies in one of the blank ranges. -/
def isBlankChar (c : Char) : Bool :=
  blankRanges.any fun range => range.1 ≤ c.toNat && c.toNat ≤ range.2

/-- The characters without the white space at either end. -/
def trimChars (cs : List Char) : List Char :=
  ((cs.dropWhile isBlankChar).reverse.dropWhile isBlankChar).reverse

/-- The text without the white space at either end. -/
def trim (s : String) : String :=
  String.ofList (trimChars s.toList)

/-- A text is blank when trimming leaves nothing. -/
def isBlank (s : String) : Bool :=
  (trim s).isEmpty

/-- The trimmed text, unless the text is blank. -/
def nonBlank? (s : String) : Option String :=
  if isBlank s then none else some (trim s)

/-! ## Elementary facts -/

/-- Dropping a class from the front leaves nothing exactly when every element is in the class. -/
theorem dropWhile_eq_nil_iff {α : Type} (p : α → Bool) (l : List α) :
    l.dropWhile p = [] ↔ ∀ a ∈ l, p a = true := by
  induction l with
  | nil => simp
  | cons a l ih =>
    by_cases h : p a = true
    · simp [h, ih]
    · simp [h]

/-- Trimming leaves nothing exactly when every character is white space. -/
theorem trimChars_eq_nil_iff (cs : List Char) :
    trimChars cs = [] ↔ ∀ c ∈ cs, isBlankChar c = true := by
  constructor
  · intro h
    have h' : (cs.dropWhile isBlankChar).reverse.dropWhile isBlankChar = [] := by
      simpa [trimChars] using h
    have hAll : ∀ c ∈ cs.dropWhile isBlankChar, isBlankChar c = true := by
      simpa using (dropWhile_eq_nil_iff _ _).1 h'
    have hNil : cs.dropWhile isBlankChar = [] := by
      cases hd : cs.dropWhile isBlankChar with
      | nil => rfl
      | cons c rest =>
        have hHead : isBlankChar c = true := hAll c (by simp [hd])
        have hNot : ¬ isBlankChar c = true := by
          have := List.head?_dropWhile_not isBlankChar cs
          simp [hd] at this
          simp [this]
        exact absurd hHead hNot
    exact (dropWhile_eq_nil_iff _ _).1 hNil
  · intro h
    have : cs.dropWhile isBlankChar = [] := (dropWhile_eq_nil_iff _ _).2 h
    simp [trimChars, this]

/-- A text is blank exactly when all of its characters are white space. -/
theorem isBlank_iff (s : String) : isBlank s = true ↔ ∀ c ∈ s.toList, isBlankChar c = true := by
  rw [← trimChars_eq_nil_iff]
  simp [isBlank, trim]

end IamReconciler.Text
