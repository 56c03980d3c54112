/-!
# Counts

The decimal text of an unsigned 64-bit number: an optional plus sign and one or more ASCII digits.
Reading goes from left to right and stops at the first fault, so a text can be refused for a
character that is no digit or for a value that has grown too large, whichever is met first.
-/

namespace IamReconciler.Text

/-- The largest count. -/
def maxCount : Nat := Nat.pow 2 64 - 1

/-- Why a text is no count. -/
inductive CountFault where
  /-- There is no text at all. -/
  | empty
  /-- A character is not an ASCII digit, or there is a sign without digits. -/
  | notADigit
  /-- The digits exceed the largest count. -/
  | tooLarge
  deriving DecidableEq, Repr

/-- What a count fault says. -/
def CountFault.message : CountFault → String
  | .empty => "cannot parse integer from empty string"
  | .notADigit => "invalid digit found in string"
  | .tooLarge => "number too large to fit in target type"

/-- The value of an ASCII digit. -/
def digitValue? (c : Char) : Option Nat :=
  if '0' ≤ c ∧ c ≤ '9' then some (c.toNat - '0'.toNat) else none

/-- The value read so far followed by one more digit. -/
def pushDigit (value : Nat) (c : Char) : Except CountFault Nat :=
  match digitValue? c with
  | none => .error .notADigit
  | some d => if maxCount < value * 10 + d then .error .tooLarge else .ok (value * 10 + d)

/-- The value of a non-empty run of digits. -/
def digitsValue : List Char → Except CountFault Nat
  | [] => .error .notADigit
  | cs => cs.foldlM pushDigit 0

/-- The count that a text denotes. -/
def readCount (s : String) : Except CountFault Nat :=
  match s.toList with
  | [] => .error .empty
  | '+' :: digits => digitsValue digits
  | cs => digitsValue cs

end IamReconciler.Text
