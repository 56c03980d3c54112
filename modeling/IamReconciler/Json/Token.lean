import IamReconciler.Json.Cursor

/-!
# Tokens

The words, numbers and strings of JSON.  Each is read in full when its value matters, and it is only
passed, with less scrutiny, when it does not: a number that is passed may be too great, and the
escapes of a string that is passed may spell halves of characters.

A number without point and exponent is an integer when it fits into 64 bits, the negative zero
excepted.  Any other number has double precision; of its digits those count that fit into an
unsigned integer of 64 bits.
-/

namespace IamReconciler

namespace Scan

/-! ## Words -/

/-- Passes the letters of a word. -/
def word : List Char → Scan Unit
  | [] => pure ()
  | letter :: letters => do
    match ← peek with
    | none => failHere .endInValue
    | some c =>
      if c = letter then
        skip
        word letters
      else failAhead .noWord

/-- Passes a word and gives what it stands for. -/
def wordFor (letters : List Char) (value : Json) : Scan Json := do
  word letters
  pure value

/-- Passes the word for null. -/
def nullWord : Scan Unit :=
  word ['n', 'u', 'l', 'l']

/-! ## Numbers -/

/-- The value of a digit. -/
def digitValue (c : Char) : Nat :=
  c.toNat - '0'.toNat

/-- Digits of a literal as far as they count: a significand, and how many digits before the point
were left out. -/
structure Significand where
  value : Nat
  omitted : Nat
  /-- The digits after the point that count. -/
  places : Nat

namespace Significand

/-- The value with one more digit fits into 64 bits. -/
def takes (s : Significand) (c : Char) : Bool :=
  s.value * 10 + digitValue c < Nat.pow 2 64

/-- The significand with the digits before the point; after a digit that does not count none
does. -/
def pushWhole (s : Significand) (c : Char) : Significand :=
  if s.omitted = 0 ∧ s.takes c then { s with value := s.value * 10 + digitValue c }
  else { s with omitted := s.omitted + 1 }

/-- The significand with the digits after the point; after a digit that does not count none does. -/
def pushPlaces (s : Significand) : List Char → Significand
  | [] => s
  | c :: cs =>
    if s.takes c then
      pushPlaces { s with value := s.value * 10 + digitValue c, places := s.places + 1 } cs
    else s

/-- The exponent of ten of the last digit that counts. -/
def exponent (s : Significand) : Int :=
  (s.omitted : Int) - s.places

end Significand

/-- The number of a significand and an exponent. -/
def double (negative : Bool) (s : Significand) (exponent : Int) : Scan Json :=
  match Double.ofParts? negative s.value exponent with
  | some x => pure (.double x)
  | none => failHere .hugeNumber

/-- The greatest exponent that is taken at its value. -/
def maxExponent : Nat := Nat.pow 2 31 - 1

/-- How many digits make an exponent exceed the greatest one, if they do. -/
def exceedsAfter? (value passed : Nat) : List Char → Option Nat
  | [] => none
  | c :: cs =>
    let value := value * 10 + digitValue c
    if maxExponent < value then some (passed + 1) else exceedsAfter? value (passed + 1) cs

/-- Passes the sign of an exponent and tells whether it is a minus. -/
def exponentSign : Scan Bool := do
  match ← peek with
  | some '-' =>
    skip
    pure true
  | some '+' =>
    skip
    pure false
  | _ => pure false

/-- A number from its exponent on. -/
def fromExponent (negative : Bool) (s : Significand) : Scan Json := do
  skip
  let negativeExponent ← exponentSign
  let start ← get
  match start.rest.head? with
  | none => failHere .endInValue
  | some c =>
    if !c.isDigit then failAhead .badNumber
    else
      let places ← digits
      match exceedsAfter? 0 0 places with
      | some passed =>
        if s.value ≠ 0 ∧ !negativeExponent then failAt .hugeNumber (start.offset + passed)
        else pure (.double (Double.zero negative))
      | none =>
        let n : Int := places.foldl (fun n c => n * 10 + digitValue c) 0
        double negative s (if negativeExponent then s.exponent - n else s.exponent + n)

/-- A number after the digits before and after its point. -/
def fromDigits (negative : Bool) (s : Significand) : Scan Json := do
  match ← peek with
  | some 'e' => fromExponent negative s
  | some 'E' => fromExponent negative s
  | _ => double negative s s.exponent

/-- A number from its point on. -/
def fromPoint (negative : Bool) (s : Significand) : Scan Json := do
  skip
  let places ← digits
  if places.isEmpty then
    if (← peek).isSome then failAhead .badNumber else failHere .endInValue
  else fromDigits negative (s.pushPlaces places)

/-- Whether an integer fits into 64 bits, signed or unsigned. -/
def fitsWord (i : Int) : Bool :=
  -((Nat.pow 2 63 : Nat) : Int) ≤ i && i < (Nat.pow 2 64 : Nat)

/-- The number of digits without point and exponent. -/
def whole (negative : Bool) (s : Significand) : Scan Json :=
  let i : Int := if negative then -(s.value : Int) else s.value
  if s.omitted ≠ 0 then double negative s s.omitted
  else if fitsWord i ∧ ¬(negative ∧ s.value = 0) then pure (.int i)
  else pure (.double (Double.ofNat negative s.value))

/-- Passes the digits before the point, of which a zero can only be the first when it is the only
one. -/
def wholeDigits : Scan (List Char) := do
  match ← peek with
  | none => failHere .endInValue
  | some '0' =>
    skip
    if (← peek).any Char.isDigit then failAhead .badNumber else pure ['0']
  | some c => if c.isDigit then digits else failAhead .badNumber

/-- A number after its sign. -/
def number (negative : Bool) : Scan Json := do
  let s := (← wholeDigits).foldl Significand.pushWhole ⟨0, 0, 0⟩
  match ← peek with
  | some '.' => fromPoint negative s
  | some 'e' => fromExponent negative s
  | some 'E' => fromExponent negative s
  | _ => whole negative s

/-- Fails at the character to come or, in the same words, at the end of the text. -/
def needDigit : Scan Unit := do
  if !(← peek).any Char.isDigit then failAhead .badNumber

/-- Passes an exponent. -/
def passExponent : Scan Unit := do
  skip
  let _ ← exponentSign
  needDigit
  let _ ← digits

/-- Passes an exponent, if there is one. -/
def passAnyExponent : Scan Unit := do
  match ← peek with
  | some 'e' => passExponent
  | some 'E' => passExponent
  | _ => pure ()

/-- Passes a number after its sign. -/
def passNumber : Scan Unit := do
  needDigit
  let _ ← wholeDigits
  match ← peek with
  | some '.' =>
    skip
    needDigit
    let _ ← digits
    passAnyExponent
  | _ => passAnyExponent

/-! ## Strings -/

/-- The value of a hexadecimal digit. -/
def hexValue? (c : Char) : Option Nat :=
  if '0' ≤ c ∧ c ≤ '9' then some (c.toNat - '0'.toNat)
  else if 'a' ≤ c ∧ c ≤ 'f' then some (c.toNat - 'a'.toNat + 10)
  else if 'A' ≤ c ∧ c ≤ 'F' then some (c.toNat - 'A'.toNat + 10)
  else none

/-- The number that four hexadecimal digits denote. -/
def fourHexValue? (a b c d : Char) : Option Nat := do
  let a ← hexValue? a
  let b ← hexValue? b
  let c ← hexValue? c
  let d ← hexValue? d
  some (((a * 16 + b) * 16 + c) * 16 + d)

/-- A letter after a backslash. -/
def escapeLetter? : Char → Option Char
  | '"' => some '"'
  | '\\' => some '\\'
  | '/' => some '/'
  | 'b' => some '\x08'
  | 'f' => some '\x0c'
  | 'n' => some '\n'
  | 'r' => some '\r'
  | 't' => some '\t'
  | _ => none

/-- A number spells the first half of a character. -/
def isFirstHalf (n : Nat) : Bool :=
  0xD800 ≤ n && n < 0xDC00

/-- A number spells the second half of a character. -/
def isSecondHalf (n : Nat) : Bool :=
  0xDC00 ≤ n && n < 0xE000

/-- The character of two halves. -/
def joinHalves (n m : Nat) : Char :=
  Char.ofNat (0x10000 + (n - 0xD800) * 0x400 + (m - 0xDC00))

/-- The octets of characters. -/
def octetCount (cs : List Char) : Nat :=
  cs.foldl (fun n c => n + c.utf8Size) 0

/-- A fault of a string with its place. -/
abbrev StringFault := SyntaxFault × Nat

/-- What is wrong with fewer than four characters where four hexadecimal digits have to be. -/
def shortHexFault (offset : Nat) (rest : List Char) : StringFault :=
  if octetCount rest < 4 then (.endInString, offset + octetCount rest) else (.badEscape, offset + 4)

/-- What is wrong with the characters after the first half of a character, which spell no second
half. -/
def otherHalfFault (offset : Nat) : List Char → StringFault
  | [] => (.endInString, offset)
  | ['\\'] => (.endInString, offset + 1)
  | '\\' :: 'u' :: rest => shortHexFault (offset + 2) rest
  | '\\' :: _ => (.noOtherHalf, offset + 2)
  | _ => (.noOtherHalf, offset + 1)

/-- The characters of a string up to its closing quote, in reverse, and what follows the quote with
its place.  The first argument holds the characters before, the second one counts the octets that
were passed. -/
def stringChars (read : List Char) (offset : Nat) :
    List Char → Except StringFault (List Char × List Char × Nat)
  | [] => .error (.endInString, offset)
  | '"' :: rest => .ok (read, rest, offset + 1)
  | '\\' :: 'u' :: a :: b :: c :: d :: rest =>
    match fourHexValue? a b c d with
    | none => .error (.badEscape, offset + 6)
    | some n =>
      if isSecondHalf n then .error (.loneHalf, offset + 6)
      else if isFirstHalf n then
        match rest with
        | '\\' :: 'u' :: a :: b :: c :: d :: rest =>
          match fourHexValue? a b c d with
          | none => .error (.badEscape, offset + 12)
          | some m =>
            if isSecondHalf m then stringChars (joinHalves n m :: read) (offset + 12) rest
            else .error (.loneHalf, offset + 12)
        | rest => .error (otherHalfFault (offset + 6) rest)
      else stringChars (Char.ofNat n :: read) (offset + 6) rest
  | '\\' :: 'u' :: rest => .error (shortHexFault (offset + 2) rest)
  | ['\\'] => .error (.endInString, offset + 1)
  | '\\' :: c :: rest =>
    match escapeLetter? c with
    | none => .error (.badEscape, offset + 2)
    | some c => stringChars (c :: read) (offset + 2) rest
  | c :: rest =>
    if c.toNat < 0x20 then .error (.control, offset + 1)
    else stringChars (c :: read) (offset + c.utf8Size) rest

/-- What follows the closing quote of a string with its place; the argument counts the octets that
were passed. -/
def afterString (offset : Nat) : List Char → Except StringFault (List Char × Nat)
  | [] => .error (.endInString, offset)
  | '"' :: rest => .ok (rest, offset + 1)
  | '\\' :: 'u' :: a :: b :: c :: d :: rest =>
    match fourHexValue? a b c d with
    | none => .error (.badEscape, offset + 6)
    | some _ => afterString (offset + 6) rest
  | '\\' :: 'u' :: rest => .error (shortHexFault (offset + 2) rest)
  | ['\\'] => .error (.endInString, offset + 1)
  | '\\' :: c :: rest =>
    match escapeLetter? c with
    | none => .error (.badEscape, offset + 2)
    | some _ => afterString (offset + 2) rest
  | c :: rest =>
    if c.toNat < 0x20 then .error (.control, offset) else afterString (offset + c.utf8Size) rest

/-- A string after its opening quote. -/
def stringText : Scan String := do
  let c ← get
  match stringChars [] c.offset c.rest with
  | .error (fault, place) => failAt fault place
  | .ok (read, rest, offset) =>
    set { c with rest, offset }
    pure (String.ofList read.reverse)

/-- Passes a string after its opening quote. -/
def passString : Scan Unit := do
  let c ← get
  match afterString c.offset c.rest with
  | .error (fault, place) => failAt fault place
  | .ok (rest, offset) => set { c with rest, offset }

end Scan

end IamReconciler
