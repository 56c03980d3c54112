/-!
# Decoding UTF-8

Octets are read as characters from left to right.  At the first octets that begin no well-formed
character the reading stops with a fault that gives their position and, unless the octets simply end
too early, how many of them form the maximal ill-formed prefix.
-/

namespace IamReconciler.Text

/-- Where octets stop being UTF-8, and how many of them are wrong; `none` when more octets are
expected. -/
structure Utf8Fault where
  index : Nat
  length : Option Nat
  deriving DecidableEq, Repr

/-- What a UTF-8 fault says. -/
def Utf8Fault.message (fault : Utf8Fault) : String :=
  match fault.length with
  | some n =>
      "invalid utf-8 sequence of " ++ toString n ++ " bytes from index " ++ toString fault.index
  | none => "incomplete utf-8 byte sequence from index " ++ toString fault.index

/-- An octet that continues a character. -/
def isTail (b : Nat) : Bool :=
  0x80 ≤ b && b ≤ 0xBF

/-- The second octets that may follow the first octet of a character of three octets. -/
def isSecondOfThree (a b : Nat) : Bool :=
  if a == 0xE0 then 0xA0 ≤ b && b ≤ 0xBF
  else if a == 0xED then 0x80 ≤ b && b ≤ 0x9F
  else isTail b

/-- The second octets that may follow the first octet of a character of four octets. -/
def isSecondOfFour (a b : Nat) : Bool :=
  if a == 0xF0 then 0x90 ≤ b && b ≤ 0xBF
  else if a == 0xF4 then 0x80 ≤ b && b ≤ 0x8F
  else isTail b

/-- The characters that octets spell, counting positions from `index`. -/
def utf8Chars (index : Nat) : List Nat → Except Utf8Fault (List Char)
  | [] => .ok []
  | a :: rest =>
    if a < 0x80 then
      (utf8Chars (index + 1) rest).map (Char.ofNat a :: ·)
    else if a < 0xC2 then
      .error ⟨index, some 1⟩
    else if a < 0xE0 then
      match rest with
      | [] => .error ⟨index, none⟩
      | b :: rest =>
        if !isTail b then .error ⟨index, some 1⟩
        else (utf8Chars (index + 2) rest).map (Char.ofNat ((a - 0xC0) * 64 + (b - 0x80)) :: ·)
    else if a < 0xF0 then
      match rest with
      | [] => .error ⟨index, none⟩
      | b :: rest =>
        if !isSecondOfThree a b then .error ⟨index, some 1⟩
        else match rest with
        | [] => .error ⟨index, none⟩
        | c :: rest =>
          if !isTail c then .error ⟨index, some 2⟩
          else (utf8Chars (index + 3) rest).map
            (Char.ofNat (((a - 0xE0) * 64 + (b - 0x80)) * 64 + (c - 0x80)) :: ·)
    else if a < 0xF5 then
      match rest with
      | [] => .error ⟨index, none⟩
      | b :: rest =>
        if !isSecondOfFour a b then .error ⟨index, some 1⟩
        else match rest with
        | [] => .error ⟨index, none⟩
        | c :: rest =>
          if !isTail c then .error ⟨index, some 2⟩
          else match rest with
          | [] => .error ⟨index, none⟩
          | d :: rest =>
            if !isTail d then .error ⟨index, some 3⟩
            else
              let n := (((a - 0xF0) * 64 + (b - 0x80)) * 64 + (c - 0x80)) * 64 + (d - 0x80)
              (utf8Chars (index + 4) rest).map (Char.ofNat n :: ·)
    else
      .error ⟨index, some 1⟩

/-- The text that octets spell. -/
def decodeUtf8 (octets : List Nat) : Except Utf8Fault String :=
  (utf8Chars 0 octets).map String.ofList

/-- The octets of a character. -/
def utf8Octets (c : Char) : List Nat :=
  let n := c.toNat
  if n < 0x80 then [n]
  else if n < 0x800 then [0xC0 + n / 64, 0x80 + n % 64]
  else if n < 0x10000 then [0xE0 + n / 4096, 0x80 + n / 64 % 64, 0x80 + n % 64]
  else [0xF0 + n / 262144, 0x80 + n / 4096 % 64, 0x80 + n / 64 % 64, 0x80 + n % 64]

/-- The octets of a text. -/
def encodeUtf8 (s : String) : List Nat :=
  s.toList.flatMap utf8Octets

end IamReconciler.Text
