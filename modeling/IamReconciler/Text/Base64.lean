import IamReconciler.Text.Utf8

/-!
# Base64

The standard alphabet with padding: four symbols spell three octets, and the last group may end in
one or two padding symbols.  The bits that padding leaves over must be zero.

Symbols are octets.  The last group is looked at apart from the others, in which padding is a wrong
symbol.  Of a text that has one symbol too many, that symbol is looked at before all others.
-/

namespace IamReconciler.Text

/-- Why octets are no base64. -/
inductive Base64Fault where
  /-- A symbol is not in the alphabet, or padding stands where none may stand. -/
  | symbol (octet offset : Nat)
  /-- The last symbol leaves bits over that are not zero. -/
  | lastSymbol (octet offset : Nat)
  /-- A last group has one symbol alone. -/
  | length (n : Nat)
  /-- Padding is missing. -/
  | padding
  deriving DecidableEq, Repr

/-- What a base64 fault says. -/
def Base64Fault.message : Base64Fault → String
  | .symbol octet offset =>
      "Invalid symbol " ++ toString octet ++ ", offset " ++ toString offset ++ "."
  | .lastSymbol octet offset =>
      "Invalid last symbol " ++ toString octet ++ ", offset " ++ toString offset ++ "."
  | .length n => "Invalid input length: " ++ toString n
  | .padding => "Invalid padding"

/-- The octet of the padding symbol. -/
def paddingOctet : Nat := 0x3D

/-- The six bits that a symbol of the alphabet stands for. -/
def sixBits? (b : Nat) : Option Nat :=
  if 0x41 ≤ b ∧ b ≤ 0x5A then some (b - 0x41)
  else if 0x61 ≤ b ∧ b ≤ 0x7A then some (b - 0x61 + 26)
  else if 0x30 ≤ b ∧ b ≤ 0x39 then some (b - 0x30 + 52)
  else if b = 0x2B then some 62
  else if b = 0x2F then some 63
  else none

/-- The six bits of the symbol at an offset. -/
def sixBits (offset b : Nat) : Except Base64Fault Nat :=
  match sixBits? b with
  | some x => .ok x
  | none => .error (.symbol b offset)

/-- The octets that four groups of six bits spell. -/
def threeOctets (x y z w : Nat) : List Nat :=
  [x * 4 + y / 16, y % 16 * 16 + z / 4, z % 4 * 64 + w]

/-- The six bits of each symbol of the last group from symbol number `i` on, before its padding, and
how much padding there is; `offset` is the offset of the group, and `padding` counts the padding so
far. -/
def lastBits (offset i padding : Nat) : List Nat → Except Base64Fault (List Nat × Nat)
  | [] => .ok ([], padding)
  | b :: bs =>
    if b = paddingOctet then
      if i < 2 then .error (.symbol b (offset + i)) else lastBits offset (i + 1) (padding + 1) bs
    else if 0 < padding then .error (.symbol paddingOctet (offset + i - padding))
    else do
      let x ← sixBits (offset + i) b
      let (bits, padding) ← lastBits offset (i + 1) padding bs
      .ok (x :: bits, padding)

/-- The octets of the last group, which has at most four symbols and begins at an offset. -/
def lastOctets (offset : Nat) (group : List Nat) : Except Base64Fault (List Nat) := do
  let (bits, padding) ← lastBits offset 0 0 group
  let lastOctet := group.getD (bits.length - 1) 0
  match bits with
  | [] => .ok []
  | [_] => .error (.length (offset + 1))
  | [x, y] =>
    if padding ≠ 2 then .error .padding
    else if y % 16 ≠ 0 then .error (.lastSymbol lastOctet (offset + 1))
    else .ok ((threeOctets x y 0 0).take 1)
  | [x, y, z] =>
    if padding ≠ 1 then .error .padding
    else if z % 4 ≠ 0 then .error (.lastSymbol lastOctet (offset + 2))
    else .ok ((threeOctets x y z 0).take 2)
  | x :: y :: z :: w :: _ => .ok (threeOctets x y z w)

/-- The octets that symbols spell from an offset on. -/
def groupOctets (offset : Nat) : List Nat → Except Base64Fault (List Nat)
  | a :: b :: c :: d :: e :: rest => do
    let x ← sixBits offset a
    let y ← sixBits (offset + 1) b
    let z ← sixBits (offset + 2) c
    let w ← sixBits (offset + 3) d
    let more ← groupOctets (offset + 4) (e :: rest)
    .ok (threeOctets x y z w ++ more)
  | group => lastOctets offset group

/-- What is wrong with the last symbol when it is one too many. -/
def strayFault? (symbols : List Nat) : Option Base64Fault :=
  match symbols.getLast? with
  | some b =>
    if symbols.length % 4 = 1 ∧ b ≠ paddingOctet ∧ (sixBits? b).isNone then
      some (.symbol b (symbols.length - 1))
    else none
  | none => none

/-- The octets that a base64 text spells. -/
def decodeBase64 (s : String) : Except Base64Fault (List Nat) :=
  let symbols := encodeUtf8 s
  match strayFault? symbols with
  | some fault => .error fault
  | none => groupOctets 0 symbols

end IamReconciler.Text
