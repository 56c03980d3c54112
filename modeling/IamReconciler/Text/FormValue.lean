import IamReconciler.Text.Utf8

/-!
# Values in form-encoded queries

A value in a query keeps ASCII letters, digits and the marks `*`, `-`, `.` and `_`; the space
becomes a plus sign, and every other octet of the text's UTF-8 form is written as a percent sign and
two upper-case digits.
-/

namespace IamReconciler.Text

/-- An octet that a form value keeps as it is. -/
def isFormOctet (b : Nat) : Bool :=
  (0x30 ≤ b && b ≤ 0x39) || (0x41 ≤ b && b ≤ 0x5A) || (0x61 ≤ b && b ≤ 0x7A) ||
    b == 0x2A || b == 0x2D || b == 0x2E || b == 0x5F

/-- An upper-case hexadecimal digit. -/
def upperHexDigit (n : Nat) : Char :=
  if n < 10 then Char.ofNat ('0'.toNat + n) else Char.ofNat ('A'.toNat + (n - 10))

/-- One octet as a form value writes it. -/
def formOctet (b : Nat) : List Char :=
  if b == 0x20 then ['+']
  else if isFormOctet b then [Char.ofNat b]
  else ['%', upperHexDigit (b / 16), upperHexDigit (b % 16)]

/-- The text as a form value. -/
def formValue (s : String) : String :=
  String.ofList ((encodeUtf8 s).flatMap formOctet)

end IamReconciler.Text
