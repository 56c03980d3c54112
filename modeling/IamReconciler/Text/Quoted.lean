import IamReconciler.Text.Printable

/-!
# Quoted text

The form in which a text is shown inside a message: between double quotes, with the quote and the
backslash escaped, the common controls by their letters, and every other character that is not shown
as it is by its code point in hexadecimal.
-/

namespace IamReconciler.Text

/-- The number in lower-case hexadecimal digits. -/
def hex (n : Nat) : String :=
  String.ofList (Nat.toDigits 16 n)

/-- One character as quoted text shows it. -/
def quoteChar (c : Char) : String :=
  match c with
  | '"' => "\\\""
  | '\\' => "\\\\"
  | '\n' => "\\n"
  | '\t' => "\\t"
  | '\r' => "\\r"
  | '\x00' => "\\0"
  | c => if isShown c then c.toString else "\\u\x7b" ++ hex c.toNat ++ "\x7d"

/-- The text between double quotes. -/
def quote (s : String) : String :=
  "\"" ++ String.join (s.toList.map quoteChar) ++ "\""

end IamReconciler.Text
