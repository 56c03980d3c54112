import IamReconciler.Json.Basic

/-!
# Printing JSON

The compact text of a value: no space between tokens, the fields of an object in the order of their
names.  Inside a string the quote, the backslash and the controls are escaped and every other
character stands for itself.
-/

namespace IamReconciler

namespace Json

/-- Four hexadecimal digits. -/
def fourHex (n : Nat) : String :=
  String.ofList ((List.range 4).map fun i => Nat.digitChar (n / Nat.pow 16 (3 - i) % 16))

/-- One character inside a string. -/
def escapeChar (c : Char) : String :=
  match c with
  | '"' => "\\\""
  | '\\' => "\\\\"
  | '\n' => "\\n"
  | '\t' => "\\t"
  | '\r' => "\\r"
  | '\x08' => "\\b"
  | '\x0c' => "\\f"
  | c => if c.toNat < 0x20 then "\\u" ++ fourHex c.toNat else c.toString

/-- The output followed by a string. -/
def printString (out : String) (s : String) : String :=
  (s.toList.foldl (fun out c => out ++ escapeChar c) (out.push '"')).push '"'

mutual

/-- The output followed by the compact text of a value. -/
def print (out : String) : Json → String
  | .null => out ++ "null"
  | .bool b => out ++ (if b then "true" else "false")
  | .int i => out ++ toString i
  | .double x => out ++ x.text
  | .str s => printString out s
  | .arr items => (printItems (out.push '[') true items).push ']'
  | .obj fields => (printFields (out.push (Char.ofNat 0x7B)) true fields).push (Char.ofNat 0x7D)
termination_by structural json => json

/-- The output followed by the items of a list, separated by commas. -/
def printItems (out : String) (first : Bool) : List Json → String
  | [] => out
  | item :: rest => printItems (print (if first then out else out.push ',') item) false rest
termination_by structural items => items

/-- The output followed by the fields of an object, separated by commas. -/
def printFields (out : String) (first : Bool) : List (String × Json) → String
  | [] => out
  | entry :: rest => printFields (printField (if first then out else out.push ',') entry) false rest
termination_by structural fields => fields

/-- The output followed by one field. -/
def printField (out : String) : String × Json → String
  | (name, value) => print ((printString out name).push ':') value
termination_by structural field => field

end

/-- The compact text of a value. -/
def compact (json : Json) : String :=
  print "" json

end Json

end IamReconciler
