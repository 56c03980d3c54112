import IamReconciler.Json.Basic
import IamReconciler.Text.Quoted

/-!
# Faults

A text can fail to be what was asked for in two ways.  It may be no JSON, which is a fault of
syntax, or it may be a JSON value of another form, which is a fault of content.  A fault of content
names what was found and what was expected.
-/

namespace IamReconciler

/-! ## Faults of syntax -/

/-- Why a text is no JSON. -/
inductive SyntaxFault where
  /-- The text ends inside a list. -/
  | endInList
  /-- The text ends inside an object. -/
  | endInObject
  /-- The text ends inside a string. -/
  | endInString
  /-- The text ends where a value is still to come. -/
  | endInValue
  /-- No colon follows a name. -/
  | noColon
  /-- An item is followed by neither a comma nor the end of the list. -/
  | noListDelimiter
  /-- A field is followed by neither a comma nor the end of the object. -/
  | noObjectDelimiter
  /-- The letters are none of the words that stand for values. -/
  | noWord
  /-- A character begins no value. -/
  | noValue
  /-- A backslash is followed by no escape. -/
  | badEscape
  /-- The digits of a number are not in the form of one. -/
  | badNumber
  /-- A number is too great. -/
  | hugeNumber
  /-- A string holds a control. -/
  | control
  /-- A field has no name. -/
  | noName
  /-- An escape spells half a character where none may stand. -/
  | loneHalf
  /-- An escape spells half a character, and no escape follows. -/
  | noOtherHalf
  /-- A comma stands before the end of a list or an object. -/
  | trailingComma
  /-- Characters follow where nothing may follow. -/
  | trailing
  /-- Lists and objects are nested too deep. -/
  | tooDeep
  deriving DecidableEq, Repr, Inhabited

/-- What a fault of syntax says. -/
def SyntaxFault.message : SyntaxFault → String
  | .endInList => "EOF while parsing a list"
  | .endInObject => "EOF while parsing an object"
  | .endInString => "EOF while parsing a string"
  | .endInValue => "EOF while parsing a value"
  | .noColon => "expected `:`"
  | .noListDelimiter => "expected `,` or `]`"
  | .noObjectDelimiter => "expected `,` or `\x7d`"
  | .noWord => "expected ident"
  | .noValue => "expected value"
  | .badEscape => "invalid escape"
  | .badNumber => "invalid number"
  | .hugeNumber => "number out of range"
  | .control => "control character (\\u0000-\\u001F) found while parsing a string"
  | .noName => "key must be a string"
  | .loneHalf => "lone leading surrogate in hex escape"
  | .noOtherHalf => "unexpected end of hex escape"
  | .trailingComma => "trailing comma"
  | .trailing => "trailing characters"
  | .tooDeep => "recursion limit exceeded"

/-! ## Faults of content -/

/-- Why a JSON value is not the written form of a value. -/
inductive ReadFault where
  /-- The value has another form. -/
  | wrongType (found : Json) (expected : String)
  /-- The value has the right form and is still not allowed. -/
  | wrongValue (found expected : String)
  /-- A list has the wrong number of items. -/
  | wrongLength (length : Nat) (expected : String)
  /-- A required field is not given. -/
  | missing (field : String)
  /-- A field is given twice. -/
  | duplicate (field : String)
  /-- A name is none of the variants. -/
  | unknownVariant (found : String) (variants : List String)
  /-- The value breaks a rule of its own. -/
  | invalid (message : String)
  deriving Inhabited

/-- A JSON value as faults name it. -/
def Json.named : Json → String
  | .null => "null"
  | .bool b => "boolean `" ++ (if b then "true" else "false") ++ "`"
  | .int i => "integer `" ++ toString i ++ "`"
  | .double x => "floating point `" ++ x.text ++ "`"
  | .str s => "string " ++ Text.quote s
  | .arr _ => "sequence"
  | .obj _ => "map"

/-- A list of names as faults show it. -/
def backquoted (names : List String) : String :=
  ", ".intercalate (names.map fun name => "`" ++ name ++ "`")

/-- What a fault of content says. -/
def ReadFault.message : ReadFault → String
  | .wrongType found expected => "invalid type: " ++ found.named ++ ", expected " ++ expected
  | .wrongValue found expected => "invalid value: " ++ found ++ ", expected " ++ expected
  | .wrongLength n expected => "invalid length " ++ toString n ++ ", expected " ++ expected
  | .missing field => "missing field `" ++ field ++ "`"
  | .duplicate field => "duplicate field `" ++ field ++ "`"
  | .unknownVariant found variants =>
    "unknown variant `" ++ found ++ "`, expected one of " ++ backquoted variants
  | .invalid message => message

end IamReconciler
