import IamReconciler.Json.Text

/-!
# Formats

A format says how the values of a type are written as JSON, how they are read back, and which schema
describes the written form.  Reading is strict: a value of another form is refused with a fault that
names what was found and what was expected.

A format reads in two ways.  `read` takes a JSON value apart.  `scan` takes the text of one as it
comes, so that of two faults the one that stands first in the text is reported, and with its place.
-/

namespace IamReconciler

/-- How the values of a type are written, read and described. -/
structure Format (α : Type) where
  write : α → Json
  read : Json → Except ReadFault α
  scan : Scan α
  schema : Json

namespace Scan

variable {α : Type}

/-- Reads a value that can be neither a list nor an object. -/
def scalar (read : Json → Except ReadFault α) : Scan α :=
  settle do
    let found ← glimpse
    ofRead (read found)

/-- Refuses the value to come. -/
def refuse (expected : String) : Scan α :=
  scalar fun found => .error (.wrongType found expected)

end Scan

namespace Format

variable {α : Type}

/-- The format of values that are neither lists nor objects. -/
def scalar (write : α → Json) (read : Json → Except ReadFault α) (schema : Json) : Format α where
  write := write
  read := read
  scan := .scalar read
  schema := schema

/-- Texts. -/
def text : Format String :=
  scalar .str
    (fun
      | .str s => .ok s
      | other => .error (.wrongType other "a string"))
    (.object [("type", .str "string")])

/-- Truth values. -/
def bool : Format Bool :=
  scalar .bool
    (fun
      | .bool b => .ok b
      | other => .error (.wrongType other "a boolean"))
    (.object [("type", .str "boolean")])

/-- Whole numbers that fit into 64 bits with a sign. -/
def int64 : Format Int :=
  scalar .int
    (fun
      | .int i =>
        if i < (Nat.pow 2 63 : Nat) then .ok i
        else .error (.wrongValue (Json.int i).named "i64")
      | other => .error (.wrongType other "i64"))
    (.object [("format", .str "int64"), ("type", .str "integer")])

/-- Values of any form. -/
def any : Format Json where
  write := id
  read := .ok
  scan := Scan.value
  schema := .object []

/-- Lists of values of one format. -/
def list (format : Format α) : Format (List α) where
  write values := .arr (values.map format.write)
  read
    | .arr items => items.mapM format.read
    | other => .error (.wrongType other "a sequence")
  scan := do
    if (← Scan.peekToken) = some '[' then Scan.settle (Scan.list format.scan)
    else Scan.refuse "a sequence"
  schema := .object [("items", format.schema), ("type", .str "array")]

/-- Values that may be absent; absence is null. -/
def nullable (format : Format α) : Format (Option α) where
  write := Json.ofOption format.write
  read
    | .null => .ok none
    | other => (format.read other).map some
  scan := do
    if (← Scan.peekToken) = some 'n' then
      Scan.nullWord
      pure none
    else some <$> format.scan
  schema := format.schema.setField "nullable" (.bool true)

/-- Maps from names to values of one format. -/
def map (format : Format α) : Format (NameMap α) where
  write m := .obj (m.entries.map fun entry => (entry.1, format.write entry.2))
  read
    | .obj fields => do
      let bindings ← fields.mapM fun entry => do
        let value ← format.read entry.2
        pure (entry.1, value)
      pure (NameMap.ofList bindings)
    | other => .error (.wrongType other "a map")
  scan := do
    if (← Scan.peekToken) = some '\x7b' then
      NameMap.ofList <$> Scan.settle (Scan.object format.scan)
    else Scan.refuse "a map"
  schema := .object [("additionalProperties", format.schema), ("type", .str "object")]

/-- Maps from names to texts. -/
def textMap : Format (NameMap String) :=
  map text

end Format

end IamReconciler
