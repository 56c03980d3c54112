import IamReconciler.Json.Token

/-!
# The text of JSON

Reading goes through lists and objects item by item, so that the reader decides what becomes of
each.  A value that does not matter is passed; a value of any form is read into a tree.

`parse` reads a whole text.  A later field of an object replaces an earlier one of its name.
-/

namespace IamReconciler

namespace Scan

variable {α : Type}

/-! ## Lists and objects -/

/-- Whether another item of a list is to come, of which the comma is passed; `first` before the
first item. -/
def hasItem (first : Bool) : Scan Bool := do
  match ← peekToken with
  | none => failAhead .endInList
  | some ']' => pure false
  | some ',' =>
    if first then pure true
    else
      skip
      match ← peekToken with
      | none => failAhead .endInValue
      | some ']' => failAhead .trailingComma
      | some _ => pure true
  | some _ => if first then pure true else failAhead .noListDelimiter

/-- The end of a list. -/
def endList : Scan Unit := do
  match ← peekToken with
  | none => failAhead .endInList
  | some ']' => skip
  | some ',' =>
    skip
    match ← peekToken with
    | some ']' => failAhead .trailingComma
    | _ => failAhead .trailing
  | some _ => failAhead .trailing

/-- Whether another field of an object is to come, of which the comma is passed; `first` before the
first field. -/
def hasField (first : Bool) : Scan Bool := do
  match ← peekToken with
  | none => failAhead .endInObject
  | some '\x7d' => pure false
  | some c =>
    if first then
      if c = '"' then pure true else failAhead .noName
    else if c = ',' then
      skip
      match ← peekToken with
      | none => failAhead .endInValue
      | some '"' => pure true
      | some '\x7d' => failAhead .trailingComma
      | some _ => failAhead .noName
    else failAhead .noObjectDelimiter

/-- The name of the next field of an object, if there is one. -/
def fieldName (first : Bool) : Scan (Option String) := do
  if ← hasField first then
    skip
    some <$> stringText
  else pure none

/-- Passes the colon after the name of a field. -/
def colon : Scan Unit := do
  match ← peekToken with
  | none => failAhead .endInObject
  | some ':' => skip
  | some _ => failAhead .noColon

/-- The end of an object. -/
def endObject : Scan Unit := do
  match ← peekToken with
  | none => failAhead .endInObject
  | some '\x7d' => skip
  | some ',' => failAhead .trailingComma
  | some _ => failAhead .trailing

/-- The items of a list from the next one on, of which there are at most `steps`. -/
def items (item : Scan α) : (steps : Nat) → (first : Bool) → Scan (List α)
  | 0, _ => pure []
  | steps + 1, first => do
    if ← hasItem first then
      let value ← item
      let rest ← items item steps false
      pure (value :: rest)
    else pure []

/-- The fields of an object from the next one on, of which there are at most `steps`. -/
def fields (value : Scan α) : (steps : Nat) → (first : Bool) → Scan (List (String × α))
  | 0, _ => pure []
  | steps + 1, first => do
    match ← fieldName first with
    | some name =>
      colon
      let value' ← value
      let rest ← fields value steps false
      pure ((name, value') :: rest)
    | none => pure []

/-- A list whose bracket is to come. -/
def list (item : Scan α) : Scan (List α) :=
  inside (closing (do items item (← fuel) true) endList)

/-- An object whose bracket is to come. -/
def object (value : Scan α) : Scan (List (String × α)) :=
  inside (closing (do fields value (← fuel) true) endObject)

/-! ## Values that are passed -/

mutual

/-- Passes a value.  The first argument bounds the number of steps. -/
def passValue : Nat → Scan Unit
  | 0 => pure ()
  | steps + 1 => do
    match ← peekToken with
    | none => failAhead .endInValue
    | some 'n' => nullWord
    | some 't' => word ['t', 'r', 'u', 'e']
    | some 'f' => word ['f', 'a', 'l', 's', 'e']
    | some '"' =>
      skip
      passString
    | some '-' =>
      skip
      passNumber
    | some '[' =>
      skip
      match ← peekToken with
      | none => failAhead .endInList
      | some ']' => skip
      | some _ => passItems steps
    | some '\x7b' =>
      skip
      match ← peekToken with
      | none => failAhead .endInObject
      | some '\x7d' => skip
      | some _ => passFields steps
    | some c => if c.isDigit then passNumber else failAhead .noValue

/-- Passes the items of a list from the next one on, and its end. -/
def passItems : Nat → Scan Unit
  | 0 => pure ()
  | steps + 1 => do
    passValue steps
    match ← peekToken with
    | none => failAhead .endInList
    | some ',' =>
      skip
      passItems steps
    | some ']' => skip
    | some _ => failAhead .noListDelimiter

/-- Passes the fields of an object from the next one on, and its end. -/
def passFields : Nat → Scan Unit
  | 0 => pure ()
  | steps + 1 => do
    match ← peekToken with
    | none => failAhead .endInObject
    | some '"' =>
      skip
      passString
      colon
      passValue steps
      match ← peekToken with
      | none => failAhead .endInObject
      | some ',' =>
        skip
        passFields steps
      | some '\x7d' => skip
      | some _ => failAhead .noObjectDelimiter
    | some _ => failAhead .noName

end

/-- Passes a value of any form. -/
def pass : Scan Unit := do
  passValue (← fuel)

/-! ## Values of any form -/

/-- The value to come when it is neither a list nor an object; of those an empty one is given, and
none is passed. -/
def glimpse : Scan Json := do
  match ← peekToken with
  | none => failAhead .endInValue
  | some 'n' => wordFor ['n', 'u', 'l', 'l'] .null
  | some 't' => wordFor ['t', 'r', 'u', 'e'] (.bool true)
  | some 'f' => wordFor ['f', 'a', 'l', 's', 'e'] (.bool false)
  | some '"' =>
    skip
    .str <$> stringText
  | some '-' =>
    skip
    number true
  | some '[' => pure (.arr [])
  | some '\x7b' => pure (.obj [])
  | some c => if c.isDigit then number false else failAhead .noValue

/-- A value of any form, with the fields of each object as `collect` makes them of those in the
text.  The last argument bounds the number of steps. -/
def valueWith (collect : List (String × Json) → List (String × Json)) : Nat → Scan Json
  | 0 => failAhead .tooDeep
  | steps + 1 => do
    match ← peekToken with
    | some '[' => .arr <$> list (valueWith collect steps)
    | some '\x7b' => (fun entries => .obj (collect entries)) <$> object (valueWith collect steps)
    | _ => glimpse

/-- A value of any form. -/
def value : Scan Json :=
  valueWith Entries.ofList Cursor.maxDepth

/-- A value of any form, whose objects have the fields in the order of the text, also those of one
name. -/
def plainValue : Scan Json :=
  valueWith id Cursor.maxDepth

/-! ## Whole texts -/

/-- The value of a scan of a whole text. -/
def ofText (p : Scan α) (text : String) : Except ScanFault α :=
  let whole : Scan α := do
    let value ← p
    if (← peekToken).isSome then failAhead .trailing else pure value
  (whole.run (Cursor.start text.toList)).1

end Scan

namespace Json

/-- The value that a text spells. -/
def parse (text : String) : Except ScanFault Json :=
  Scan.value.ofText text

end Json

end IamReconciler
