import IamReconciler.Json.Fault

/-!
# Cursors

A text is read from left to right by a cursor, which knows the characters that are left and how many
octets it has passed.  A scan is a step of reading: it moves the cursor and gives a value, or it
fails and leaves the cursor where it stands.

Every fault of a text is reported at a place, a number of octets, from which a line and a column
follow.  A fault of syntax has its place from the start: the octets that were passed (`failHere`) or
one more, when the fault is the character to come (`failAhead`).  A fault of content has none until
the value that is at fault ends: `settle` gives it the place that the cursor has reached.
-/

namespace IamReconciler

/-- A place in a text that is being read. -/
structure Cursor where
  /-- The characters that are left. -/
  rest : List Char
  /-- The octets that were passed. -/
  offset : Nat
  /-- How many lists and objects may still be entered, one more than that. -/
  depth : Nat

namespace Cursor

/-- The greatest depth. -/
def maxDepth : Nat := 128

/-- The start of a text. -/
def start (cs : List Char) : Cursor := ⟨cs, 0, maxDepth⟩

/-- The cursor after one more character. -/
def advance (c : Cursor) : Cursor :=
  match c.rest with
  | [] => c
  | first :: rest => { c with rest, offset := c.offset + first.utf8Size }

/-- The place of the octet to come, or the end of the text. -/
def ahead (c : Cursor) : Nat :=
  if c.rest.isEmpty then c.offset else c.offset + 1

end Cursor

/-! ## Scans -/

/-- What is wrong with a text. -/
inductive ScanCause where
  | grammar (fault : SyntaxFault)
  | content (fault : ReadFault)

/-- What a cause says. -/
def ScanCause.message : ScanCause → String
  | .grammar fault => fault.message
  | .content fault => fault.message

/-- What is wrong with a text and where. -/
structure ScanFault where
  cause : ScanCause
  /-- The octets before the place of the fault, as soon as that is known. -/
  place : Option Nat

/-- A step of reading a text. -/
abbrev Scan (α : Type) := ExceptT ScanFault (StateM Cursor) α

namespace Scan

variable {α β : Type}

/-! ### Failing -/

/-- Fails with a fault of syntax at a place. -/
def failAt (fault : SyntaxFault) (place : Nat) : Scan α :=
  throw ⟨.grammar fault, some place⟩

/-- Fails with a fault of syntax after what was passed. -/
def failHere (fault : SyntaxFault) : Scan α := do
  failAt fault (← get).offset

/-- Fails with a fault of syntax at the character to come. -/
def failAhead (fault : SyntaxFault) : Scan α := do
  failAt fault (← get).ahead

/-- Fails with a fault of content. -/
def reject (fault : ReadFault) : Scan α :=
  throw ⟨.content fault, none⟩

/-- The value of a reading, or its fault of content. -/
def ofRead : Except ReadFault α → Scan α
  | .ok value => pure value
  | .error fault => reject fault

/-- A scan whose faults have their place at the latest where the cursor is when it fails. -/
def settle (p : Scan α) : Scan α :=
  tryCatch p fun fault => do
    throw { fault with place := fault.place <|> some (← get).offset }

/-- A scan followed by another, which is made even when the first one fails; the fault of the first
one wins. -/
def closing (p : Scan α) (close : Scan Unit) : Scan α :=
  ExceptT.mk do
    let result ← p.run
    let closed ← close.run
    pure (result >>= fun value => closed.map fun _ => value)

/-! ### Moving -/

/-- The character to come. -/
def peek : Scan (Option Char) := do
  pure (← get).rest.head?

/-- Passes a character. -/
def skip : Scan Unit :=
  modify Cursor.advance

/-- Characters that may stand between tokens. -/
def isSpace (c : Char) : Bool :=
  c = ' ' || c = '\n' || c = '\t' || c = '\r'

/-- Passes space. -/
def skipSpace : Scan Unit :=
  modify fun c =>
    let space := c.rest.takeWhile isSpace
    { c with rest := c.rest.dropWhile isSpace, offset := c.offset + space.length }

/-- The first character of the token to come. -/
def peekToken : Scan (Option Char) := do
  skipSpace
  peek

/-- Passes digits, which are given. -/
def digits : Scan (List Char) := do
  let c ← get
  let (digits, rest) := c.rest.span Char.isDigit
  set { c with rest, offset := c.offset + digits.length }
  pure digits

/-- A bound for the steps that are left. -/
def fuel : Scan Nat := do
  pure (2 * (← get).rest.length + 2)

/-- A scan inside a list or an object, which is entered by passing its bracket. -/
def inside (p : Scan α) : Scan α := do
  let c ← get
  if c.depth ≤ 1 then failAhead .tooDeep
  else
    set { c.advance with depth := c.depth - 1 }
    let value ← p
    modify fun after => { after with depth := c.depth }
    pure value

end Scan

end IamReconciler
