import IamReconciler.Error

/-!
# Targets

A request goes to a target: a path and, behind a question mark, a query.  A target is read from a
text, in which a number sign ends it.  Paths and queries admit all characters but blanks, the
controls of ASCII and a few signs, and a text must not be too long.
-/

namespace IamReconciler

namespace Cluster

/-- A path with its query. -/
structure Target where
  path : String
  query : Option String
  deriving DecidableEq, Repr

namespace Target

/-- The target as requests show it. -/
def text (t : Target) : String :=
  match t.query with
  | some query => t.path ++ "?" ++ query
  | none => t.path

/-! ## Characters -/

/-- The character is neither a blank nor a control of ASCII. -/
def isSolid (c : Char) : Bool :=
  ' ' < c && c != '\x7f'

/-- The character may stand in a path. -/
def isPathChar (c : Char) : Bool :=
  isSolid c && c != '<' && c != '>' && c != '\x60'

/-- The character may stand in a query. -/
def isQueryChar (c : Char) : Bool :=
  isSolid c && c != '<' && c != '>' && c != '"'

/-! ## Parts of paths -/

/-- What stands before the last slash of a path, and what stands behind it. -/
def splitLast (path : String) : String × String :=
  let reversed := path.toList.reverse
  (.ofList ((reversed.dropWhile (· != '/')).drop 1).reverse,
    .ofList (reversed.takeWhile (· != '/')).reverse)

/-! ## Reading -/

/-- The most octets that the text of a target may have. -/
def sizeLimit : Nat := 65534

/-- The target of characters without a number sign. -/
def ofChars (cs : List Char) : Target :=
  ⟨.ofList (cs.takeWhile (· != '?')),
    match cs.dropWhile (· != '?') with
    | [] => none
    | _ :: query => some (.ofList query)⟩

/-- The target that a text spells, up to a number sign. -/
def ofText (s : String) : Target :=
  ofChars (s.toList.takeWhile (· != '#'))

/-- A target consists of characters that may stand where they are. -/
def isWellFormed (t : Target) : Bool :=
  t.path.toList.all isPathChar && (t.query.getD "").toList.all isQueryChar

/-- A text spells a target. -/
def check (s : String) : Except RequestFault Unit :=
  if sizeLimit < s.utf8ByteSize then .error .longTarget
  else if (ofText s).isWellFormed then .ok ()
  else .error .wrongCharacter

end Target

end Cluster

end IamReconciler
