import IamReconciler.Account
import IamReconciler.Directory.Call
import IamReconciler.Resource.Basic

/-!
# Passes

A pass is a program over the collaborators of the operator: the store of resources, the finder of
accounts, the references to other resources, and the remote service.  Here are their calls with the
answers they give, and the monad in which a pass is written: a program that may stop with an error.
-/

namespace IamReconciler

/-! ## Calls -/

/-- A call of the store of resources. -/
inductive StoreCall where
  /-- The resource of a key, none when it does not exist. -/
  | get (k : Kind) (key : Key)
  /-- Write metadata and spec; returns the stored resource. -/
  | update (k : Kind) (resource : Resource k)
  /-- Write the status; returns the stored resource. -/
  | updateStatus (k : Kind) (resource : Resource k)

/-- The answer to a call of the store. -/
@[reducible] def StoreCall.Answer : StoreCall → Type
  | .get k _ => Except Error (Option (Resource k))
  | .update k _ => Except Error (Resource k)
  | .updateStatus k _ => Except Error (Resource k)

/-- A look-up of a resource that another one refers to. -/
inductive ReferenceCall where
  | accessGroup (ns name : String)
  | customRole (ns name : String)
  deriving DecidableEq

/-- The answer to a look-up. -/
@[reducible] def ReferenceCall.Answer : ReferenceCall → Type
  | .accessGroup .. => Except Error (Option (Resource .accessGroup))
  | .customRole .. => Except Error (Option (Resource .customRole))

namespace Pass

/-- A call that a pass makes. -/
inductive Call where
  | store (call : StoreCall)
  | openAccount (ns : String)
  | reference (call : ReferenceCall)
  | directory (call : Directory.Call)

/-- The answer to a call. -/
@[reducible] def Call.Answer : Call → Type
  | .store call => call.Answer
  | .openAccount _ => Except Error Session
  | .reference call => call.Answer
  | .directory call => call.Answer

/-- The interface of a pass. -/
def interface : Interface := ⟨Call, Call.Answer⟩

end Pass

/-! ## The monad of passes -/

/-- A part of a pass, which may stop with an error. -/
abbrev Pass := ExceptT Error (Program Pass.interface)

namespace Pass

variable {α : Type} {k : Kind}

/-- The stored resource of a key. -/
def fetch (k : Kind) (key : Key) : Pass (Option (Resource k)) :=
  Program.call (I := interface) (.store (.get k key))

/-- Writes metadata and spec. -/
def update (r : Resource k) : Pass (Resource k) :=
  Program.call (I := interface) (.store (.update k r))

/-- Writes the status. -/
def updateStatus (r : Resource k) : Pass (Resource k) :=
  Program.call (I := interface) (.store (.updateStatus k r))

/-- The session for a namespace. -/
def openAccount (ns : String) : Pass Session :=
  Program.call (I := interface) (.openAccount ns)

/-- The declaration of an access group. -/
def lookUpGroup (ns name : String) : Pass (Option (Resource .accessGroup)) :=
  Program.call (I := interface) (.reference (.accessGroup ns name))

/-- The declaration of a custom role. -/
def lookUpRole (ns name : String) : Pass (Option (Resource .customRole)) :=
  Program.call (I := interface) (.reference (.customRole ns name))

/-- A call of the remote service. -/
def directory (c : Directory.Call) : Program interface c.Answer :=
  Program.call (I := interface) (.directory c)

/-- A call of the remote service as a step of a pass, which fails in the named operation. -/
def remote (operation : String) (c : Directory.Call) : Pass c.Value :=
  ExceptT.mk do
    let answer ← directory c
    pure (answer.mapError (Error.remote operation))

/-- A part of a pass whose error does not stop the pass. -/
def attempt (p : Pass α) : Pass (Except Error α) :=
  ExceptT.lift p.run

end Pass

end IamReconciler
