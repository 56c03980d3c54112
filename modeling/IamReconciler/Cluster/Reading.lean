import IamReconciler.Cluster.Request
import IamReconciler.Cluster.StatusCode
import IamReconciler.Error
import IamReconciler.Json.Printer
import IamReconciler.Json.Record

/-!
# Reading replies

A reply with the code of a refusal gives an error status: the one that its body spells or, when the
body spells none, one that quotes the body.  The body of any other reply has to be the object that
was asked for; a fault is reported with the line and the column, in octets, where reading stopped.
-/

namespace IamReconciler

namespace Cluster

/-! ## Positions -/

/-- A line and a column of a text. -/
structure Position where
  line : Nat
  column : Nat
  deriving DecidableEq, Repr

namespace Position

/-- The position after the octets of characters up to a place; `offset` counts the octets before
them. -/
def seek (place offset : Nat) (p : Position) : List Char → Position
  | [] => p
  | c :: cs =>
    if place ≤ offset then p
    else if c = '\n' then seek place (offset + 1) ⟨p.line + 1, 0⟩ cs
    else
      let passed := min c.utf8Size (place - offset)
      seek place (offset + c.utf8Size) ⟨p.line, p.column + passed⟩ cs

/-- The position of a place, which is a number of octets, in a text. -/
def ofPlace (text : String) (place : Nat) : Position :=
  seek place 0 ⟨1, 0⟩ text.toList

end Position

/-- What is wrong with a text, with the position of the fault. -/
def faultMessage (text : String) (fault : ScanFault) : String :=
  match fault.place with
  | none => fault.cause.message
  | some place =>
    let p := Position.ofPlace text place
    fault.cause.message ++ " at line " ++ toString p.line ++ " column " ++ toString p.column

/-! ## Bodies -/

namespace Body

/-- The text of a body. -/
def content : Body → String
  | .document json => json.compact
  | .text s => s

/-- The value that a body spells, or what is wrong with it. -/
def read {α : Type} (scan : Scan α) (body : Body) : Except String α :=
  (scan.ofText body.content).mapError (faultMessage body.content)

end Body

/-! ## Refusals -/

/-- Whole numbers of 16 bits. -/
def code16 : Format Nat :=
  .scalar .nat
    (fun
      | .int (.ofNat n) =>
          if n < 65536 then .ok n else .error (.wrongValue (Json.nat n).named "u16")
      | .int i => .error (.wrongValue (Json.int i).named "u16")
      | other => .error (.wrongType other "u16"))
    (.object [("type", .str "integer")])

/-- The format of error statuses. -/
def errorStatusRecord : Record ErrorStatus where
  expected := "struct ErrorResponse"
  doc := ""
  blank := ⟨"", "", "", 0⟩
  fields :=
    [ (Slot.text "status" (·.status) fun v s => { s with status := v }).required "",
      (Slot.text "message" (·.message) fun v s => { s with message := v }).defaulted "",
      (Slot.text "reason" (·.reason) fun v s => { s with reason := v }).defaulted "",
      Slot.required ⟨"code", code16, 0, (·.code), fun v s => { s with code := v }⟩ "" ]
  layout := .plain

/-- The error status of a body that spells none. -/
def quotedStatus (code : Nat) (body : Body) : ErrorStatus :=
  ⟨statusLine code, Text.quote body.content, "Failed to parse error data", code⟩

/-- The error status of a refusal. -/
def Reply.errorStatus (r : Reply) : ErrorStatus :=
  match r.body.read errorStatusRecord.scan with
  | .ok status => status
  | .error _ => quotedStatus r.code r.body

/-- The object that a reply gives. -/
def Reply.object {α : Type} (scan : Scan α) (r : Reply) : Except ClusterError α :=
  if isRefusal r.code then .error (.refused r.errorStatus)
  else (r.body.read scan).mapError .undecodable

end Cluster

end IamReconciler
