import IamReconciler.Error

/-!
# Outcomes

A pass ends with an outcome: when to run again, and what went wrong.  The scheduler takes an action
from it, where an error wins over an interval.
-/

namespace IamReconciler

/-- What the scheduler does with a resource next. -/
inductive Action where
  /-- It waits for the resource to change. -/
  | awaitChange
  /-- It runs another pass after some seconds. -/
  | requeue (seconds : Nat)
  deriving DecidableEq, Repr, Inhabited

/-- How a pass ended. -/
structure Outcome where
  /-- Seconds until the next pass; none to wait for a change. -/
  requeueAfter : Option Nat
  error : Option Error
  deriving DecidableEq, Repr, Inhabited

namespace Outcome

/-- Nothing is left to do. -/
def finished : Outcome := ⟨none, none⟩

/-- Another pass is due after some seconds. -/
def requeue (seconds : Nat) : Outcome := ⟨some seconds, none⟩

/-- The pass failed. -/
def failure (e : Error) : Outcome := ⟨none, some e⟩

/-- What the scheduler does. -/
def action (o : Outcome) : Except Error Action :=
  match o.error, o.requeueAfter with
  | some e, _ => .error e
  | none, some seconds => .ok (.requeue seconds)
  | none, none => .ok .awaitChange

end Outcome

end IamReconciler
