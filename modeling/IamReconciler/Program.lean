/-!
# Programs over calls

An interface is a type of calls together with the type of answers to each.  A program over an
interface is a tree: it has finished with a value, or it makes a call and goes on according to the
answer.  A program has no other effect, so that everything it can do under all answers is laid open
in the tree.

Running a program needs an answerer, which gives the answer to each call and may keep a state.
Programs form a lawful monad, and running commutes with sequencing (`run_bind`).
-/

namespace IamReconciler

/-- A type of calls with the type of answers to each. -/
structure Interface where
  Call : Type
  Answer : Call → Type

/-- A program that makes calls and returns a value. -/
inductive Program (I : Interface) (α : Type) where
  | done (value : α)
  | ask (call : I.Call) (next : I.Answer call → Program I α)

namespace Program

variable {I : Interface} {α β γ σ : Type}

/-- One program after another. -/
def bind (p : Program I α) (f : α → Program I β) : Program I β :=
  match p with
  | .done value => f value
  | .ask call next => .ask call fun answer => (next answer).bind f

instance : Monad (Program I) where
  pure := .done
  bind := bind

/-- The program that makes one call and returns its answer. -/
def call (c : I.Call) : Program I (I.Answer c) :=
  .ask c .done

/-- The value and the last state of a program under an answerer. -/
def run (answer : (c : I.Call) → σ → I.Answer c × σ) : Program I α → σ → α × σ
  | .done value, s => (value, s)
  | .ask c next, s =>
    let answered := answer c s
    (next answered.1).run answer answered.2

/-! ## Laws -/

@[simp] theorem pure_eq_done (a : α) : (pure a : Program I α) = .done a := rfl

@[simp] theorem done_bind (a : α) (f : α → Program I β) :
    (Program.done a : Program I α) >>= f = f a := rfl

@[simp] theorem ask_bind (c : I.Call) (next : I.Answer c → Program I α) (f : α → Program I β) :
    (Program.ask c next >>= f) = .ask c fun answer => next answer >>= f := rfl

/-- Returning the value of a program changes nothing. -/
theorem bind_done (p : Program I α) : (p >>= Program.done) = p := by
  induction p with
  | done => rfl
  | ask c next ih => exact congrArg (Program.ask c) (funext ih)

/-- Sequencing is associative. -/
theorem bind_assoc (p : Program I α) (f : α → Program I β) (g : β → Program I γ) :
    (p >>= f) >>= g = p >>= fun a => f a >>= g := by
  induction p with
  | done => rfl
  | ask c next ih => exact congrArg (Program.ask c) (funext ih)

instance : LawfulMonad (Program I) :=
  LawfulMonad.mk' (Program I) bind_done (fun _ _ => rfl) bind_assoc

@[simp] theorem run_done (answer : (c : I.Call) → σ → I.Answer c × σ) (a : α) (s : σ) :
    (Program.done a).run answer s = (a, s) := rfl

@[simp] theorem run_ask (answer : (c : I.Call) → σ → I.Answer c × σ) (c : I.Call)
    (next : I.Answer c → Program I α) (s : σ) :
    (Program.ask c next).run answer s = (next (answer c s).1).run answer (answer c s).2 := rfl

/-- Running a sequence is running its parts in turn. -/
theorem run_bind (answer : (c : I.Call) → σ → I.Answer c × σ) (p : Program I α)
    (f : α → Program I β) (s : σ) :
    (p >>= f).run answer s = (f (p.run answer s).1).run answer (p.run answer s).2 := by
  induction p generalizing s with
  | done => rfl
  | ask c next ih => exact ih _ _

end Program

end IamReconciler
