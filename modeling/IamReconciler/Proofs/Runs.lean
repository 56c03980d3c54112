import Mathlib.Tactic.Lemma
import IamReconciler.Program

/-!
# Runs of programs

A program is run in surroundings, which say how each call may be answered and how their own state
moves when it is. A run has a trace: the exchanges of calls and answers in their order.  Nothing
fixes the answers, so that a program has as many runs as its surroundings allow.

What holds after every run is stated by `Program.Ensures`, which composes along the program
(`ensures_bind_iff`). Surroundings may be confined to the exchanges of a property that all exchanges
of a run have (`Program.Runs.confined`).  Where each call may be answered in one way only, a program
has one run (`Program.Runs.unique`).
-/

namespace IamReconciler

/-- A call with the answer that was given to it. -/
structure Exchange (I : Interface) where
  call : I.Call
  answer : I.Answer call

/-- How calls may be answered, and which states of the surroundings may follow which. -/
def Surroundings (I : Interface) (σ : Type) : Type :=
  (c : I.Call) → I.Answer c → σ → σ → Prop

namespace Surroundings

variable {I : Interface} {σ : Type}

/-- Surroundings that give any answer to any call. -/
def free (I : Interface) : Surroundings I Unit :=
  fun _ _ _ _ => True

/-- The surroundings without the exchanges that lack a property. -/
def confined (S : Surroundings I σ) (P : Exchange I → Prop) : Surroundings I σ :=
  fun c answer s t => S c answer s t ∧ P ⟨c, answer⟩

/-- In every state a call is answered in one way at most, and one state at most follows. -/
def Settles (S : Surroundings I σ) (c : I.Call) : Prop :=
  ∀ ⦃answer answer' s t u⦄, S c answer s t → S c answer' s u → answer' = answer ∧ u = t

end Surroundings

namespace Program

variable {I : Interface} {α β σ : Type} {S : Surroundings I σ}

/-! ## Runs -/

/-- A program has a run from one state to another with a trace and a value. -/
inductive Runs (S : Surroundings I σ) : Program I α → σ → List (Exchange I) → α → σ → Prop where
  | done (a : α) (s : σ) : Runs S (.done a) s [] a s
  | ask {c : I.Call} {next : I.Answer c → Program I α} {answer : I.Answer c} {s t u : σ}
      {trace : List (Exchange I)} {a : α} (hAnswer : S c answer s t)
      (hRest : Runs S (next answer) t trace a u) :
      Runs S (.ask c next) s (⟨c, answer⟩ :: trace) a u

/-- A program that has finished has the run without exchanges. -/
lemma runs_done_iff {a b : α} {s t : σ} {trace : List (Exchange I)} :
    (Program.done a : Program I α).Runs S s trace b t ↔ trace = [] ∧ b = a ∧ t = s := by
  constructor
  · rintro ⟨⟩
    exact ⟨rfl, rfl, rfl⟩
  · rintro ⟨rfl, rfl, rfl⟩
    exact .done _ _

/-- A run of a program that makes a call first has the exchange of this call first. -/
lemma runs_ask_iff {c : I.Call} {next : I.Answer c → Program I α} {a : α} {s u : σ}
    {trace : List (Exchange I)} :
    (Program.ask c next).Runs S s trace a u ↔
      ∃ answer t rest, S c answer s t ∧ (next answer).Runs S t rest a u ∧
      trace = ⟨c, answer⟩ :: rest := by
  constructor
  · rintro ⟨⟩
    exact ⟨_, _, _, ‹_›, ‹_›, rfl⟩
  · rintro ⟨answer, t, rest, hAnswer, hRest, rfl⟩
    exact .ask hAnswer hRest

/-- A run of a sequence is a run of its first part followed by one of its second. -/
lemma runs_bind_iff {p : Program I α} {f : α → Program I β} {b : β} {s u : σ}
    {trace : List (Exchange I)} :
    (p >>= f).Runs S s trace b u ↔
      ∃ first a t rest, p.Runs S s first a t ∧ (f a).Runs S t rest b u ∧ trace = first ++ rest := by
  induction p generalizing s trace with
  | done a =>
    rw [done_bind]
    constructor
    · exact fun h => ⟨[], a, s, trace, .done _ _, h, rfl⟩
    · rintro ⟨first, a', t, rest, hFirst, hRest, rfl⟩
      obtain ⟨rfl, rfl, rfl⟩ := runs_done_iff.1 hFirst
      exact hRest
  | ask c next ih =>
    rw [ask_bind, runs_ask_iff]
    constructor
    · rintro ⟨answer, t, rest, hAnswer, hRest, rfl⟩
      obtain ⟨first, a, v, last, hFirst, hLast, rfl⟩ := (ih answer).1 hRest
      exact ⟨⟨c, answer⟩ :: first, a, v, last, .ask hAnswer hFirst, hLast, rfl⟩
    · rintro ⟨first, a, v, last, hFirst, hLast, rfl⟩
      obtain ⟨answer, t, rest, hAnswer, hRest, rfl⟩ := runs_ask_iff.1 hFirst
      exact ⟨answer, t, rest ++ last, hAnswer, (ih answer).2 ⟨rest, a, v, last, hRest, hLast, rfl⟩,
        rfl⟩

/-- In surroundings that give any answer, a run goes on with any answer. -/
lemma Runs.answered {c : I.Call} {next : I.Answer c → Program I α} (answer : I.Answer c)
    {trace : List (Exchange I)} {a : α} (h : (next answer).Runs (.free I) () trace a ()) :
    (Program.ask c next).Runs (.free I) () (⟨c, answer⟩ :: trace) a () :=
  .ask (t := ()) trivial h

/-! ### Runs under an answerer -/

/-- The exchanges of a program under an answerer. -/
def exchanges (answer : (c : I.Call) → σ → I.Answer c × σ) : Program I α → σ → List (Exchange I)
  | .done _, _ => []
  | .ask c next, s => ⟨c, (answer c s).1⟩ :: (next (answer c s).1).exchanges answer (answer c s).2

/-- What a program does under an answerer is a run in all surroundings that allow the answers. -/
lemma runs_run {answer : (c : I.Call) → σ → I.Answer c × σ}
    (hAnswer : ∀ c s, S c (answer c s).1 s (answer c s).2) (p : Program I α) (s : σ) :
    p.Runs S s (p.exchanges answer s) (p.run answer s).1 (p.run answer s).2 := by
  induction p generalizing s with
  | done a => exact .done a s
  | ask c next ih => exact .ask (hAnswer c s) (ih _ _)

/-- The exchanges of a sequence are those of its parts in turn. -/
lemma exchanges_bind (answer : (c : I.Call) → σ → I.Answer c × σ) (p : Program I α)
    (f : α → Program I β) (s : σ) :
    (p >>= f).exchanges answer s =
      p.exchanges answer s ++ (f (p.run answer s).1).exchanges answer (p.run answer s).2 := by
  induction p generalizing s with
  | done a => rfl
  | ask c next ih => exact congrArg (List.cons _) (ih _ _)

/-- Another answerer that answers alike all calls which a program makes under the first leads it to
the same value and the same last state. -/
lemma run_congr {answer answer' : (c : I.Call) → σ → I.Answer c × σ} {p : Program I α} {s : σ}
    (h : ∀ x ∈ p.exchanges answer s, ∀ t, answer' x.call t = answer x.call t) :
    p.run answer' s = p.run answer s := by
  induction p generalizing s with
  | done a => rfl
  | ask c next ih =>
    obtain ⟨hFirst, hRest⟩ := List.forall_mem_cons.1 h
    rw [run_ask, run_ask, hFirst s]
    exact ih _ hRest

/-! ### Runs that are the only ones -/

/-- A run is the only one when each of its calls may be answered in one way only, and leads to one
state only. -/
theorem Runs.unique {P : I.Call → Prop} (hS : ∀ c, P c → S.Settles c) {p : Program I α} {s t u : σ}
    {trace trace' : List (Exchange I)} {a b : α} (h : p.Runs S s trace a t)
    (hP : ∀ x ∈ trace, P x.call) (h' : p.Runs S s trace' b u) : trace' = trace ∧ b = a ∧ u = t := by
  induction h generalizing trace' with
  | done a s => exact runs_done_iff.1 h'
  | ask hAnswer _ ih =>
    obtain ⟨hFirst, hRest⟩ := List.forall_mem_cons.1 hP
    obtain ⟨answer', t', rest', hAnswer', hRest', rfl⟩ := runs_ask_iff.1 h'
    obtain ⟨rfl, rfl⟩ := hS _ hFirst hAnswer hAnswer'
    obtain ⟨rfl, hSame⟩ := ih hRest hRest'
    exact ⟨rfl, hSame⟩

/-! ### Changing the surroundings -/

/-- A run in some surroundings is one in all surroundings that allow more. -/
lemma Runs.mono {S' : Surroundings I σ} (hS : ∀ c answer s t, S c answer s t → S' c answer s t)
    {p : Program I α} {s t : σ} {trace : List (Exchange I)} {a : α} (h : p.Runs S s trace a t) :
    p.Runs S' s trace a t := by
  induction h with
  | done a s => exact .done a s
  | ask hAnswer _ ih => exact .ask (hS _ _ _ _ hAnswer) ih

/-- A run whose exchanges all have a property is one in the surroundings that are confined to it. -/
theorem Runs.confined {P : Exchange I → Prop} {p : Program I α} {s t : σ}
    {trace : List (Exchange I)} {a : α} (h : p.Runs S s trace a t) (hP : ∀ x ∈ trace, P x) :
    p.Runs (S.confined P) s trace a t := by
  induction h with
  | done a s => exact .done a s
  | ask hAnswer _ ih =>
    obtain ⟨hFirst, hRest⟩ := List.forall_mem_cons.1 hP
    exact .ask ⟨hAnswer, hFirst⟩ (ih hRest)

/-! ## What all runs ensure -/

/-- After every run of a program from a state, its value and the last state have a property. -/
def Ensures (S : Surroundings I σ) (p : Program I α) (s : σ) (Q : α → σ → Prop) : Prop :=
  ∀ trace a t, p.Runs S s trace a t → Q a t

/-- A program that has finished ensures what holds of its value now. -/
@[simp] lemma ensures_done_iff {a : α} {s : σ} {Q : α → σ → Prop} :
    (Program.done a : Program I α).Ensures S s Q ↔ Q a s := by
  constructor
  · exact fun h => h [] a s (.done a s)
  · intro hQ trace b t hRun
    obtain ⟨-, rfl, rfl⟩ := runs_done_iff.1 hRun
    exact hQ

/-- A program that makes a call first ensures what its rest ensures after every answer. -/
@[simp] lemma ensures_ask_iff {c : I.Call} {next : I.Answer c → Program I α} {s : σ}
    {Q : α → σ → Prop} :
    (Program.ask c next).Ensures S s Q ↔ ∀ answer t, S c answer s t →
    (next answer).Ensures S t Q := by
  constructor
  · exact fun h answer t hAnswer trace a u hRest => h _ a u (.ask hAnswer hRest)
  · intro h trace a u hRun
    obtain ⟨answer, t, rest, hAnswer, hRest, rfl⟩ := runs_ask_iff.1 hRun
    exact h answer t hAnswer rest a u hRest

/-- A sequence ensures what its second part ensures wherever the first part may end. -/
@[simp] theorem ensures_bind_iff {p : Program I α} {f : α → Program I β} {s : σ}
    {Q : β → σ → Prop} :
    (p >>= f).Ensures S s Q ↔ p.Ensures S s fun a t => (f a).Ensures S t Q := by
  constructor
  · exact fun h first a t hFirst rest b u hRest =>
      h _ b u (runs_bind_iff.2 ⟨_, _, _, _, hFirst, hRest, rfl⟩)
  · intro h trace b u hRun
    obtain ⟨first, a, t, rest, hFirst, hRest, rfl⟩ := runs_bind_iff.1 hRun
    exact h first a t hFirst rest b u hRest

/-- A single call ensures what holds after every answer. -/
@[simp] lemma ensures_call_iff {c : I.Call} {s : σ} {Q : I.Answer c → σ → Prop} :
    (Program.call c).Ensures S s Q ↔ ∀ answer t, S c answer s t → Q answer t := by
  simp only [Program.call, ensures_ask_iff, ensures_done_iff]

/-- What is ensured may be weakened. -/
lemma Ensures.mono {p : Program I α} {s : σ} {Q R : α → σ → Prop} (h : p.Ensures S s Q)
    (hQR : ∀ a t, Q a t → R a t) : p.Ensures S s R :=
  fun trace a t hRun => hQR a t (h trace a t hRun)

end Program

end IamReconciler
