import IamReconciler.Proofs.Lifecycle.Records

/-!
# Passes that are answered as before

Two passes are compared by giving the second one the answers of the first.  What the store answers
depends on what it holds by then.  All other calls are answered by the exchanges of the first pass,
one after another (`replaying`), so that a pass which makes other calls, or the same ones in another
order, gets no answer.

A pass is repeated (`Repeats`) when the next one that is answered as it was ends as it did and
writes nothing.  Such a pass reads the stored resource and goes on with the exchanges of the first
pass that were none with the store.  It is therefore enough to show that this is a trace of the
program (`repeats_of_traces`): without writes nothing else can happen.
-/

namespace IamReconciler

variable {δ : Type} {k : Kind} {settings : Settings} {key : Key}
    {h rest trace : List (Exchange Pass.interface)}

/-! ## Exchanges with other parties than the store -/

/-- The call writes to the store. -/
def Pass.Call.writes (c : Pass.Call) : Bool :=
  c.writesMetadata || c.writesStatus

/-- The exchanges of a trace with other parties than the store. -/
def outside (h : List (Exchange Pass.interface)) : List (Exchange Pass.interface) :=
  h.filter fun y => !y.call.isStore

@[simp] lemma outside_store (c : StoreCall) (answer : c.Answer) :
    outside (⟨.store c, answer⟩ :: h) = outside h := rfl

@[simp] lemma outside_openAccount (ns : String) (answer : Except Error Session) :
    outside (⟨.openAccount ns, answer⟩ :: h) = ⟨.openAccount ns, answer⟩ :: outside h := rfl

@[simp] lemma outside_append : outside (h ++ rest) = outside h ++ outside rest :=
  List.filter_append ..

/-- What has no exchange with the store is all outside of it. -/
lemma outside_of_isStore (hOther : ∀ y ∈ h, y.call.isStore = false) : outside h = h :=
  List.filter_eq_self.2 fun y hMem => by rw [hOther y hMem]; rfl

/-- Nothing that is outside of the store is an exchange with it. -/
lemma isStore_of_mem_outside : ∀ y ∈ outside h, y.call.isStore = false :=
  fun _ hMem => by simpa using (List.mem_filter.1 hMem).2

/-- What is no call of the store does not write to it. -/
lemma Pass.Call.not_writes_of_isStore {c : Pass.Call} (hOther : c.isStore = false) : ¬c.writes := by
  cases c with
  | store => exact absurd hOther Bool.noConfusion
  | openAccount => exact Bool.false_ne_true
  | reference => exact Bool.false_ne_true
  | directory => exact Bool.false_ne_true

/-! ## Answering as before -/

/-- The surroundings of a pass that is answered as another one was: the store answers as it is, and
all other calls have their exchanges, in their order. -/
def replaying (key : Key) : Surroundings Pass.interface (Site k δ × List (Exchange Pass.interface))
  | .store c, answer, s, t => Site.StoreAnswers key False c answer s.1 t.1 ∧ t.2 = s.2
  | c, answer, s, t => t.1 = s.1 ∧ s.2 = ⟨c, answer⟩ :: t.2

/-- A site is read in one way. -/
lemma Site.StoreAnswers.read_unique {k' : Kind} {key' : Key}
    {answer answer' : Except Error (Option (Resource k'))}
    {s t u : Site k δ} (hRead : Site.StoreAnswers key False (.get k' key') answer s t)
    (hRead' : Site.StoreAnswers key False (.get k' key') answer' s u) :
    answer' = answer ∧ u = t := by
  cases hRead with
  | found hStored =>
    cases hRead' with
    | found => exact ⟨rfl, rfl⟩
    | absent hGone => exact absurd (hStored.symm.trans hGone) Bool.noConfusion
    | unread _ hMay => exact hMay.elim
  | absent hGone =>
    cases hRead' with
    | found hStored => exact absurd (hStored.symm.trans hGone) Bool.noConfusion
    | absent => exact ⟨rfl, rfl⟩
    | unread _ hMay => exact hMay.elim
  | unread _ hMay => exact hMay.elim

/-- Only writes may be answered in several ways. -/
lemma settles_replaying {c : Pass.Call} (hStill : ¬c.writes) :
    Surroundings.Settles (replaying (k := k) (δ := δ) key) c := by
  have hOther {c : Pass.Call} {answer answer' : c.Answer}
      {s t u : Site k δ × List (Exchange Pass.interface)}
      (hStep : t.1 = s.1 ∧ s.2 = ⟨c, answer⟩ :: t.2)
      (hStep' : u.1 = s.1 ∧ s.2 = ⟨c, answer'⟩ :: u.2) :
      answer' = answer ∧ u = t := by
    obtain ⟨hFirst, hLeft⟩ := List.cons.inj (hStep'.2.symm.trans hStep.2)
    cases hFirst
    exact ⟨rfl, Prod.ext (hStep'.1.trans hStep.1.symm) hLeft⟩
  intro answer answer' s t u hStep hStep'
  cases c with
  | store c =>
    cases c with
    | get =>
      obtain ⟨hAnswer, hSite⟩ := hStep.1.read_unique hStep'.1
      exact ⟨hAnswer, Prod.ext hSite (hStep'.2.trans hStep.2.symm)⟩
    | update => exact absurd rfl hStill
    | updateStatus => exact absurd rfl hStill
  | openAccount => exact hOther hStep hStep'
  | reference => exact hOther hStep hStep'
  | directory => exact hOther hStep hStep'

/-- What is outside of the store is answered by its exchanges, one after another. -/
lemma path_replaying {s : Site k δ} (hOther : ∀ y ∈ h, y.call.isStore = false) :
    (replaying key).Path (s, h ++ rest) h (s, rest) := by
  induction h with
  | nil => exact .nil _
  | cons y h ih =>
    obtain ⟨hFirst, hRest⟩ := List.forall_mem_cons.1 hOther
    refine .cons (t := (s, h ++ rest)) ?_ (ih hRest)
    obtain ⟨c, answer⟩ := y
    cases c with
    | store => exact absurd hFirst Bool.noConfusion
    | openAccount => exact ⟨rfl, rfl⟩
    | reference => exact ⟨rfl, rfl⟩
    | directory => exact ⟨rfl, rfl⟩

/-- After a pass has left a site, the next pass that is answered as it was ends with the same
outcome, makes the same calls outside of the store, and writes nothing.  There is such a pass. -/
structure Repeats (settings : Settings) (key : Key) (trace : List (Exchange Pass.interface))
    (outcome : Outcome) (t : Site k δ) : Prop where
  again : ∃ trace', (reconcile settings k key).Runs (replaying key)
    (t, outside trace) trace' outcome (t, [])
  quiet : ∀ trace' outcome' u,
    (reconcile settings k key).Runs (replaying key) (t, outside trace) trace' outcome' u →
      outcome' = outcome ∧ u = (t, []) ∧ outside trace' = outside trace ∧
      ∀ y ∈ trace', ¬y.call.writes

open Lifecycle (outcomeOf)

variable {t : Site k δ} {x : Except Error Outcome}

/-- A pass is repeated when the program has a trace that reads the resource as it was left and goes
on with what was outside of the store. -/
theorem repeats_of_traces (hStored : t.isStored)
    (hAgain : Pass.Traces (Lifecycle.pass settings k key)
      (⟨.store (.get k key), .ok (some t.resource)⟩ :: outside trace) x) :
    Repeats settings key trace (outcomeOf x) t := by
  have hTrace : (reconcile settings k key).Traces
    (⟨.store (.get k key), .ok (some t.resource)⟩ :: outside trace)
      (outcomeOf x) := by
    refine Program.traces_bind_iff.2 ⟨_, x, [], hAgain, ?_, (List.append_nil _).symm⟩
    cases x with
    | ok => exact Program.traces_done_iff.2 ⟨rfl, rfl⟩
    | error => exact Program.traces_done_iff.2 ⟨rfl, rfl⟩
  have hPath : (replaying key).Path (t, outside trace)
      (⟨.store (.get k key), .ok (some t.resource)⟩ :: outside trace) (t, []) := by
    refine .cons (t := (t, outside trace)) ⟨.found hStored, rfl⟩ ?_
    have hOutside : (replaying key).Path (t, outside trace ++ []) (outside trace) (t, []) :=
      path_replaying isStore_of_mem_outside
    rwa [List.append_nil] at hOutside
  have hRun := Program.runs_iff.2 ⟨hTrace, hPath⟩
  -- a trace that writes nothing is the only one that the repeated answers allow
  have hStill : ∀ y ∈ ⟨.store (.get k key), .ok (some t.resource)⟩ :: outside trace,
      ¬y.call.writes :=
    List.forall_mem_cons.2
      ⟨Bool.false_ne_true, fun y hMem =>
        Pass.Call.not_writes_of_isStore (isStore_of_mem_outside y hMem)⟩
  refine ⟨⟨_, hRun⟩, fun trace' outcome' u hRun' => ?_⟩
  obtain ⟨rfl, rfl, rfl⟩ := hRun.unique (fun _ => settles_replaying) hStill hRun'
  exact ⟨rfl, rfl, outside_of_isStore isStore_of_mem_outside, hStill⟩

end IamReconciler
