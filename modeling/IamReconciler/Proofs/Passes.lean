import IamReconciler.Proofs.Runs
import IamReconciler.Reconcile.Pass

/-!
# Reasoning about passes

A part of a pass ends with a value or with an error, so that what it ensures has two halves: one for
values, one for errors.  For each way in which parts are put together, and for each call of a pass,
there is one statement that says exactly what is ensured.  Reasoning about a pass follows its text
with them.
-/

namespace IamReconciler

namespace Pass

variable {α β σ : Type} {k : Kind} {S : Surroundings Pass.interface σ} {s : σ}

/-! ## Values and errors -/

/-- One property of values and one of errors. -/
def either (Q : α → σ → Prop) (E : Error → σ → Prop) : Except Error α → σ → Prop
  | .ok a => Q a
  | .error e => E e

variable {Q R : α → σ → Prop} {E F : Error → σ → Prop}

@[simp] lemma either_ok {a : α} : either Q E (.ok a) s ↔ Q a s := Iff.rfl

@[simp] lemma either_error {e : Error} : either Q E (.error e) s ↔ E e s := Iff.rfl

/-- What holds of every answer holds of every value and of every error. -/
lemma forall_answer_iff {P : Except Error α → σ → Prop} :
    (∀ answer t, P answer t → either Q E answer t) ↔
      (∀ a t, P (.ok a) t → Q a t) ∧ ∀ e t, P (.error e) t → E e t := by
  constructor
  · exact fun h => ⟨fun a => h (.ok a), fun e => h (.error e)⟩
  · rintro ⟨hOk, hError⟩ (e | a) t hAnswer
    · exact hError e t hAnswer
    · exact hOk a t hAnswer

/-- After every run of a part of a pass from a state, `Q` holds of its value or `E` of its error. -/
def Ensures (S : Surroundings Pass.interface σ) (p : Pass α) (s : σ) (Q : α → σ → Prop)
    (E : Error → σ → Prop) : Prop :=
  Program.Ensures S p.run s (either Q E)

/-- What is ensured may be weakened. -/
lemma Ensures.mono {p : Pass α} (h : Ensures S p s Q E) (hQ : ∀ a t, Q a t → R a t)
    (hE : ∀ e t, E e t → F e t) : Ensures S p s R F := by
  refine Program.Ensures.mono h ?_
  rintro (e | a) t hResult
  · exact hE e t hResult
  · exact hQ a t hResult

/-- What is ensured of values may be weakened. -/
lemma Ensures.imp {p : Pass α} (h : Ensures S p s Q E) (hQ : ∀ a t, Q a t → R a t) :
    Ensures S p s R E :=
  h.mono hQ fun _ _ hE => hE

/-- However a part of a pass ends, nothing is asked of it. -/
lemma ensures_true (p : Pass α) : Ensures S p s (fun _ _ => True) fun _ _ => True := by
  rintro trace (e | a) t - <;> trivial

/-! ## Composition -/

/-- A value ensures what holds of it now. -/
@[simp] lemma ensures_pure_iff {a : α} : Ensures S (pure a) s Q E ↔ Q a s :=
  Program.ensures_done_iff

/-- An error ensures what holds of it now. -/
@[simp] lemma ensures_throw_iff {e : Error} : Ensures S (throw e : Pass α) s Q E ↔ E e s :=
  Program.ensures_done_iff

/-- A sequence ensures what its second part ensures wherever the first part may end with a value. -/
@[simp] theorem ensures_bind_iff {p : Pass β} {f : β → Pass α} :
    Ensures S (p >>= f) s Q E ↔ Ensures S p s (fun b t => Ensures S (f b) t Q E) E := by
  unfold Ensures
  rw [ExceptT.run_bind, Program.ensures_bind_iff]
  constructor
  · intro h
    refine h.mono ?_
    rintro (e | b) t hRest
    · exact (ensures_throw_iff (Q := Q)).1 hRest
    · exact hRest
  · intro h
    refine h.mono ?_
    rintro (e | b) t hRest
    · exact (ensures_throw_iff (Q := Q)).2 hRest
    · exact hRest

/-- A sequence ensures what its second part ensures after whatever the first part ensures. -/
lemma Ensures.bind {p : Pass β} {f : β → Pass α} {P : β → σ → Prop} (hp : Ensures S p s P E)
    (hf : ∀ b t, P b t → Ensures S (f b) t Q E) : Ensures S (p >>= f) s Q E :=
  ensures_bind_iff.2 (hp.imp hf)

/-- A function of the value of a part. -/
@[simp] lemma ensures_map_iff {p : Pass β} {f : β → α} :
    Ensures S (f <$> p) s Q E ↔ Ensures S p s (fun b => Q (f b)) E := by
  rw [map_eq_pure_bind, ensures_bind_iff]
  simp only [ensures_pure_iff]

/-- A choice between two parts. -/
@[simp] lemma ensures_ite_iff {c : Prop} [Decidable c] {p q : Pass α} :
    Ensures S (if c then p else q) s Q E ↔ (c → Ensures S p s Q E) ∧ (¬c → Ensures S q s Q E) := by
  by_cases hc : c
  · rw [if_pos hc]
    exact ⟨fun h => ⟨fun _ => h, fun hNot => absurd hc hNot⟩, fun h => h.1 hc⟩
  · rw [if_neg hc]
    exact ⟨fun h => ⟨fun hYes => absurd hYes hc, fun _ => h⟩, fun h => h.2 hc⟩

/-- A program of calls has no error of its own. -/
@[simp] lemma ensures_lift_iff {p : Program Pass.interface α} :
    Ensures S (liftM p : Pass α) s Q E ↔ p.Ensures S s Q := by
  change Program.Ensures S (ExceptT.run (ExceptT.lift p)) s _ ↔ _
  rw [ExceptT.run_lift, map_eq_pure_bind, Program.ensures_bind_iff]
  simp only [Program.pure_eq_done, Program.ensures_done_iff, either_ok]

/-- An attempt has no error of its own. -/
@[simp] lemma ensures_attempt_iff {p : Pass α} {Q : Except Error α → σ → Prop} :
    Ensures S (Pass.attempt p) s Q E ↔ Ensures S p s (fun a => Q (.ok a)) fun e =>
      Q (.error e) := by
  refine ensures_lift_iff.trans ⟨fun h => ?_, fun h => ?_⟩
  · refine Program.Ensures.mono h ?_
    rintro (e | a) t hResult <;> exact hResult
  · refine Program.Ensures.mono h ?_
    rintro (e | a) t hResult <;> exact hResult

/-- A result that is known ensures what holds of it now. -/
@[simp] lemma ensures_liftExcept_iff {x : Except Error α} :
    Ensures S (liftM x : Pass α) s Q E ↔ either Q E x s := by
  cases x with
  | ok a => exact ensures_pure_iff
  | error e => exact ensures_throw_iff (α := α)

/-! ## Calls -/

/-- What reading the stored resource ensures. -/
@[simp] lemma ensures_fetch_iff {key : Key} {Q : Option (Resource k) → σ → Prop} :
    Ensures S (Pass.fetch k key) s Q E ↔
      (∀ found t, S (.store (.get k key)) (.ok found) s t → Q found t) ∧
        ∀ e t, S (.store (.get k key)) (.error e) s t → E e t :=
  Program.ensures_call_iff.trans forall_answer_iff

/-- What writing metadata and spec ensures. -/
@[simp] lemma ensures_update_iff {r : Resource k} {Q : Resource k → σ → Prop} :
    Ensures S (Pass.update r) s Q E ↔
      (∀ stored t, S (.store (.update k r)) (.ok stored) s t → Q stored t) ∧
        ∀ e t, S (.store (.update k r)) (.error e) s t → E e t :=
  Program.ensures_call_iff.trans forall_answer_iff

/-- What writing the status ensures. -/
@[simp] lemma ensures_updateStatus_iff {r : Resource k} {Q : Resource k → σ → Prop} :
    Ensures S (Pass.updateStatus r) s Q E ↔
      (∀ stored t, S (.store (.updateStatus k r)) (.ok stored) s t → Q stored t) ∧
        ∀ e t, S (.store (.updateStatus k r)) (.error e) s t → E e t :=
  Program.ensures_call_iff.trans forall_answer_iff

/-- What opening the account ensures. -/
@[simp] lemma ensures_openAccount_iff {ns : String} {Q : Session → σ → Prop} :
    Ensures S (Pass.openAccount ns) s Q E ↔
      (∀ session t, S (.openAccount ns) (.ok session) s t → Q session t) ∧
        ∀ e t, S (.openAccount ns) (.error e) s t → E e t :=
  Program.ensures_call_iff.trans forall_answer_iff

/-- What looking up a declared group ensures. -/
@[simp] lemma ensures_lookUpGroup_iff {ns name : String}
    {Q : Option (Resource .accessGroup) → σ → Prop} :
    Ensures S (Pass.lookUpGroup ns name) s Q E ↔
      (∀ found t, S (.reference (.accessGroup ns name)) (.ok found) s t → Q found t) ∧
        ∀ e t, S (.reference (.accessGroup ns name)) (.error e) s t → E e t :=
  Program.ensures_call_iff.trans forall_answer_iff

/-- What looking up a declared role ensures. -/
@[simp] lemma ensures_lookUpRole_iff {ns name : String}
    {Q : Option (Resource .customRole) → σ → Prop} :
    Ensures S (Pass.lookUpRole ns name) s Q E ↔
      (∀ found t, S (.reference (.customRole ns name)) (.ok found) s t → Q found t) ∧
        ∀ e t, S (.reference (.customRole ns name)) (.error e) s t → E e t :=
  Program.ensures_call_iff.trans forall_answer_iff

/-- What a call of the remote service ensures where its failure is no error of the pass. -/
@[simp] lemma ensures_directory_iff {c : Directory.Call} {Q : c.Answer → σ → Prop} :
    Program.Ensures S (Pass.directory c) s Q ↔ ∀ answer t, S (.directory c) answer s t →
      Q answer t :=
  Program.ensures_call_iff

/-- What a call of the remote service ensures as a step of a pass. -/
@[simp] lemma ensures_remote_iff {operation : String} {c : Directory.Call}
    {Q : c.Value → σ → Prop} :
    Ensures S (Pass.remote operation c) s Q E ↔
      (∀ value t, S (.directory c) (.ok value) s t → Q value t) ∧
        ∀ e t, S (.directory c) (.error e) s t → E (.remote operation e) t := by
  unfold Ensures Pass.remote
  rw [ExceptT.run_mk, Program.ensures_bind_iff]
  simp only [Program.pure_eq_done, Program.ensures_done_iff, ensures_directory_iff]
  constructor
  · exact fun h => ⟨fun value => h (.ok value), fun e => h (.error e)⟩
  · rintro ⟨hOk, hError⟩ (e | value) t hAnswer
    · exact hError e t hAnswer
    · exact hOk value t hAnswer

/-- What a call of the remote service ensures as the first step of a part. -/
lemma ensures_remote_bind_iff {operation : String} {c : Directory.Call} {f : c.Value → Pass α} :
    Ensures S (Pass.remote operation c >>= f) s Q E ↔
      (∀ value t, S (.directory c) (.ok value) s t → Ensures S (f value) t Q E) ∧
        ∀ e t, S (.directory c) (.error e) s t → E (.remote operation e) t := by
  rw [ensures_bind_iff, ensures_remote_iff]

end Pass

end IamReconciler
