import IamReconciler.Proofs.Directory.Entities
import IamReconciler.Proofs.Runs

/-!
# Programs that only look

A program looks around in given surroundings when all calls that it makes there are of a harmless
sort, get an answer, and leave the state as it is.  These are only the calls that the answers lead
to: a program may look in one state and change something in another.

`Program.Looks` says this together with what the values satisfy.  Such a program has a run, and
every run of it ends in the state where it began (`Looks.exists_run`, `Looks.of_run`).  For parts of
a pass there is one statement for each way in which parts are put together.
-/

namespace IamReconciler

namespace Program

variable {I : Interface} {α β σ : Type} {S : Surroundings I σ} {P : I.Call → Prop} {s : σ}

/-- A program makes only calls of a property in a state; each is answered and leaves the state as it
is; and the value of the program has a property. -/
def Looks (S : Surroundings I σ) (P : I.Call → Prop) (s : σ) : Program I α → (α → Prop) → Prop
  | .done a, Q => Q a
  | .ask c next, Q =>
    P c ∧ (∃ answer, S c answer s s) ∧ ∀ answer t, S c answer s t → t = s ∧
      (next answer).Looks S P s Q

/-- What is known of the value may be weakened. -/
lemma Looks.mono {p : Program I α} {Q R : α → Prop} (h : p.Looks S P s Q) (hQR : ∀ a, Q a → R a) :
    p.Looks S P s R := by
  induction p with
  | done a => exact hQR a h
  | ask c next ih =>
    obtain ⟨hCall, hAnswered, hNext⟩ := h
    exact ⟨hCall, hAnswered, fun answer t hAnswer =>
      ⟨(hNext answer t hAnswer).1, ih answer (hNext answer t hAnswer).2⟩⟩

/-- A sequence looks around when its parts do. -/
lemma looks_bind_iff {p : Program I α} {f : α → Program I β} {Q : β → Prop} :
    (p >>= f).Looks S P s Q ↔ p.Looks S P s fun a => (f a).Looks S P s Q := by
  induction p with
  | done a => exact Iff.rfl
  | ask c next ih =>
    rw [ask_bind]
    refine and_congr_right fun _ => and_congr_right fun _ => ?_
    exact forall_congr' fun answer => forall_congr' fun t => imp_congr_right fun _ =>
      and_congr_right fun _ => ih answer

/-- A program that looks around has a run that ends where it began. -/
theorem Looks.exists_run {p : Program I α} {Q : α → Prop} (h : p.Looks S P s Q) :
    ∃ trace a, p.Runs S s trace a s := by
  induction p with
  | done a => exact ⟨[], a, .done a s⟩
  | ask c next ih =>
    obtain ⟨-, ⟨answer, hAnswer⟩, hNext⟩ := h
    obtain ⟨trace, a, hRest⟩ := ih answer (hNext answer s hAnswer).2
    exact ⟨⟨c, answer⟩ :: trace, a, .ask hAnswer hRest⟩

/-- Every run of a program that looks around ends where it began, with a value of the property and
harmless calls. -/
theorem Looks.of_run {p : Program I α} {Q : α → Prop} (h : p.Looks S P s Q)
    {trace : List (Exchange I)} {a : α} {t : σ} (hRun : p.Runs S s trace a t) :
    Q a ∧ t = s ∧ ∀ x ∈ trace, P x.call := by
  induction p generalizing trace with
  | done b =>
    obtain ⟨rfl, rfl, rfl⟩ := runs_done_iff.1 hRun
    exact ⟨h, rfl, fun x hx => absurd hx List.not_mem_nil⟩
  | ask c next ih =>
    obtain ⟨hCall, -, hNext⟩ := h
    obtain ⟨answer, u, rest, hAnswer, hRest, rfl⟩ := runs_ask_iff.1 hRun
    obtain ⟨rfl, hLooks⟩ := hNext answer u hAnswer
    obtain ⟨hQ, hSame, hCalls⟩ := ih answer hLooks hRest
    exact ⟨hQ, hSame, List.forall_mem_cons.2 ⟨hCall, hCalls⟩⟩

end Program

/-! ## Parts of passes -/

/-- The call looks something up and changes nothing. -/
def Pass.Call.looks : Pass.Call → Bool
  | .store (.get _ _) => true
  | .store _ => false
  | .openAccount _ => true
  | .reference _ => true
  | .directory c => c.isRead

namespace Pass

variable {α β σ : Type} {S : Surroundings Pass.interface σ} {s : σ} {Q R : α → Prop}
    {E F : Error → Prop}

/-- One property of a value and one of an error. -/
def ending (Q : α → Prop) (E : Error → Prop) : Except Error α → Prop
  | .ok a => Q a
  | .error e => E e

/-- A part of a pass looks around in a state, and ends with a value of `Q` or an error of `E`. -/
def Looks (S : Surroundings Pass.interface σ) (s : σ) (p : Pass α) (Q : α → Prop)
    (E : Error → Prop) : Prop :=
  Program.Looks S (fun c => c.looks) s p.run (ending Q E)

/-- What is known of values and errors may be weakened. -/
lemma Looks.mono {p : Pass α} (h : Looks S s p Q E) (hQ : ∀ a, Q a → R a) (hE : ∀ e, E e → F e) :
    Looks S s p R F := by
  refine Program.Looks.mono h ?_
  rintro (e | a) hResult
  · exact hE e hResult
  · exact hQ a hResult

/-- What is known of values may be weakened. -/
lemma Looks.imp {p : Pass α} (h : Looks S s p Q E) (hQ : ∀ a, Q a → R a) : Looks S s p R E :=
  h.mono hQ fun _ hE => hE

@[simp] lemma looks_pure_iff {a : α} : Looks S s (pure a) Q E ↔ Q a := Iff.rfl

/-- A sequence looks around when its parts do. -/
@[simp] lemma looks_bind_iff {p : Pass β} {f : β → Pass α} :
    Looks S s (p >>= f) Q E ↔ Looks S s p (fun b => Looks S s (f b) Q E) E := by
  unfold Looks
  rw [ExceptT.run_bind, Program.looks_bind_iff]
  constructor
  · intro h
    refine h.mono ?_
    rintro (e | b) hRest <;> exact hRest
  · intro h
    refine h.mono ?_
    rintro (e | b) hRest <;> exact hRest

/-- A sequence looks around when its second part does after whatever the first part may end with. -/
lemma Looks.bind {p : Pass β} {f : β → Pass α} {P : β → Prop} (hp : Looks S s p P E)
    (hf : ∀ b, P b → Looks S s (f b) Q E) : Looks S s (p >>= f) Q E :=
  looks_bind_iff.2 (hp.imp hf)

/-- An attempt ends with what is attempted. -/
@[simp] lemma looks_attempt_iff {p : Pass α} {Q : Except Error α → Prop} :
    Looks S s (Pass.attempt p) Q E ↔ Looks S s p (fun a => Q (.ok a)) fun e => Q (.error e) := by
  unfold Looks Pass.attempt
  rw [ExceptT.run_lift, map_eq_pure_bind, Program.looks_bind_iff]
  constructor
  · intro h
    refine h.mono ?_
    rintro (e | a) hResult <;> exact hResult
  · intro h
    refine h.mono ?_
    rintro (e | a) hResult <;> exact hResult

/-- A call looks around when it is harmless, is answered, and leaves the state as it is. -/
lemma looks_call {c : Pass.Call} {Q : c.Answer → Prop} (hLooks : c.looks)
    (hAnswered : ∃ answer, S c answer s s)
    (hAnswers : ∀ answer t, S c answer s t → t = s ∧ Q answer) :
    Program.Looks S (fun c => c.looks) s (Program.call (I := Pass.interface) c) Q :=
  ⟨hLooks, hAnswered, hAnswers⟩

/-- A call of the remote service looks around as a step of a pass. -/
lemma looks_remote {operation : String} {c : Directory.Call} {Q : c.Value → Prop} (hRead : c.isRead)
    (hAnswered : ∃ answer, S (.directory c) answer s s)
    (hValue : ∀ v t, S (.directory c) (.ok v) s t → t = s ∧ Q v)
    (hError : ∀ e t, S (.directory c) (.error e) s t → t = s ∧ E (.remote operation e)) :
    Looks S s (Pass.remote operation c) Q E := by
  unfold Looks Pass.remote
  rw [ExceptT.run_mk, Program.looks_bind_iff]
  refine looks_call hRead hAnswered ?_
  rintro (e | v) t hAnswer
  · exact hError e t hAnswer
  · exact hValue v t hAnswer

end Pass

end IamReconciler
