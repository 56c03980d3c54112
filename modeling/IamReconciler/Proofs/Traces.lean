import Mathlib.Data.List.Induction
import IamReconciler.Proofs.Histories
import IamReconciler.Proofs.Passes

/-!
# Traces of parts of passes

Which traces a program has is a question about the program alone when every call may be answered in
every way.  Where a trace leads is a question about the surroundings alone.  A run is both: a trace
of the program and a path of the surroundings along it (`Program.runs_iff`).  What the calls of a
pass are, and in which order, is therefore stated of traces, and what becomes of the store and of
the service is stated of paths.

For each way in which parts of a pass are put together, and for each call of a pass, there is one
statement that says which traces there are and with which results.  A part heeds a rule when all its
traces are in turn by it (`Pass.Heeds`); this composes when the rule stays satisfied after more
exchanges.
-/

namespace IamReconciler

/-! ## Paths of surroundings -/

namespace Surroundings

variable {I : Interface} {σ : Type} {S : Surroundings I σ}

/-- Surroundings may move from one state to another along exchanges. -/
inductive Path (S : Surroundings I σ) : σ → List (Exchange I) → σ → Prop where
  | nil (s : σ) : Path S s [] s
  | cons {y : Exchange I} {rest : List (Exchange I)} {s t u : σ} (hStep : S y.call y.answer s t)
      (hRest : Path S t rest u) : Path S s (y :: rest) u

/-- Without exchanges nothing moves. -/
lemma path_nil_iff {s t : σ} : S.Path s [] t ↔ t = s := by
  constructor
  · rintro ⟨⟩
    rfl
  · rintro rfl
    exact .nil t

/-- A path starts with its first exchange. -/
lemma path_cons_iff {y : Exchange I} {rest : List (Exchange I)} {s u : σ} :
    S.Path s (y :: rest) u ↔ ∃ t, S y.call y.answer s t ∧ S.Path t rest u := by
  constructor
  · rintro ⟨⟩
    exact ⟨_, ‹_›, ‹_›⟩
  · rintro ⟨t, hStep, hRest⟩
    exact .cons hStep hRest

/-- A path splits where its exchanges do. -/
lemma path_append_iff {h rest : List (Exchange I)} {s u : σ} :
    S.Path s (h ++ rest) u ↔ ∃ t, S.Path s h t ∧ S.Path t rest u := by
  induction h generalizing s with
  | nil =>
    constructor
    · exact fun hRest => ⟨s, .nil s, hRest⟩
    · rintro ⟨t, hNone, hRest⟩
      rwa [path_nil_iff.1 hNone] at hRest
  | cons y h ih =>
    rw [List.cons_append, path_cons_iff]
    constructor
    · rintro ⟨t, hStep, hPath⟩
      obtain ⟨v, hFirst, hRest⟩ := ih.1 hPath
      exact ⟨v, .cons hStep hFirst, hRest⟩
    · rintro ⟨v, hPath, hRest⟩
      obtain ⟨t, hStep, hFirst⟩ := path_cons_iff.1 hPath
      exact ⟨t, hStep, ih.2 ⟨v, hFirst, hRest⟩⟩

/-- A path ends with its last exchange. -/
lemma path_concat_iff {h : List (Exchange I)} {y : Exchange I} {s u : σ} :
    S.Path s (h ++ [y]) u ↔ ∃ t, S.Path s h t ∧ S y.call y.answer t u := by
  rw [path_append_iff]
  refine exists_congr fun t => and_congr_right fun _ => ?_
  rw [path_cons_iff]
  constructor
  · rintro ⟨v, hStep, hNone⟩
    rwa [path_nil_iff.1 hNone]
  · exact fun hStep => ⟨u, hStep, .nil u⟩

/-- A path of surroundings is one of any that allow more. -/
lemma Path.mono {S' : Surroundings I σ} {h : List (Exchange I)} {s t : σ} (hPath : S.Path s h t)
    (hMono : ∀ c answer u v, S c answer u v → S' c answer u v) : S'.Path s h t := by
  induction hPath with
  | nil s => exact .nil s
  | cons hStep _ ih => exact .cons (hMono _ _ _ _ hStep) ih

/-- What all exchanges of a path keep, the path keeps. -/
lemma Path.keeps {J : σ → Prop} {h : List (Exchange I)} {s t : σ} (hPath : S.Path s h t)
    (hStep : ∀ y ∈ h, ∀ u v, S y.call y.answer u v → J u → J v) (hJ : J s) : J t := by
  induction hPath with
  | nil => exact hJ
  | cons hFirst _ ih =>
    obtain ⟨hHead, hTail⟩ := List.forall_mem_cons.1 hStep
    exact ih hTail (hHead _ _ hFirst hJ)

/-- What each exchange of a path keeps, given that it is in turn, the path keeps. -/
lemma Path.inTurn {R : List (Exchange I) → Exchange I → Prop} {J : List (Exchange I) → σ → Prop}
    {h : List (Exchange I)} {s t : σ} (hPath : S.Path s h t) (hTurn : InTurn R h)
    (hStep : ∀ before y u v, S.Path s before u → S y.call y.answer u v → R before y → J before u →
      J (before ++ [y]) v)
    (hJ : J [] s) : J h t := by
  induction h using List.reverseRecOn generalizing t with
  | nil =>
    obtain rfl := path_nil_iff.1 hPath
    exact hJ
  | append_singleton before y ih =>
    obtain ⟨u, hBefore, hLast⟩ := path_concat_iff.1 hPath
    obtain ⟨hTurn, hy⟩ := inTurn_concat_iff.1 hTurn
    exact hStep before y u t hBefore hLast hy (ih hBefore hTurn)

end Surroundings

namespace Program

variable {I : Interface} {α β σ : Type} {S : Surroundings I σ}

/-! ## Traces of programs -/

/-- A program has a trace and ends with a value when every call may be answered in every way. -/
def Traces (p : Program I α) (h : List (Exchange I)) (a : α) : Prop :=
  p.Runs (.free I) () h a ()

/-- A run is a trace of the program and a path of the surroundings. -/
theorem runs_iff {p : Program I α} {s t : σ} {h : List (Exchange I)} {a : α} :
    p.Runs S s h a t ↔ p.Traces h a ∧ S.Path s h t := by
  constructor
  · intro hRun
    induction hRun with
    | done a s => exact ⟨.done a (), .nil s⟩
    | ask hAnswer _ ih => exact ⟨.answered _ ih.1, .cons hAnswer ih.2⟩
  · rintro ⟨hTrace, hPath⟩
    induction p generalizing s h with
    | done b =>
      obtain ⟨rfl, rfl, -⟩ := runs_done_iff.1 hTrace
      obtain rfl := Surroundings.path_nil_iff.1 hPath
      exact .done a t
    | ask c next ih =>
      obtain ⟨answer, _, rest, -, hRest, rfl⟩ := runs_ask_iff.1 hTrace
      obtain ⟨u, hStep, hPath⟩ := Surroundings.path_cons_iff.1 hPath
      exact .ask hStep (ih answer hRest hPath)

/-- A program that has finished has the trace without exchanges. -/
lemma traces_done_iff {a b : α} {h : List (Exchange I)} :
    (Program.done a : Program I α).Traces h b ↔ h = [] ∧ b = a :=
  runs_done_iff.trans (and_congr_right fun _ => and_iff_left rfl)

/-- A trace of a sequence is one of its first part followed by one of its second. -/
lemma traces_bind_iff {p : Program I α} {f : α → Program I β} {h : List (Exchange I)} {b : β} :
    (p >>= f).Traces h b ↔ ∃ first a rest, p.Traces first a ∧ (f a).Traces rest b ∧
    h = first ++ rest :=
  runs_bind_iff.trans
    ⟨fun ⟨first, a, _, rest, h⟩ => ⟨first, a, rest, h⟩, fun ⟨first, a, rest, h⟩ =>
      ⟨first, a, (), rest, h⟩⟩

/-- The trace of a single call is its exchange. -/
lemma traces_call_iff {c : I.Call} {h : List (Exchange I)} {answer : I.Answer c} :
    (Program.call c).Traces h answer ↔ h = [⟨c, answer⟩] := by
  constructor
  · intro hTrace
    obtain ⟨given, _, rest, -, hRest, rfl⟩ := runs_ask_iff.1 hTrace
    obtain ⟨rfl, rfl, -⟩ := runs_done_iff.1 hRest
    rfl
  · rintro rfl
    exact .answered answer (.done answer ())

end Program

namespace Pass

variable {α β : Type} {k : Kind} {h : List (Exchange Pass.interface)} {x : Except Error α}

/-! ## Traces of parts -/

/-- A part of a pass has a trace and ends with a result when every call may be answered in every
way. -/
def Traces (p : Pass α) (h : List (Exchange Pass.interface)) (x : Except Error α) : Prop :=
  Program.Traces p.run h x

/-- A value has no exchanges. -/
lemma traces_pure_iff {a : α} : Traces (pure a) h x ↔ h = [] ∧ x = .ok a :=
  Program.traces_done_iff

/-- An error has no exchanges. -/
lemma traces_throw_iff {e : Error} : Traces (throw e : Pass α) h x ↔ h = [] ∧ x = .error e :=
  Program.traces_done_iff

/-- A sequence ends with the error of its first part, or it goes on with the second one. -/
lemma traces_bind_iff {p : Pass β} {f : β → Pass α} :
    Traces (p >>= f) h x ↔
      (∃ e, Traces p h (.error e) ∧ x = .error e) ∨
        ∃ first b rest, Traces p first (.ok b) ∧ Traces (f b) rest x ∧ h = first ++ rest := by
  unfold Traces
  rw [ExceptT.run_bind, Program.traces_bind_iff]
  constructor
  · rintro ⟨first, e | b, rest, hFirst, hRest, rfl⟩
    · obtain ⟨rfl, rfl⟩ := traces_throw_iff.1 hRest
      rw [List.append_nil]
      exact .inl ⟨e, hFirst, rfl⟩
    · exact .inr ⟨first, b, rest, hFirst, hRest, rfl⟩
  · rintro (⟨e, hFirst, rfl⟩ | ⟨first, b, rest, hFirst, hRest, rfl⟩)
    · exact ⟨h, .error e, [], hFirst, traces_throw_iff.2 ⟨rfl, rfl⟩, (List.append_nil h).symm⟩
    · exact ⟨first, .ok b, rest, hFirst, hRest, rfl⟩

/-- A sequence ends with a value when both parts do. -/
lemma traces_bind_ok_iff {p : Pass β} {f : β → Pass α} {a : α} :
    Traces (p >>= f) h (.ok a) ↔
      ∃ first b rest, Traces p first (.ok b) ∧ Traces (f b) rest (.ok a) ∧ h = first ++ rest := by
  rw [traces_bind_iff]
  refine or_iff_right ?_
  rintro ⟨e, -, hError⟩
  cases hError

/-- A sequence ends with an error when its first part does, or when its second part does after a
value. -/
lemma traces_bind_error_iff {p : Pass β} {f : β → Pass α} {e : Error} :
    Traces (p >>= f) h (.error e) ↔ Traces p h (.error e) ∨
      ∃ first b rest, Traces p first (.ok b) ∧ Traces (f b) rest (.error e) ∧
      h = first ++ rest := by
  rw [traces_bind_iff]
  refine or_congr_left ⟨?_, fun hTrace => ⟨e, hTrace, rfl⟩⟩
  rintro ⟨e', hTrace, hError⟩
  cases hError
  exact hTrace

/-- A function of the value of a part has the traces of the part. -/
lemma traces_map_iff {p : Pass β} {f : β → α} :
    Traces (f <$> p) h x ↔ ∃ y, Traces p h y ∧ x = y.map f := by
  rw [map_eq_pure_bind, traces_bind_iff]
  constructor
  · rintro (⟨e, hTrace, rfl⟩ | ⟨first, b, rest, hTrace, hPure, rfl⟩)
    · exact ⟨.error e, hTrace, rfl⟩
    · obtain ⟨rfl, rfl⟩ := traces_pure_iff.1 hPure
      rw [List.append_nil]
      exact ⟨.ok b, hTrace, rfl⟩
  · rintro ⟨e | b, hTrace, rfl⟩
    · exact .inl ⟨e, hTrace, rfl⟩
    · exact .inr ⟨h, b, [], hTrace, traces_pure_iff.2 ⟨rfl, rfl⟩, (List.append_nil h).symm⟩

/-- A choice between two parts has the traces of the one that is chosen. -/
lemma traces_ite_iff {c : Prop} [Decidable c] {p q : Pass α} :
    Traces (if c then p else q) h x ↔ c ∧ Traces p h x ∨ ¬c ∧ Traces q h x := by
  by_cases hc : c
  · rw [if_pos hc]
    exact ⟨fun hTrace => .inl ⟨hc, hTrace⟩, fun hEither => hEither.elim And.right fun hNot =>
      absurd hc hNot.1⟩
  · rw [if_neg hc]
    exact ⟨fun hTrace => .inr ⟨hc, hTrace⟩, fun hEither =>
      hEither.elim (fun hYes => absurd hYes.1 hc) And.right⟩

/-- A program of calls has no error of its own. -/
lemma traces_lift_iff {p : Program Pass.interface α} :
    Traces (liftM p : Pass α) h x ↔ ∃ a, p.Traces h a ∧ x = .ok a := by
  change Program.Traces (ExceptT.run (ExceptT.lift p)) h x ↔ _
  rw [ExceptT.run_lift, map_eq_pure_bind, Program.traces_bind_iff]
  constructor
  · rintro ⟨first, a, rest, hFirst, hRest, rfl⟩
    obtain ⟨rfl, rfl⟩ := Program.traces_done_iff.1 hRest
    rw [List.append_nil]
    exact ⟨a, hFirst, rfl⟩
  · rintro ⟨a, hTrace, rfl⟩
    exact ⟨h, a, [], hTrace, Program.traces_done_iff.2 ⟨rfl, rfl⟩, (List.append_nil h).symm⟩

/-- What follows a program of calls goes on with its value. -/
lemma traces_lift_bind_iff {p : Program Pass.interface β} {f : β → Pass α} :
    Traces ((liftM p : Pass β) >>= f) h x ↔
      ∃ first b rest, p.Traces first b ∧ Traces (f b) rest x ∧ h = first ++ rest := by
  rw [traces_bind_iff]
  constructor
  · rintro (⟨e, hTrace, -⟩ | ⟨first, b, rest, hFirst, hRest, rfl⟩)
    · obtain ⟨b, -, hError⟩ := traces_lift_iff.1 hTrace
      cases hError
    · obtain ⟨b', hFirst, hValue⟩ := traces_lift_iff.1 hFirst
      cases hValue
      exact ⟨first, b, rest, hFirst, hRest, rfl⟩
  · rintro ⟨first, b, rest, hFirst, hRest, rfl⟩
    exact .inr ⟨first, b, rest, traces_lift_iff.2 ⟨b, hFirst, rfl⟩, hRest, rfl⟩

/-- What follows an attempt goes on with the result of what is attempted. -/
lemma traces_attempt_bind_iff {p : Pass β} {f : Except Error β → Pass α} :
    Traces (Pass.attempt p >>= f) h x ↔
      ∃ first y rest, Traces p first y ∧ Traces (f y) rest x ∧ h = first ++ rest :=
  traces_lift_bind_iff (p := p.run)

/-- A result that is known has no exchanges. -/
lemma traces_liftExcept_iff {y : Except Error α} :
    Traces (liftM y : Pass α) h x ↔ h = [] ∧ x = y := by
  cases y with
  | ok a => exact traces_pure_iff
  | error e => exact traces_throw_iff

/-! ## Calls -/

/-- The trace of reading the stored resource. -/
lemma traces_fetch_iff {key : Key} {x : Except Error (Option (Resource k))} :
    Traces (Pass.fetch k key) h x ↔ h = [⟨.store (.get k key), x⟩] :=
  Program.traces_call_iff

/-- The trace of writing metadata and spec. -/
lemma traces_update_iff {w : Resource k} {x : Except Error (Resource k)} :
    Traces (Pass.update w) h x ↔ h = [⟨.store (.update k w), x⟩] :=
  Program.traces_call_iff

/-- The trace of writing the status. -/
lemma traces_updateStatus_iff {w : Resource k} {x : Except Error (Resource k)} :
    Traces (Pass.updateStatus w) h x ↔ h = [⟨.store (.updateStatus k w), x⟩] :=
  Program.traces_call_iff

/-- The trace of opening the account. -/
lemma traces_openAccount_iff {ns : String} {x : Except Error Session} :
    Traces (Pass.openAccount ns) h x ↔ h = [⟨.openAccount ns, x⟩] :=
  Program.traces_call_iff

/-- The trace of looking up a declared group. -/
lemma traces_lookUpGroup_iff {ns name : String}
    {x : Except Error (Option (Resource .accessGroup))} :
    Traces (Pass.lookUpGroup ns name) h x ↔ h = [⟨.reference (.accessGroup ns name), x⟩] :=
  Program.traces_call_iff

/-- The trace of looking up a declared role. -/
lemma traces_lookUpRole_iff {ns name : String} {x : Except Error (Option (Resource .customRole))} :
    Traces (Pass.lookUpRole ns name) h x ↔ h = [⟨.reference (.customRole ns name), x⟩] :=
  Program.traces_call_iff

/-- The trace of a call of the remote service where its failure is no error of the pass. -/
lemma traces_directory_iff {c : Directory.Call} {answer : c.Answer} :
    Program.Traces (Pass.directory c) h answer ↔ h = [⟨.directory c, answer⟩] :=
  Program.traces_call_iff

/-- The trace of a call of the remote service as a step of a pass. -/
lemma traces_remote_iff {operation : String} {c : Directory.Call} {x : Except Error c.Value} :
    Traces (Pass.remote operation c) h x ↔
      ∃ answer, h = [⟨.directory c, answer⟩] ∧ x = answer.mapError (Error.remote operation) := by
  unfold Traces Pass.remote
  rw [ExceptT.run_mk, Program.traces_bind_iff]
  constructor
  · rintro ⟨first, answer, rest, hFirst, hRest, rfl⟩
    obtain rfl := traces_directory_iff.1 hFirst
    obtain ⟨rfl, rfl⟩ := Program.traces_done_iff.1 hRest
    exact ⟨answer, rfl, rfl⟩
  · rintro ⟨answer, rfl, rfl⟩
    exact ⟨_, answer, [], traces_directory_iff.2 rfl, Program.traces_done_iff.2 ⟨rfl, rfl⟩, rfl⟩

/-- A part that calls the remote service first fails with that call, or it goes on with its
value. -/
lemma traces_remote_bind_iff {operation : String} {c : Directory.Call} {f : c.Value → Pass α} :
    Traces (Pass.remote operation c >>= f) h x ↔
      (∃ e, h = [⟨.directory c, .error e⟩] ∧ x = .error (.remote operation e)) ∨
        ∃ v rest, Traces (f v) rest x ∧ h = ⟨.directory c, .ok v⟩ :: rest := by
  rw [traces_bind_iff]
  constructor
  · rintro (⟨e, hFirst, rfl⟩ | ⟨first, v, rest, hFirst, hRest, rfl⟩)
    · obtain ⟨e' | v, rfl, hError⟩ := traces_remote_iff.1 hFirst
      · cases hError
        exact .inl ⟨e', rfl, rfl⟩
      · cases hError
    · obtain ⟨e | v', rfl, hValue⟩ := traces_remote_iff.1 hFirst
      · cases hValue
      · cases hValue
        exact .inr ⟨v, rest, hRest, rfl⟩
  · rintro (⟨e, rfl, rfl⟩ | ⟨v, rest, hRest, rfl⟩)
    · exact .inl ⟨.remote operation e, traces_remote_iff.2 ⟨.error e, rfl, rfl⟩, rfl⟩
    · exact .inr ⟨_, v, rest, traces_remote_iff.2 ⟨.ok v, rfl, rfl⟩, hRest, rfl⟩

/-- What a part of a pass ensures of its value holds where a trace with that value leads. -/
lemma Ensures.of_traces {σ : Type} {S : Surroundings Pass.interface σ} {s t : σ}
    {p : Pass α} {a : α}
    {Q : α → σ → Prop} {E : Error → σ → Prop} (hEnsures : Ensures S p s Q E)
    (hTrace : Traces p h (.ok a)) (hPath : S.Path s h t) : Q a t :=
  hEnsures h (.ok a) t (Program.runs_iff.2 ⟨hTrace, hPath⟩)

/-! ## Parts that heed a rule -/

/-- Each exchange of a trace of the part relates to those before it. -/
def Heeds (R : List (Exchange Pass.interface) → Exchange Pass.interface → Prop) (p : Pass α) :
    Prop :=
  ∀ h x, Traces p h x → InTurn R h

variable {R : List (Exchange Pass.interface) → Exchange Pass.interface → Prop}

/-- A value heeds every rule. -/
lemma heeds_pure (a : α) : Heeds R (pure a) := by
  intro h x hTrace
  rw [(traces_pure_iff.1 hTrace).1]
  exact inTurn_nil

/-- An error heeds every rule. -/
lemma heeds_throw (e : Error) : Heeds R (throw e : Pass α) := by
  intro h x hTrace
  rw [(traces_throw_iff.1 hTrace).1]
  exact inTurn_nil

/-- A result that is known heeds every rule. -/
lemma heeds_liftExcept (y : Except Error α) : Heeds R (liftM y : Pass α) := by
  intro h x hTrace
  rw [(traces_liftExcept_iff.1 hTrace).1]
  exact inTurn_nil

/-- A call of the remote service heeds a rule that its exchange follows. -/
lemma heeds_remote {operation : String} {c : Directory.Call}
    (hc : ∀ answer, R [] ⟨.directory c, answer⟩) : Heeds R (Pass.remote operation c) := by
  intro h x hTrace
  obtain ⟨answer, rfl, -⟩ := traces_remote_iff.1 hTrace
  exact inTurn_singleton_iff.2 (hc answer)

/-- A look-up of a declared group heeds a rule that its exchange follows. -/
lemma heeds_lookUpGroup {ns name : String}
    (hc : ∀ answer, R [] ⟨.reference (.accessGroup ns name), answer⟩) :
    Heeds R (Pass.lookUpGroup ns name) := by
  intro h x hTrace
  rw [traces_lookUpGroup_iff.1 hTrace]
  exact inTurn_singleton_iff.2 (hc x)

/-- A look-up of a declared role heeds a rule that its exchange follows. -/
lemma heeds_lookUpRole {ns name : String}
    (hc : ∀ answer, R [] ⟨.reference (.customRole ns name), answer⟩) :
    Heeds R (Pass.lookUpRole ns name) := by
  intro h x hTrace
  rw [Program.traces_call_iff.1 hTrace]
  exact inTurn_singleton_iff.2 (hc x)

/-- A sequence heeds a lasting rule that its parts heed. -/
lemma Heeds.bind (hLasting : Lasting R) {p : Pass β} {f : β → Pass α} (hp : Heeds R p)
    (hf : ∀ b, Heeds R (f b)) : Heeds R (p >>= f) := by
  intro h x hTrace
  rcases traces_bind_iff.1 hTrace with ⟨e, hFirst, -⟩ | ⟨first, b, rest, hFirst, hRest, rfl⟩
  · exact hp h _ hFirst
  · exact (hp first _ hFirst).append hLasting (hf b rest x hRest)

/-- A function of the value of a part heeds what the part heeds. -/
lemma Heeds.map {p : Pass β} (hp : Heeds R p) (f : β → α) : Heeds R (f <$> p) := by
  intro h x hTrace
  obtain ⟨y, hTrace, -⟩ := traces_map_iff.1 hTrace
  exact hp h y hTrace

/-- What follows an attempt heeds a lasting rule that both heed. -/
lemma Heeds.attempt_bind (hLasting : Lasting R) {p : Pass β} {f : Except Error β → Pass α}
    (hp : Heeds R p) (hf : ∀ y, Heeds R (f y)) : Heeds R (Pass.attempt p >>= f) := by
  intro h x hTrace
  obtain ⟨first, y, rest, hFirst, hRest, rfl⟩ := traces_attempt_bind_iff.1 hTrace
  exact (hp first y hFirst).append hLasting (hf y rest x hRest)

/-- A part for each element of a list heeds a lasting rule that all these parts heed. -/
lemma Heeds.mapM (hLasting : Lasting R) {f : β → Pass α} {items : List β}
    (hf : ∀ b ∈ items, Heeds R (f b)) : Heeds R (items.mapM f) := by
  induction items with
  | nil => exact heeds_pure _
  | cons item rest ih =>
    obtain ⟨hItem, hRest⟩ := List.forall_mem_cons.1 hf
    rw [List.mapM_cons]
    exact hItem.bind hLasting fun _ => (ih hRest).bind hLasting fun _ => heeds_pure _

/-- A part for each element of a list heeds a lasting rule that all these parts heed. -/
lemma Heeds.forM (hLasting : Lasting R) {f : β → Pass PUnit} {items : List β}
    (hf : ∀ b ∈ items, Heeds R (f b)) : Heeds R (items.forM f) := by
  induction items with
  | nil => exact heeds_pure _
  | cons item rest ih =>
    obtain ⟨hItem, hRest⟩ := List.forall_mem_cons.1 hf
    exact hItem.bind hLasting fun _ => ih hRest

/-- What a part heeds may be weakened. -/
lemma Heeds.imp {R' : List (Exchange Pass.interface) → Exchange Pass.interface → Prop} {p : Pass α}
    (hp : Heeds R p) (hImp : ∀ before y, R before y → R' before y) : Heeds R' p :=
  fun h x hTrace => (hp h x hTrace).imp hImp

end Pass

end IamReconciler
