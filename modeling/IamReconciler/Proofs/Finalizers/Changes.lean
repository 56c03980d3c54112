import IamReconciler.Proofs.Finalizers
import Mathlib.Data.Finset.Card
import Mathlib.Data.Finset.Dedup

/-!
# Finalizers through changes

Finalizers are read from metadata, changed and written back.  Through any changes they stand for the
set that the same changes make of what was listed (`toFinset_after`), and each change tells whether
it changed that set.

Their order is that of arrival.  What was listed counts as added in turn, so that a history begins
with the additions of the listed tokens; a token arrives with the addition that finds it absent and
after which it is never taken away (`Arrives`).  A token that is present has arrived at exactly one
moment, and tokens stand in the order of these moments (`standsFor_after`).
-/

namespace IamReconciler

namespace Finalizers

/-! ## Changes -/

/-- A change of finalizers. -/
inductive Change where
  /-- A token is added, which tells whether it was new. -/
  | add (token : String)
  /-- A token is removed, which tells whether it was present. -/
  | remove (token : String)
  /-- A token is left out, which tells nothing. -/
  | without (token : String)
  deriving DecidableEq

/-- What a change tells, and the finalizers after it. -/
def perform (f : Finalizers) : Change → Option Bool × Finalizers
  | .add token =>
    let (present, changed) := f.hasThenAdd token
    (some !present, changed)
  | .remove token =>
    let (present, changed) := f.hasThenErase token
    (some present, changed)
  | .without token => (none, f.erase token)

/-- The finalizers after changes in turn. -/
def after (f : Finalizers) (changes : List Change) : Finalizers :=
  changes.foldl (fun f change => (f.perform change).2) f

/-- What a change makes of a set. -/
def Change.onSet (s : Finset String) : Change → Finset String
  | .add token => insert token s
  | .remove token => s.erase token
  | .without token => s.erase token

/-- What changes make of a set in turn. -/
def setAfter (s : Finset String) (changes : List Change) : Finset String :=
  changes.foldl Change.onSet s

/-- A change takes a token away. -/
def Change.TakesAway (token : String) : Change → Prop
  | .add _ => False
  | .remove other => other = token
  | .without other => other = token

/-- A token arrives at a moment of a history when the change there adds it to a set that lacks it,
and no later change takes it away. -/
def Arrives (history : List Change) (token : String) (moment : Nat) : Prop :=
  ∃ before later, history = before ++ .add token :: later ∧ before.length = moment ∧
    token ∉ setAfter ∅ before ∧ ∀ change ∈ later, ¬change.TakesAway token

/-- A token arrives before another one. -/
def Precedes (history : List Change) (token other : String) : Prop :=
  ∃ moment next, Arrives history token moment ∧ Arrives history other next ∧ moment < next

variable {f : Finalizers} {s : Finset String} {history : List Change} {change : Change}
  {token other : String} {moment next : Nat}

/-! ## Sets -/

lemma after_concat (f : Finalizers) (changes : List Change) (change : Change) :
    f.after (changes ++ [change]) = ((f.after changes).perform change).2 := by
  rw [after, List.foldl_append]
  rfl

lemma setAfter_concat (s : Finset String) (changes : List Change) (change : Change) :
    setAfter s (changes ++ [change]) = change.onSet (setAfter s changes) := by
  rw [setAfter, List.foldl_append]
  rfl

/-- The tokens after an addition are a set with one more element. -/
lemma toFinset_add (f : Finalizers) (token : String) :
    (f.add token).tokens.toFinset = insert token f.tokens.toFinset := by
  by_cases hHas : f.has token
  · rw [add_of_has hHas, Finset.insert_eq_of_mem (List.mem_toFinset.2 (has_iff.1 hHas))]
  · rw [tokens_add_of_not_has hHas, List.toFinset_append]
    ext other
    simp

/-- The tokens after a removal are a set with one element less. -/
lemma toFinset_erase (f : Finalizers) (token : String) :
    (f.erase token).tokens.toFinset = f.tokens.toFinset.erase token := by
  ext other
  simp [tokens_erase, and_comm]

/-- The tokens after a change are what the change makes of the set of tokens. -/
lemma toFinset_perform (f : Finalizers) (change : Change) :
    (f.perform change).2.tokens.toFinset = change.onSet f.tokens.toFinset := by
  cases change with
  | add token => exact toFinset_add f token
  | remove token => exact toFinset_erase f token
  | without token => exact toFinset_erase f token

/-- The tokens after changes are what the changes make of the set of tokens. -/
theorem toFinset_after (f : Finalizers) (changes : List Change) :
    (f.after changes).tokens.toFinset = setAfter f.tokens.toFinset changes := by
  induction changes using List.reverseRecOn with
  | nil => rfl
  | append_singleton changes change ih => rw [after_concat, setAfter_concat, toFinset_perform, ih]

/-- The number of tokens is the number of elements of their set. -/
lemma size_eq_card (f : Finalizers) : f.size = f.tokens.toFinset.card :=
  (List.toFinset_card_of_nodup f.nodup).symm

/-- There is no token when the set of tokens is empty. -/
lemma isEmpty_iff : f.isEmpty ↔ f.tokens.toFinset = ∅ := by
  rw [isEmpty, List.isEmpty_iff, List.toFinset_eq_empty_iff]

/-- Adding a token tells whether that changes the set of tokens. -/
lemma add_tells (f : Finalizers) (token : String) :
    (f.perform (.add token)).1 =
      some (decide (insert token f.tokens.toFinset ≠ f.tokens.toFinset)) := by
  have hNew : (!f.has token) = decide (insert token f.tokens.toFinset ≠ f.tokens.toFinset) := by
    rw [Bool.eq_iff_iff, decide_eq_true_iff, Ne, Finset.insert_eq_self,
      List.mem_toFinset, ← has_iff, Bool.not_eq_true', Bool.not_eq_true]
  exact congrArg some hNew

/-- Removing a token tells whether that changes the set of tokens: the tokens that are left are
fewer when it does. -/
lemma remove_tells (f : Finalizers) (token : String) :
    (f.perform (.remove token)).1 =
      some (decide (f.tokens.toFinset.erase token ≠ f.tokens.toFinset)) := by
  have hFewer : ((f.erase token).size != f.size) =
      decide (f.tokens.toFinset.erase token ≠ f.tokens.toFinset) := by
    rw [Bool.eq_iff_iff, bne_iff_ne, decide_eq_true_iff, not_iff_not, size_eq_card,
      size_eq_card, toFinset_erase]
    constructor
    · intro hCard
      exact Finset.eq_of_subset_of_card_le (Finset.erase_subset _ _) hCard.ge
    · intro hSame
      rw [hSame]
  exact congrArg some hFewer

/-! ## Arrivals -/

/-- What is in a set after a change: what was there and is not taken away, and what is added. -/
lemma mem_onSet_iff :
    token ∈ change.onSet s ↔ token ∈ s ∧ ¬change.TakesAway token ∨ change = .add token := by
  cases change with
  | add other => simp [Change.onSet, Change.TakesAway, or_comm, eq_comm]
  | remove other => simp [Change.onSet, Change.TakesAway, and_comm, eq_comm]
  | without other => simp [Change.onSet, Change.TakesAway, and_comm, eq_comm]

/-- A token arrives within a history. -/
lemma Arrives.lt_length (h : Arrives history token moment) : moment < history.length := by
  obtain ⟨before, later, rfl, rfl, -, -⟩ := h
  simp

/-- After one more change the tokens that it does not take away have arrived when they did before,
and a token that it adds to a set that lacks it arrives with it. -/
lemma arrives_concat_iff :
    Arrives (history ++ [change]) token moment ↔
      Arrives history token moment ∧ ¬change.TakesAway token ∨
      change = .add token ∧ token ∉ setAfter ∅ history ∧ moment = history.length := by
  constructor
  · rintro ⟨before, later, hHistory, rfl, hAbsent, hStays⟩
    rcases List.eq_nil_or_concat later with rfl | ⟨later, last, rfl⟩
    · obtain ⟨rfl, hChange⟩ := List.append_inj' hHistory rfl
      exact .inr ⟨List.head_eq_of_cons_eq hChange, hAbsent, rfl⟩
    · rw [List.concat_eq_append] at hHistory hStays
      rw [← List.cons_append, ← List.append_assoc] at hHistory
      obtain ⟨rfl, hChange⟩ := List.append_inj' hHistory rfl
      obtain rfl := List.head_eq_of_cons_eq hChange
      refine .inl ⟨⟨before, later, rfl, rfl, hAbsent, fun c hMem => ?_⟩, ?_⟩
      · exact hStays c (List.mem_append_left _ hMem)
      · exact hStays change (List.mem_append_right _ List.mem_cons_self)
  · rintro (⟨⟨before, later, rfl, rfl, hAbsent, hStays⟩, hKept⟩ | ⟨rfl, hAbsent, rfl⟩)
    · refine ⟨before, later ++ [change], by simp, rfl, hAbsent, fun c hMem => ?_⟩
      rcases List.mem_append.1 hMem with hMem | hMem
      · exact hStays c hMem
      · exact List.mem_singleton.1 hMem ▸ hKept
    · exact ⟨history, [], rfl, rfl, hAbsent, nofun⟩

/-- A token is in the set that a history leaves when it has arrived. -/
lemma mem_setAfter_iff : token ∈ setAfter ∅ history ↔ ∃ moment, Arrives history token moment := by
  induction history using List.reverseRecOn with
  | nil =>
    refine ⟨nofun, ?_⟩
    rintro ⟨moment, hArrives⟩
    exact absurd hArrives.lt_length (Nat.not_lt_zero _)
  | append_singleton history change ih =>
    simp only [setAfter_concat, mem_onSet_iff, arrives_concat_iff, exists_or, exists_and_right,
      exists_and_left, ← ih, exists_eq, and_true]
    constructor
    · rintro (hKept | rfl)
      · exact .inl hKept
      · by_cases hOld : token ∈ setAfter ∅ history
        · exact .inl ⟨hOld, id⟩
        · exact .inr ⟨rfl, hOld⟩
    · rintro (hKept | ⟨hAdded, -⟩)
      · exact .inl hKept
      · exact .inr hAdded

/-- A token arrives at one moment only. -/
lemma Arrives.unique (h : Arrives history token moment) (hNext : Arrives history token next) :
    moment = next := by
  induction history using List.reverseRecOn with
  | nil => exact absurd h.lt_length (Nat.not_lt_zero _)
  | append_singleton history change ih =>
    rcases arrives_concat_iff.1 h with ⟨hOld, -⟩ | ⟨-, hAbsent, rfl⟩ <;>
      rcases arrives_concat_iff.1 hNext with ⟨hOldNext, -⟩ | ⟨-, hAbsentNext, rfl⟩
    · exact ih hOld hOldNext
    · exact absurd (mem_setAfter_iff.2 ⟨moment, hOld⟩) hAbsentNext
    · exact absurd (mem_setAfter_iff.2 ⟨next, hOldNext⟩) hAbsent
    · rfl

/-- Tokens that are not taken away keep their order. -/
lemma Precedes.concat (h : Precedes history token other) (hKept : ¬change.TakesAway token)
    (hOtherKept : ¬change.TakesAway other) : Precedes (history ++ [change]) token other := by
  obtain ⟨moment, next, hArrives, hOther, hLt⟩ := h
  exact ⟨moment, next, arrives_concat_iff.2 (.inl ⟨hArrives, hKept⟩),
    arrives_concat_iff.2 (.inl ⟨hOther, hOtherKept⟩), hLt⟩

/-! ## Order of tokens -/

/-- The tokens that a history leaves are those of its set. -/
lemma mem_tokens_after : token ∈ (empty.after history).tokens ↔ token ∈ setAfter ∅ history := by
  have hSet : (empty.after history).tokens.toFinset = setAfter ∅ history :=
    toFinset_after empty history
  rw [← hSet, List.mem_toFinset]

/-- Tokens without one that is taken away stand in the order of arrival when they did before. -/
lemma pairwise_filter_precedes {tokens : List String} (h : tokens.Pairwise (Precedes history))
    (hKept : ∀ kept, kept ≠ token → ¬change.TakesAway kept) :
    (tokens.filter (· ≠ token)).Pairwise (Precedes (history ++ [change])) := by
  refine (h.filter _).imp_of_mem fun {a b} hA hB hPrecedes => ?_
  have hAKept : a ≠ token := by simpa using (List.mem_filter.1 hA).2
  have hBKept : b ≠ token := by simpa using (List.mem_filter.1 hB).2
  exact hPrecedes.concat (hKept a hAKept) (hKept b hBKept)

/-- The tokens that a history leaves stand in the order of arrival. -/
lemma pairwise_precedes (history : List Change) : (empty.after history).tokens.Pairwise
    (Precedes history) := by
  induction history using List.reverseRecOn with
  | nil => exact List.Pairwise.nil
  | append_singleton history change ih =>
    rw [after_concat]
    cases change with
    | add token =>
      have hStill : (empty.after history).tokens.Pairwise (Precedes (history ++ [.add token])) :=
        ih.imp fun hPrecedes => hPrecedes.concat id id
      change ((empty.after history).add token).tokens.Pairwise _
      by_cases hHas : (empty.after history).has token
      · rwa [add_of_has hHas]
      · -- the new token arrives last, and so it stands at the end
        have hAbsent : token ∉ setAfter ∅ history := by
          rwa [← mem_tokens_after, ← has_iff]
        rw [tokens_add_of_not_has hHas, List.pairwise_append]
        refine ⟨hStill, List.pairwise_singleton _ _, fun old hOld new hNew => ?_⟩
        obtain rfl := List.mem_singleton.1 hNew
        obtain ⟨moment, hArrives⟩ := mem_setAfter_iff.1 (mem_tokens_after.1 hOld)
        exact ⟨moment, history.length, arrives_concat_iff.2 (.inl ⟨hArrives, id⟩),
          arrives_concat_iff.2 (.inr ⟨rfl, hAbsent, rfl⟩), hArrives.lt_length⟩
    | remove token => exact pairwise_filter_precedes ih fun _ => Ne.symm
    | without token => exact pairwise_filter_precedes ih fun _ => Ne.symm

/-! ## Histories -/

/-- Finalizers stand for a set, in the order in which its tokens arrived in a history. -/
structure StandsFor (f : Finalizers) (s : Finset String) (history : List Change) : Prop where
  /-- No token is there twice. -/
  nodup : f.tokens.Nodup
  /-- A token is present when it is in the set. -/
  has_iff : ∀ token, f.has token ↔ token ∈ s
  /-- The number of tokens is that of the set. -/
  size_eq : f.size = s.card
  /-- There is no token when the set is empty. -/
  isEmpty_iff : f.isEmpty ↔ s = ∅
  /-- An addition tells whether it changes the set. -/
  add_tells : ∀ token, (f.perform (.add token)).1 = some (decide (insert token s ≠ s))
  /-- A removal tells whether it changes the set. -/
  remove_tells : ∀ token, (f.perform (.remove token)).1 = some (decide (s.erase token ≠ s))
  /-- A token is present when it has arrived, which it has at one moment only. -/
  arrived_iff : ∀ token, f.has token ↔ ∃! moment, Arrives history token moment
  /-- The tokens stand in the order of arrival. -/
  inOrder : f.tokens.Pairwise (Precedes history)
  /-- Metadata lists the tokens in their order, and has no list when there is none. -/
  written : ∀ m : Metadata, m.withFinalizers f =
  { m with finalizers := if s = ∅ then none else some f.tokens }
  /-- The finalizers are read back from what was written. -/
  readBack : ∀ m : Metadata, (m.withFinalizers f).finalizerSet = f

/-- What is read of a list are the finalizers after the additions of its tokens. -/
lemma ofList?_eq_after (listed : Option (List String)) :
    ofList? listed = empty.after ((listed.getD []).map .add) := by
  rw [after, List.foldl_map]
  rfl

/-- Additions make a set of the tokens that are added. -/
lemma setAfter_map_add (tokens : List String) : setAfter ∅ (tokens.map .add) = tokens.toFinset := by
  have hTokens : (empty.after (tokens.map .add)).tokens = tokens.eraseDups :=
    (congrArg Finalizers.tokens (ofList?_eq_after (some tokens))).symm.trans
      (tokens_ofList? (some tokens))
  ext token
  rw [← mem_tokens_after, hTokens, List.mem_eraseDups, List.mem_toFinset]

/-- The finalizers after any history stand for the set that it leaves. -/
lemma standsFor_of_history (history : List Change) :
    (empty.after history).StandsFor (setAfter ∅ history) history := by
  have hSet : (empty.after history).tokens.toFinset = setAfter ∅ history :=
    toFinset_after empty history
  have hHas : ∀ token, (empty.after history).has token ↔ token ∈ setAfter ∅ history :=
    fun token => has_iff.trans mem_tokens_after
  have hEmpty : (empty.after history).isEmpty ↔ setAfter ∅ history = ∅ := by
    rw [isEmpty_iff, hSet]
  constructor
  case nodup => exact (empty.after history).nodup
  case has_iff => exact hHas
  case size_eq => rw [size_eq_card, hSet]
  case isEmpty_iff => exact hEmpty
  case add_tells => exact fun token => hSet ▸ add_tells _ token
  case remove_tells => exact fun token => hSet ▸ remove_tells _ token
  case arrived_iff =>
    intro token
    rw [hHas, mem_setAfter_iff]
    exact ⟨fun ⟨moment, h⟩ => ⟨moment, h, fun _ hNext => hNext.unique h⟩, fun ⟨moment, h, _⟩ =>
      ⟨moment, h⟩⟩
  case inOrder => exact pairwise_precedes history
  case written =>
    intro m
    rw [Metadata.withFinalizers, toList?]
    by_cases hNone : setAfter ∅ history = ∅
    · rw [if_pos (hEmpty.2 hNone), if_pos hNone]
    · rw [if_neg (mt hEmpty.1 hNone), if_neg hNone]
  case readBack => exact fun m => ofList?_toList? _

/-- **Finalizers are a faithful ordered set.**  Whatever metadata lists and however the finalizers
that are read of it are changed, they stand for the set that the same changes make of the listed
tokens; their order is that of the first occurrence of a token in the list or of its latest
addition; and they are written to metadata as they are and read back from there. -/
theorem standsFor_after (m : Metadata) (changes : List Change) :
    (m.finalizerSet.after changes).StandsFor (setAfter m.listed.toFinset changes)
      (m.listed.map .add ++ changes) := by
  have hRead : m.finalizerSet.after changes = empty.after (m.listed.map .add ++ changes) := by
    rw [Metadata.finalizerSet, ofList?_eq_after, after, after, after, List.foldl_append]
    rfl
  have hSet : setAfter m.listed.toFinset changes = setAfter ∅ (m.listed.map .add ++ changes) := by
    rw [← setAfter_map_add, setAfter, setAfter, setAfter, List.foldl_append]
  rw [hRead, hSet]
  exact standsFor_of_history _

/-- A token that is removed and added again stands last; adding one that is present does not move
it. -/
example : ((ofList? (some ["a", "b", "a", "c"])).after
    [.remove "a", .add "c", .add "a", .add "c", .without "b"]).tokens = ["c", "a"] := by
  decide

end Finalizers

end IamReconciler
