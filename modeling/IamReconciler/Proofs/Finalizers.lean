import Mathlib.Data.List.Induction
import IamReconciler.Proofs.Resource.Changes

/-!
# Finalizers as an ordered set

Metadata lists finalizers as it likes, with repetitions too.  What is read of such a list are the
first occurrences of its tokens, in their order (`Finalizers.tokens_ofList?`).  A token is added at
the end, and one that is removed leaves the others where they are.

What metadata lists after such a change is stated in full (`Metadata.withFinalizers_add`,
`Metadata.withFinalizers_erase`).  Finalizers of other controllers are kept, each at its first
occurrence, whatever happens to the one token.
-/

namespace IamReconciler

namespace Finalizers

/-! ## First occurrences -/

section

variable {α : Type} [DecidableEq α]

/-- An element after a list is a first occurrence unless the list has it. -/
lemma eraseDups_concat (l : List α) (a : α) :
    (l ++ [a]).eraseDups = if a ∈ l then l.eraseDups else l.eraseDups ++ [a] := by
  rw [List.eraseDups_append]
  by_cases hMem : a ∈ l
  · have hNone : [a].removeAll l = [] := by simp [List.removeAll, hMem]
    rw [if_pos hMem, hNone, List.eraseDups_nil, List.append_nil]
  · have hOne : [a].removeAll l = [a] := by simp [List.removeAll, hMem]
    rw [if_neg hMem, hOne, List.eraseDups_cons, List.filter_nil, List.eraseDups_nil]

/-- Leaving elements out keeps the first occurrences of the others. -/
lemma eraseDups_filter (p : α → Bool) (l : List α) :
    (l.filter p).eraseDups = l.eraseDups.filter p := by
  induction l using List.reverseRecOn with
  | nil => rfl
  | append_singleton l a ih =>
    rw [eraseDups_concat, List.filter_append]
    by_cases hKept : p a = true
    · have hMem : a ∈ l.filter p ↔ a ∈ l := by simp [hKept]
      rw [List.filter_cons_of_pos hKept, List.filter_nil, eraseDups_concat, ih]
      by_cases hOld : a ∈ l
      · rw [if_pos (hMem.2 hOld), if_pos hOld]
      · rw [if_neg (mt hMem.1 hOld), if_neg hOld, List.filter_append, List.filter_cons_of_pos hKept,
          List.filter_nil]
    · rw [List.filter_cons_of_neg hKept, List.filter_nil, List.append_nil, ih]
      by_cases hOld : a ∈ l
      · rw [if_pos hOld]
      · rw [if_neg hOld, List.filter_append, List.filter_cons_of_neg hKept, List.filter_nil,
          List.append_nil]

/-- First occurrences are all different. -/
lemma eraseDups_eraseDups (l : List α) : l.eraseDups.eraseDups = l.eraseDups := by
  induction l using List.reverseRecOn with
  | nil => rfl
  | append_singleton l a ih =>
    rw [eraseDups_concat]
    by_cases hOld : a ∈ l
    · rw [if_pos hOld, ih]
    · rw [if_neg hOld, eraseDups_concat, if_neg (mt List.mem_eraseDups.1 hOld), ih]

end

/-! ## Tokens -/

variable {f : Finalizers} {token other : String} {listed : Option (List String)}

/-- A token is present when it is one of the tokens. -/
lemma has_iff : f.has token ↔ token ∈ f.tokens :=
  List.contains_iff_mem

/-- A token that is present is not added again. -/
lemma add_of_has (hHas : f.has token) : f.add token = f := by
  unfold add
  rw [dif_pos (has_iff.1 hHas)]

/-- A new token is added at the end. -/
lemma tokens_add_of_not_has (hLacks : ¬f.has token) :
    (f.add token).tokens = f.tokens ++ [token] := by
  unfold add
  rw [dif_neg (mt has_iff.2 hLacks)]

/-- Removing a token leaves the others as they are. -/
lemma tokens_erase : (f.erase token).tokens = f.tokens.filter (· ≠ token) := rfl

/-- What is read of a list are the first occurrences of its tokens. -/
theorem tokens_ofList? (listed : Option (List String)) :
    (ofList? listed).tokens = (listed.getD []).eraseDups := by
  unfold ofList?
  generalize listed.getD [] = tokens
  induction tokens using List.reverseRecOn with
  | nil => rfl
  | append_singleton tokens token ih =>
    rw [List.foldl_append, List.foldl_cons, List.foldl_nil, eraseDups_concat]
    by_cases hMem : token ∈ tokens
    · have hHas : (tokens.foldl add empty).has token := has_iff.2 (ih ▸ List.mem_eraseDups.2 hMem)
      rw [if_pos hMem, add_of_has hHas, ih]
    · have hLacks : ¬(tokens.foldl add empty).has token := by
        rw [has_iff, ih, List.mem_eraseDups]
        exact hMem
      rw [if_neg hMem, tokens_add_of_not_has hLacks, ih]

/-- A token is read when it is listed. -/
lemma has_ofList? : (ofList? listed).has token ↔ token ∈ listed.getD [] := by
  rw [has_iff, tokens_ofList?, List.mem_eraseDups]

end Finalizers

/-! ## Metadata -/

namespace Metadata

variable {m : Metadata} {token : String}

/-- The finalizers that metadata lists, as they stand there. -/
def listed (m : Metadata) : List String :=
  m.finalizers.getD []

/-- The finalizers that metadata lists besides a token. -/
def listedBesides (m : Metadata) (token : String) : List String :=
  m.listed.filter (· ≠ token)

/-- A finalizer is present when it is listed. -/
lemma has_finalizerSet_iff : m.finalizerSet.has token ↔ token ∈ m.listed :=
  Finalizers.has_ofList?

/-- A token that was not listed is listed after the first occurrences of the others. -/
theorem withFinalizers_add (hLacks : token ∉ m.listed) :
    m.withFinalizers (m.finalizerSet.add token) =
      { m with finalizers := some (m.listed.eraseDups ++ [token]) } := by
  have hNew : ¬m.finalizerSet.has token := mt has_finalizerSet_iff.1 hLacks
  have hTokens : (m.finalizerSet.add token).tokens = m.listed.eraseDups ++ [token] := by
    rw [Finalizers.tokens_add_of_not_has hNew, finalizerSet, Finalizers.tokens_ofList?, listed]
  have hFull : (m.finalizerSet.add token).isEmpty = false :=
    Finalizers.isEmpty_of_has (Finalizers.has_add _ _)
  rw [withFinalizers, Finalizers.toList?, hFull, if_neg Bool.false_ne_true, hTokens]

/-- A token that is removed leaves the first occurrences of the others, and no list when there is
none. -/
theorem withFinalizers_erase (m : Metadata) (token : String) :
    m.withFinalizers (m.finalizerSet.erase token) =
      { m with
        finalizers :=
          if (m.listedBesides token).isEmpty then
            none else some (m.listedBesides token).eraseDups } := by
  have hTokens : (m.finalizerSet.erase token).tokens = (m.listedBesides token).eraseDups := by
    rw [Finalizers.tokens_erase, finalizerSet, Finalizers.tokens_ofList?, listedBesides,
      Finalizers.eraseDups_filter, listed]
  have hEmpty : (m.finalizerSet.erase token).isEmpty = (m.listedBesides token).isEmpty := by
    rw [Finalizers.isEmpty, hTokens]
    cases m.listedBesides token with
    | nil => rfl
    | cons => rw [List.eraseDups_cons, List.isEmpty_cons, List.isEmpty_cons]
  rw [withFinalizers, Finalizers.toList?, hEmpty, hTokens]

end Metadata

end IamReconciler
