import IamReconciler.Json.Merge
import IamReconciler.Proofs.NameMap

/-!
# Merged fields

The fields of a merged object are known from the look-ups in both parts (`Json.get?_mergeFields`): a
field that the patch does not name is the old one, a null takes a field away, and any other value is
merged into the old one.
-/

namespace IamReconciler

namespace Json

/-- Merging keeps fields in order. -/
lemma sorted_mergeFields {target patch : List (String × Json)} (h : Entries.Sorted target) :
    Entries.Sorted (mergeFields target patch) := by
  induction patch generalizing target with
  | nil => exact h
  | cons entry rest ih =>
    rw [mergeFields]
    refine ih ?_
    rw [mergeField]
    split
    · exact Entries.sorted_erase h
    · exact Entries.sorted_insert h

/-- The value of a field after a patch that names each field once. -/
theorem get?_mergeFields {target patch : List (String × Json)} (hOnce : (patch.map Prod.fst).Nodup)
    (name : String) :
    Entries.get? name (mergeFields target patch) =
      match Entries.get? name patch with
      | none => Entries.get? name target
      | some value =>
        if value.isNull then none
        else some (merge ((Entries.get? name target).getD .null) value) := by
  induction patch generalizing target with
  | nil => rfl
  | cons entry rest ih =>
    obtain ⟨hFirst, hRest⟩ := List.nodup_cons.1 hOnce
    have hField : Entries.get? name (mergeField target entry) = if entry.1 = name then
        (if entry.2.isNull then
          none else some (merge ((Entries.get? name target).getD .null) entry.2))
        else Entries.get? name target := by
      rw [mergeField]
      split
      · rw [Entries.get?_erase]
      · rw [Entries.get?_insert]
        split
        · rename_i hEq
          rw [hEq]
        · rfl
    rw [mergeFields, ih hRest, hField, Entries.get?]
    -- a name is patched once, so that what its first entry leaves is not patched again
    by_cases hEq : entry.1 = name
    · rw [Entries.get?_eq_none fun other hMem hName =>
        hFirst (List.mem_map.2 ⟨other, hMem, hName.trans hEq.symm⟩)]
      simp only [if_pos hEq]
    · simp only [if_neg hEq]

end Json

end IamReconciler
