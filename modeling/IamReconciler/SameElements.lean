/-!
# Lists with the same elements

Lists whose order and repetitions carry no meaning are compared by their elements.
-/

namespace IamReconciler

variable {α : Type} [DecidableEq α]

/-- Each element of one list occurs in the other. -/
def sameElements (a b : List α) : Bool :=
  a.all b.contains && b.all a.contains

/-- Lists have the same elements exactly when they have the same members. -/
theorem sameElements_iff {a b : List α} : sameElements a b = true ↔ ∀ x, x ∈ a ↔ x ∈ b := by
  simp only [sameElements, Bool.and_eq_true, List.all_eq_true, List.contains_iff_mem]
  exact ⟨fun h x => ⟨h.1 x, h.2 x⟩, fun h => ⟨fun x => (h x).1, fun x => (h x).2⟩⟩

end IamReconciler
