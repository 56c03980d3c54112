import IamReconciler.Attributes
import IamReconciler.Proofs.NameMap
import Mathlib.Data.List.Induction

/-!
# Look-ups in attributes

What a look-up finds after names were set.  Setting a name to an empty value changes nothing, so
that a name is bound to the last value that is not empty (`get?_set`).  When no name is given two
values, the attributes are the bindings that are not empty (`get?_ofList_eq_some_iff`), whatever
their order and however often each is set; otherwise the order shows (`oneValued_iff`).  Policies
set some names first and then one more, which is free (`get?_set_ofList_iff`).
-/

namespace IamReconciler

namespace Attributes

/-- Attributes with the same look-ups are equal. -/
lemma eq_of_get?_eq {a b : Attributes} (h : ∀ name, a.get? name = b.get? name) : a = b := by
  obtain ⟨m, _⟩ := a
  obtain ⟨n, _⟩ := b
  obtain rfl : m = n := NameMap.ext (Entries.eq_of_get?_eq m.sorted n.sorted h)
  rfl

/-- The value of a name after a name was set, unless it was set to an empty value. -/
theorem get?_set (a : Attributes) (name other value : String) :
    (a.set name value).get? other = if value ≠ "" ∧ name = other then
    some value else a.get? other := by
  unfold set
  split
  · rename_i hEmpty
    have hUnset : ¬(value ≠ "" ∧ name = other) := fun h => h.1 hEmpty
    rw [if_neg hUnset]
  · rename_i hValue
    have hInsert := Entries.get?_insert name other value a.map.entries
    by_cases hName : name = other
    · rw [if_pos ⟨hValue, hName⟩]
      rwa [if_pos hName] at hInsert
    · have hOther : ¬(value ≠ "" ∧ name = other) := fun h => hName h.2
      rw [if_neg hOther]
      rwa [if_neg hName] at hInsert

/-! ## Bindings -/

variable {bindings : List (String × String)} {name value : String}

/-- The attributes of bindings with one more are set by the one more. -/
lemma ofList_concat (bindings : List (String × String)) (name value : String) :
    ofList (bindings ++ [(name, value)]) = (ofList bindings).set name value := by
  simp [ofList]

/-- No name is given two values, apart from the empty value. -/
def OneValued (bindings : List (String × String)) : Prop :=
  ∀ name v w, (name, v) ∈ bindings → (name, w) ∈ bindings → v ≠ "" → w ≠ "" → v = w

/-- Bindings that bind each name once give each name one value. -/
lemma oneValued_of_nodup (hOnce : (bindings.map Prod.fst).Nodup) : OneValued bindings := by
  intro name v w hV hW _ _
  rw [← Entries.get?_eq_some_iff hOnce] at hV hW
  exact Option.some.inj (hV.symm.trans hW)

/-- The attributes of bindings that give each name one value are the bindings that are not empty. -/
theorem get?_ofList_eq_some_iff (hOne : OneValued bindings) :
    (ofList bindings).get? name = some value ↔ (name, value) ∈ bindings ∧ value ≠ "" := by
  -- the last binding of a name is the one that stays, so that the induction is from the end
  induction bindings using List.reverseRecOn with
  | nil => simp [ofList, get?, empty, NameMap.empty, NameMap.get?, Entries.get?]
  | append_singleton init last ih =>
    obtain ⟨other, given⟩ := last
    have hInit : OneValued init := fun n v w hV hW =>
      hOne n v w (List.mem_append_left _ hV) (List.mem_append_left _ hW)
    have hLast : (other, given) ∈ init ++ [(other, given)] :=
      List.mem_append_right _ List.mem_cons_self
    rw [ofList_concat, get?_set]
    by_cases hSet : given ≠ "" ∧ other = name
    · obtain ⟨hGiven, rfl⟩ := hSet
      rw [if_pos ⟨hGiven, rfl⟩, Option.some.injEq]
      constructor
      · rintro rfl
        exact ⟨hLast, hGiven⟩
      · rintro ⟨hMem, hValue⟩
        exact hOne other given value hLast hMem hGiven hValue
    · -- the last binding is empty or of another name, so that it is not the one that is looked for
      have hOther : value ≠ "" → (name, value) ≠ (other, given) := by
        rintro hValue hEq
        obtain ⟨rfl, rfl⟩ := Prod.mk.inj hEq
        exact hSet ⟨hValue, rfl⟩
      rw [if_neg hSet, ih hInit, List.mem_append, List.mem_singleton]
      refine and_congr_left fun hValue => ?_
      rw [or_iff_left (hOther hValue)]

/-- A name that is set after such bindings, unless it is empty, takes the place of a binding when
its value is not empty. -/
theorem get?_set_ofList_iff (hOnce : (bindings.map Prod.fst).Nodup) {key free : String} :
    (if key.isEmpty then ofList bindings else (ofList bindings).set key free).get? name =
      some value ↔
        if key ≠ "" ∧ free ≠ "" ∧ key = name then value = free else (name, value) ∈ bindings ∧
      value ≠ "" := by
  have hBindings : (ofList bindings).get? name = some value ↔
      (name, value) ∈ bindings ∧ value ≠ "" :=
    get?_ofList_eq_some_iff (oneValued_of_nodup hOnce)
  by_cases hKey : key = ""
  · rw [if_pos (String.isEmpty_iff.2 hKey), if_neg fun h => h.1 hKey]
    exact hBindings
  rw [if_neg fun h => hKey (String.isEmpty_iff.1 h), get?_set]
  by_cases hFree : free ≠ "" ∧ key = name
  · rw [if_pos hFree, if_pos ⟨hKey, hFree⟩, Option.some.injEq]
    exact eq_comm
  · rw [if_neg hFree, if_neg fun h => hFree h.2]
    exact hBindings

/-- The order and the repetition of bindings do not show in the attributes exactly when no name is
given two values. -/
theorem oneValued_iff :
    OneValued bindings ↔ ∀ others, (∀ binding, binding ∈ bindings ↔ binding ∈ others) →
      ofList bindings = ofList others := by
  constructor
  · intro hOne others hMembers
    have hOthers : OneValued others := fun n v w hV hW =>
      hOne n v w ((hMembers _).2 hV) ((hMembers _).2 hW)
    refine eq_of_get?_eq fun n => Option.ext fun v => ?_
    rw [get?_ofList_eq_some_iff hOne, get?_ofList_eq_some_iff hOthers, hMembers]
  · -- repeating one of two values at the end makes it the value of the name
    intro hSame n v w hV hW hVSet hWSet
    have hRepeated : ∀ {u : String}, (n, u) ∈ bindings → u ≠ "" →
        (ofList bindings).get? n = some u := by
      intro u hMem hSet
      have hMembers : ∀ binding, binding ∈ bindings ↔ binding ∈ bindings ++ [(n, u)] := by
        intro binding
        simp only [List.mem_append, List.mem_singleton, iff_self_or]
        rintro rfl
        exact hMem
      rw [hSame _ hMembers, ofList_concat, get?_set, if_pos ⟨hSet, rfl⟩]
    exact Option.some.inj ((hRepeated hV hVSet).symm.trans (hRepeated hW hWSet))

end Attributes

end IamReconciler
