import Mathlib.Tactic.Lemma
import IamReconciler.NameMap

/-!
# Look-ups in maps

What a look-up finds after entries were added and removed.  Entries that are in order are determined
by their look-ups (`Entries.eq_of_get?_eq`), and as bindings they give themselves
(`Entries.ofList_of_sorted`).
-/

namespace IamReconciler

namespace Entries

variable {α : Type}

/-- The first entry of a list. -/
lemma insert_nil {name : String} {value : α} : insert name value [] = [(name, value)] := rfl

/-- A new entry takes its place beside the first one of a list. -/
lemma insert_cons {name other : String} {value old : α} {rest : List (String × α)} :
    insert name value ((other, old) :: rest) =
      if name = other then (name, value) :: rest
      else if name < other then (name, value) :: (other, old) :: rest
      else (other, old) :: insert name value rest := rfl

/-- A name that no entry has is bound to nothing. -/
lemma get?_eq_none {name : String} {entries : List (String × α)}
    (h : ∀ entry ∈ entries, entry.1 ≠ name) : get? name entries = none := by
  induction entries with
  | nil => rfl
  | cons first rest ih =>
    obtain ⟨hFirst, hRest⟩ := List.forall_mem_cons.1 h
    rw [get?, if_neg hFirst]
    exact ih hRest

/-- Sorted entries do not bind a name that comes before them all. -/
lemma get?_eq_none_of_lt {name : String} {entries : List (String × α)}
    (h : ∀ entry ∈ entries, name < entry.1) : get? name entries = none :=
  get?_eq_none fun entry hMem hEq => String.lt_irrefl name (hEq ▸ h entry hMem)

/-- Entries that bind each name once are found by their names. -/
lemma get?_eq_some_iff {name : String} {value : α} {entries : List (String × α)}
    (hOnce : (entries.map Prod.fst).Nodup) :
    get? name entries = some value ↔ (name, value) ∈ entries := by
  induction entries with
  | nil => exact ⟨nofun, nofun⟩
  | cons first rest ih =>
    obtain ⟨hFirst, hRest⟩ := List.nodup_cons.1 hOnce
    rw [get?, List.mem_cons]
    by_cases hName : first.1 = name
    · have hAbsent : (name, value) ∉ rest := fun hMem => hFirst (hName ▸ List.mem_map_of_mem hMem)
      rw [if_pos hName, or_iff_left hAbsent, Option.some.injEq]
      constructor
      · rintro rfl
        exact Prod.ext hName.symm rfl
      · intro hEq
        rw [← hEq]
    · have hOther : (name, value) ≠ first := fun hEq => hName (hEq ▸ rfl)
      rw [if_neg hName, or_iff_right hOther]
      exact ih hRest

/-- Binding a name loses no name. -/
lemma mem_names_insert {name other : String} {value : α} {entries : List (String × α)}
    (h : other ∈ entries.map Prod.fst) : other ∈ (insert name value entries).map Prod.fst := by
  induction entries with
  | nil => exact absurd h List.not_mem_nil
  | cons first rest ih =>
    unfold insert
    split
    · rename_i hEq
      rwa [List.map_cons, hEq, ← List.map_cons]
    · split
      · exact List.mem_cons_of_mem _ h
      · rcases List.mem_cons.1 h with h | h
        · exact List.mem_cons.2 (.inl h)
        · exact List.mem_cons_of_mem _ (ih h)

/-- The value of a name after a name was bound. -/
lemma get?_insert (name other : String) (value : α) (entries : List (String × α)) :
    get? other (insert name value entries) = if name = other then
      some value else get? other entries := by
  induction entries with
  | nil => rfl
  | cons first rest ih =>
    unfold insert
    split
    · rename_i hEq
      subst hEq
      simp only [get?]
      split <;> rfl
    · split
      · rfl
      · rename_i hNe _
        simp only [get?, ih]
        split
        · rename_i hOther
          rw [if_neg fun h => hNe (h.trans hOther.symm)]
        · rfl

/-- The value of a name after a name was taken away. -/
lemma get?_erase (name other : String) (entries : List (String × α)) :
    get? other (erase name entries) = if name = other then none else get? other entries := by
  induction entries with
  | nil => exact (ite_self none).symm
  | cons first rest ih =>
    simp only [erase, List.filter_cons, decide_not, Bool.not_eq_true',
      decide_eq_false_iff_not] at ih ⊢
    split
    · rename_i hKept
      simp only [get?, ih]
      split
      · rename_i hOther
        rw [if_neg fun h => hKept (hOther.trans h.symm)]
      · rfl
    · rename_i hErased
      have hFirst : first.1 = name := Classical.not_not.1 hErased
      rw [ih, get?, hFirst]
      split <;> rfl

/-- The value of a name in the entries of bindings that bind each name once. -/
lemma get?_ofList {bindings : List (String × α)} (hOnce : (bindings.map Prod.fst).Nodup)
    (name : String) : get? name (ofList bindings) = get? name bindings := by
  suffices ∀ entries : List (String × α),
      get? name
        (bindings.foldl (fun entries binding => insert binding.1 binding.2 entries) entries) =
          (get? name bindings).or (get? name entries) by
    exact (this []).trans (Option.or_none)
  induction bindings with
  | nil => exact fun entries => rfl
  | cons first rest ih =>
    obtain ⟨hFirst, hRest⟩ := List.nodup_cons.1 hOnce
    intro entries
    rw [List.foldl_cons, ih hRest, get?_insert, get?]
    split
    · rename_i hEq
      rw [get?_eq_none fun entry hMem hName =>
        hFirst (List.mem_map.2 ⟨entry, hMem, hName.trans hEq.symm⟩)]
      rfl
    · rfl

/-- Every entry of bindings is one of them. -/
lemma mem_of_mem_ofList {bindings : List (String × α)} {entry : String × α}
    (h : entry ∈ ofList bindings) : entry ∈ bindings := by
  suffices ∀ entries : List (String × α),
      entry ∈ bindings.foldl (fun entries binding => insert binding.1 binding.2 entries) entries →
        entry ∈ bindings ∨ entry ∈ entries from (this [] h).resolve_right List.not_mem_nil
  clear h
  induction bindings with
  | nil => exact fun entries => .inr
  | cons first rest ih =>
    intro entries hMem
    rcases ih _ hMem with hRest | hInsert
    · exact .inl (List.mem_cons_of_mem _ hRest)
    · rcases eq_or_mem_of_mem_insert hInsert with rfl | hOld
      · exact .inl List.mem_cons_self
      · exact .inr hOld

/-- Entries that are in order bind each name once. -/
lemma nodup_of_sorted {entries : List (String × α)} (h : Sorted entries) :
    (entries.map Prod.fst).Nodup := by
  refine List.pairwise_map.2 (h.imp ?_)
  intro entry other hLt hEq
  exact String.lt_irrefl _ (hEq ▸ hLt)

/-- Entries that are in order are determined by their look-ups. -/
theorem eq_of_get?_eq {entries others : List (String × α)} (h : Sorted entries)
    (hOthers : Sorted others) (hGet : ∀ name, get? name entries = get? name others) :
    entries = others := by
  induction entries generalizing others with
  | nil =>
    cases others with
    | nil => rfl
    | cons other _ =>
      have hOther := hGet other.1
      rw [get?, get?, if_pos rfl] at hOther
      exact absurd hOther.symm (Option.some_ne_none _)
  | cons first rest ih =>
    obtain ⟨hFirst, hRest⟩ := List.pairwise_cons.1 h
    cases others with
    | nil =>
      have hNone := hGet first.1
      rw [get?, get?, if_pos rfl] at hNone
      exact absurd hNone (Option.some_ne_none _)
    | cons other others =>
      obtain ⟨hOther, hRestOthers⟩ := List.pairwise_cons.1 hOthers
      -- the smaller of two different first names would be bound on one side only
      have hNames : first.1 = other.1 := by
        rcases Std.lt_trichotomy first.1 other.1 with hLt | hEq | hGt
        · have hAbsent := get?_eq_none_of_lt (List.forall_mem_cons.2
            ⟨hLt, fun entry hMem => String.lt_trans hLt (hOther entry hMem)⟩)
          rw [← hGet, get?, if_pos rfl] at hAbsent
          exact absurd hAbsent (Option.some_ne_none _)
        · exact hEq
        · have hAbsent := get?_eq_none_of_lt (List.forall_mem_cons.2
            ⟨hGt, fun entry hMem => String.lt_trans hGt (hFirst entry hMem)⟩)
          rw [hGet, get?, if_pos rfl] at hAbsent
          exact absurd hAbsent (Option.some_ne_none _)
      have hValues := hGet first.1
      rw [get?, get?, if_pos rfl, if_pos hNames.symm] at hValues
      have hRests : rest = others := by
        refine ih hRest hRestOthers fun name => ?_
        by_cases hName : first.1 = name
        · subst hName
          rw [get?_eq_none_of_lt hFirst, get?_eq_none_of_lt fun entry hMem =>
            hNames ▸ hOther entry hMem]
        · have hName' := hGet name
          rwa [get?, get?, if_neg hName, if_neg fun hEq => hName (hNames.trans hEq)] at hName'
      rw [hRests, Prod.ext hNames (Option.some.inj hValues)]

/-! ## Bindings in order -/

/-- A name that comes after all others is bound at the end. -/
lemma insert_of_lt {name : String} {value : α} {entries : List (String × α)}
    (h : ∀ entry ∈ entries, entry.1 < name) : insert name value entries = entries ++
      [(name, value)] := by
  induction entries with
  | nil => rfl
  | cons first rest ih =>
    obtain ⟨hFirst, hRest⟩ := List.forall_mem_cons.1 h
    have hOther : name ≠ first.1 := fun hEq => String.lt_irrefl _ (hEq ▸ hFirst)
    rw [insert, if_neg hOther, if_neg (String.lt_asymm hFirst), ih hRest, List.cons_append]

/-- Bindings that are in order are kept as they are. -/
theorem ofList_of_sorted {bindings : List (String × α)} (h : Sorted bindings) :
    ofList bindings = bindings := by
  suffices ∀ entries : List (String × α), Sorted (entries ++ bindings) →
      bindings.foldl (fun entries binding => insert binding.1 binding.2 entries) entries =
        entries ++ bindings from
    this [] h
  induction bindings with
  | nil => exact fun entries _ => (List.append_nil entries).symm
  | cons first rest ih =>
    intro entries hSorted
    have hLast : ∀ entry ∈ entries, entry.1 < first.1 := fun entry hMem =>
      (List.pairwise_append.1 hSorted).2.2 entry hMem first List.mem_cons_self
    rw [List.append_cons] at hSorted ⊢
    rw [List.foldl_cons, insert_of_lt hLast]
    exact ih (List.pairwise_cons.1 h).2 _ hSorted

/-! ## Names -/

/-- The names after a name was bound. -/
lemma mem_names_insert_iff {name other : String} {value : α} {entries : List (String × α)} :
    other ∈ (insert name value entries).map Prod.fst ↔ other = name ∨
      other ∈ entries.map Prod.fst := by
  constructor
  · intro h
    obtain ⟨entry, hMem, rfl⟩ := List.mem_map.1 h
    rcases eq_or_mem_of_mem_insert hMem with rfl | hOld
    · exact .inl rfl
    · exact .inr (List.mem_map_of_mem hOld)
  · rintro (rfl | h)
    · refine Classical.byContradiction fun hAbsent => ?_
      have hNone : get? other (insert other value entries) = none :=
        get?_eq_none fun entry hMem hEq => hAbsent (List.mem_map.2 ⟨entry, hMem, hEq⟩)
      rw [get?_insert, if_pos rfl] at hNone
      cases hNone
    · exact mem_names_insert h

/-- Names that are put in order, each once, are the same names. -/
lemma mem_distinct {names : List String} {name : String} :
    name ∈ distinct names ↔ name ∈ names := by
  suffices ∀ entries : List (String × Unit),
      name ∈ ((names.map fun n => (n, ())).foldl (fun es b => insert b.1 b.2 es) entries).map
      Prod.fst ↔
        name ∈ names ∨ name ∈ entries.map Prod.fst by
    exact (this []).trans (or_iff_left List.not_mem_nil)
  induction names with
  | nil => exact fun _ => (or_iff_right List.not_mem_nil).symm
  | cons first rest ih =>
    intro entries
    rw [List.map_cons, List.foldl_cons, ih, mem_names_insert_iff, List.mem_cons]
    exact or_left_comm.trans or_assoc.symm

end Entries

end IamReconciler
