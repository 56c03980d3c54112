/-!
# Maps from names

Finite maps from texts to values, kept as a list of entries in strictly increasing order of their
names, where texts are compared by code points.  Two maps with the same look-ups are therefore
equal.

The first section works on bare lists of entries, so that it also serves objects of JSON; the second
packs a list with the proof that it is in order.
-/

namespace IamReconciler

/-! ## Lists of entries -/

namespace Entries

variable {α : Type}

/-- The entries with `name` bound to `value`, at its place in the order of names. -/
def insert (name : String) (value : α) : List (String × α) → List (String × α)
  | [] => [(name, value)]
  | entry :: rest =>
    if name = entry.1 then (name, value) :: rest
    else if name < entry.1 then (name, value) :: entry :: rest
    else entry :: insert name value rest

/-- The entries without `name`. -/
def erase (name : String) (entries : List (String × α)) : List (String × α) :=
  entries.filter fun entry => entry.1 ≠ name

/-- The value bound to `name`. -/
def get? (name : String) : List (String × α) → Option α
  | [] => none
  | entry :: rest => if entry.1 = name then some entry.2 else get? name rest

/-- The entries of a list of bindings, in which a later binding of a name replaces an earlier
one. -/
def ofList (bindings : List (String × α)) : List (String × α) :=
  bindings.foldl (fun entries binding => insert binding.1 binding.2 entries) []

/-- The names of a list, in order and each once. -/
def distinct (names : List String) : List String :=
  (ofList (names.map fun name => (name, ()))).map Prod.fst

/-- Entries are sorted when their names increase strictly. -/
def Sorted (entries : List (String × α)) : Prop :=
  entries.Pairwise fun a b => a.1 < b.1

/-- An entry of an updated list is the new one or an old one. -/
theorem eq_or_mem_of_mem_insert {name : String} {value : α} {entries : List (String × α)}
    {entry : String × α} (h : entry ∈ insert name value entries) :
    entry = (name, value) ∨ entry ∈ entries := by
  induction entries with
  | nil => simpa [insert] using h
  | cons first rest ih =>
    unfold insert at h
    split at h
    · rcases List.mem_cons.1 h with h | h
      · exact .inl h
      · exact .inr (List.mem_cons_of_mem _ h)
    · split at h
      · rcases List.mem_cons.1 h with h | h
        · exact .inl h
        · exact .inr h
      · rcases List.mem_cons.1 h with h | h
        · exact .inr (h ▸ List.mem_cons_self)
        · rcases ih h with h | h
          · exact .inl h
          · exact .inr (List.mem_cons_of_mem _ h)

/-- Binding a name keeps entries sorted. -/
theorem sorted_insert {name : String} {value : α} {entries : List (String × α)}
    (h : Sorted entries) : Sorted (insert name value entries) := by
  induction entries with
  | nil => simp [insert, Sorted]
  | cons first rest ih =>
    obtain ⟨hFirst, hRest⟩ := List.pairwise_cons.1 h
    unfold insert
    split
    · rename_i hEq
      exact List.pairwise_cons.2 ⟨fun entry hMem => hEq ▸ hFirst entry hMem, hRest⟩
    · split
      · rename_i hLt
        refine List.pairwise_cons.2 ⟨fun entry hMem => ?_, h⟩
        rcases List.mem_cons.1 hMem with rfl | hMem
        · exact hLt
        · exact String.lt_trans hLt (hFirst entry hMem)
      · rename_i hNe hNotLt
        refine List.pairwise_cons.2 ⟨fun entry hMem => ?_, ih hRest⟩
        rcases eq_or_mem_of_mem_insert hMem with rfl | hMem
        · exact Std.lt_of_le_of_ne (String.not_lt.1 hNotLt) (Ne.symm hNe)
        · exact hFirst entry hMem

/-- Removing a name keeps entries sorted. -/
theorem sorted_erase {name : String} {entries : List (String × α)} (h : Sorted entries) :
    Sorted (erase name entries) :=
  List.Pairwise.filter _ h

/-- The entries of any list of bindings are sorted. -/
theorem sorted_ofList (bindings : List (String × α)) : Sorted (ofList bindings) := by
  suffices ∀ entries : List (String × α), Sorted entries →
      Sorted (bindings.foldl (fun es b => insert b.1 b.2 es) entries) from this [] List.Pairwise.nil
  induction bindings with
  | nil => exact fun _ h => h
  | cons _ _ ih => exact fun _ h => ih _ (sorted_insert h)

end Entries

/-! ## Maps -/

/-- A finite map from names. -/
structure NameMap (α : Type) where
  entries : List (String × α)
  sorted : Entries.Sorted entries

namespace NameMap

variable {α : Type}

/-- Maps with the same entries are equal. -/
@[ext] theorem ext {m n : NameMap α} (h : m.entries = n.entries) : m = n := by
  cases m; cases n; cases h; rfl

instance [DecidableEq α] : DecidableEq (NameMap α) := fun m n =>
  decidable_of_iff (m.entries = n.entries) ⟨ext, fun h => h ▸ rfl⟩

/-- The map without entries. -/
def empty : NameMap α := ⟨[], List.Pairwise.nil⟩

instance : Inhabited (NameMap α) := ⟨empty⟩

/-- The map of a list of bindings, in which a later binding of a name replaces an earlier one. -/
def ofList (bindings : List (String × α)) : NameMap α :=
  ⟨Entries.ofList bindings, Entries.sorted_ofList bindings⟩

/-- The map with `name` bound to `value`. -/
def insert (m : NameMap α) (name : String) (value : α) : NameMap α :=
  ⟨Entries.insert name value m.entries, Entries.sorted_insert m.sorted⟩

/-- The map without `name`. -/
def erase (m : NameMap α) (name : String) : NameMap α :=
  ⟨Entries.erase name m.entries, Entries.sorted_erase m.sorted⟩

/-- The value bound to `name`. -/
def get? (m : NameMap α) (name : String) : Option α :=
  Entries.get? name m.entries

end NameMap

end IamReconciler
