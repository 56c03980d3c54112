import IamReconciler.Proofs.Json.Formats

/-!
# Values that are read back

The laws of the formats that read back only some of their values: whole numbers that fit, values of
any form that are not null, and records whose optional fields do (`Record.readsBack`).

Such a record declares its fields in the order of their names, which is the order in which they are
read.  Each field then fills in what it has written or leaves the record as it is, and the steps in
between are given one after the other (`Record.Refills`).
-/

namespace IamReconciler

namespace Format

variable {α : Type} {f : Format α}

/-- Truth values are read back. -/
lemma faithful_bool : bool.Faithful where
  read_write _ := rfl
  isNull_write _ := rfl

/-- Whole numbers that fit are read back. -/
lemma readsBack_int64 {i : Int} (h : i < (Nat.pow 2 63 : Nat)) : int64.ReadsBack i where
  read_write := if_pos h
  isNull_write := rfl

/-- Values of any form are read back, and they count as given when they are not null. -/
lemma readsBack_any {json : Json} (h : json.isNull = false) : any.ReadsBack json where
  read_write := rfl
  isNull_write := h

/-- Maps of values that are read back are read back. -/
lemma Faithful.map (hf : f.Faithful) : (Format.map f).Faithful where
  read_write m := by
    have hEntries (entries : List (String × α)) :
        (entries.map fun entry => (entry.1, f.write entry.2)).mapM (fun entry => do
          let value ← f.read entry.2
          pure (entry.1, value)) = Except.ok entries := by
      induction entries with
      | nil => rfl
      | cons entry rest ih =>
        rw [List.map_cons, List.mapM_cons, hf.read_write, ih]
        rfl
    change ((m.entries.map fun entry => (entry.1, f.write entry.2)).mapM _ >>= fun bindings =>
      pure (NameMap.ofList bindings)) = Except.ok m
    rw [hEntries]
    exact congrArg Except.ok (NameMap.ext (Entries.ofList_of_sorted m.sorted))
  isNull_write _ := rfl

end Format

/-! ## Fields -/

namespace Field

variable {σ α : Type}

/-- What a field has written of a record leads from one record to another when it is read; a field
that was left out leaves the record as it is. -/
def Refills (field : Field σ) (record before after : σ) : Prop :=
  match field.write record with
  | none => after = before
  | some value => field.read value before = .ok after

/-- A field whose value may be absent takes the value of the record that was written. -/
lemma refills_absentable {name doc : String} {format : Format α} {get : σ → Option α}
    {put : Option α → σ → σ}
    {record before : σ} (hPut : put none before = before) (hFormat : ∀ a ∈ get record,
      format.ReadsBack a) :
    (absentable name doc format get put).Refills record before (put (get record) before) := by
  unfold Refills
  split
  · rename_i hWrite
    rw [Option.map_eq_none_iff.1 hWrite]
    exact hPut
  · rename_i value hWrite
    obtain ⟨a, hGet, rfl⟩ := Option.map_eq_some_iff.1 hWrite
    change (format.nullable.read (format.write a)).map (put · before) = _
    rw [(hFormat a hGet).read_nullable, hGet]
    rfl

/-- A field of a faithful format takes the value of the record that was written. -/
lemma refills_of_faithful {name doc : String} {format : Format α} {get : σ → Option α}
    {put : Option α → σ → σ}
    {record before : σ} (hFaithful : format.Faithful) (hPut : put none before = before) :
    (absentable name doc format get put).Refills record before (put (get record) before) :=
  refills_absentable hPut fun a _ => hFaithful.readsBack a

end Field

/-- A slot that may be null takes the value of the record that was written. -/
lemma Slot.refills_lenient {σ α : Type} {slot : Slot σ α} {doc : String} {record before : σ}
    (hFaithful : slot.format.Faithful) :
    (slot.lenient doc).Refills record before (slot.put (slot.get record) before) := by
  change (slot.format.nullable.read (slot.format.write (slot.get record))).map _ = _
  rw [hFaithful.read_nullable]
  rfl

/-! ## Records -/

namespace Record

variable {σ : Type} {r : Record σ}

/-- Reading what fields have written of a record, one after the other, leads from one record to
another. -/
inductive Refills (record : σ) : List (Field σ) → σ → σ → Prop where
  | nil {before : σ} : Refills record [] before before
  | cons {field : Field σ} {rest : List (Field σ)} {before between after : σ}
      (hField : field.Refills record before between) (hRest : Refills record rest between after) :
      Refills record (field :: rest) before after

/-- Fields that are declared in the order of their names are written in this order. -/
lemma sorted_bindings {fields : List (Field σ)}
    (hSorted : fields.Pairwise fun f g => f.name < g.name) (record : σ) :
    Entries.Sorted (bindings fields record) := by
  refine List.Pairwise.filterMap _ (fun f g hLt entry hEntry other hOther => ?_) hSorted
  obtain ⟨value, -, rfl⟩ := Option.map_eq_some_iff.1 hEntry
  obtain ⟨value', -, rfl⟩ := Option.map_eq_some_iff.1 hOther
  exact hLt

/-- A field is found by its name. -/
lemma field?_of_mem {field : Field σ} (hNames : r.HasNames) (hField : field ∈ r.fields) :
    r.field? field.inline field.name = some field := by
  unfold HasNames at hNames
  unfold field?
  generalize r.fields = fields at hNames hField ⊢
  induction fields with
  | nil => cases hField
  | cons first rest ih =>
    obtain ⟨hFirst, hRest⟩ := List.nodup_cons.1 hNames
    rcases List.mem_cons.1 hField with rfl | hField
    · exact List.find?_cons_of_pos (by simp)
    · have hOther : first.name ≠ field.name := fun hEq => hFirst (hEq ▸ List.mem_map_of_mem hField)
      rw [List.find?_cons_of_neg (by simp [hOther])]
      exact ih hRest hField

/-- The record after the fields that were written of another one. -/
lemma readEntries_bindings {record before after : σ} {fields : List (Field σ)}
    (hFind : ∀ field ∈ fields, r.field? false field.name = some field)
    (h : Refills record fields before after) :
    r.readEntries false (bindings fields record) before = .ok after := by
  induction h with
  | nil => rfl
  | @cons field rest before between after hField _ ih =>
    obtain ⟨hFirst, hRest⟩ := List.forall_mem_cons.1 hFind
    rw [Field.Refills] at hField
    rw [bindings, List.filterMap_cons]
    cases hWrite : field.write record with
    | none =>
      rw [hWrite] at hField
      subst hField
      exact ih hRest
    | some value =>
      rw [hWrite] at hField
      refine (readEntries_cons _ _ _ _).trans ?_
      simp only [hFirst, hField]
      exact ih hRest

/-- The fields of a record are declared in the order of their names, and each may be left out and
stands by itself. -/
def IsLoose (r : Record σ) : Prop :=
  (r.fields.Pairwise fun f g => f.name < g.name) ∧
    ∀ field ∈ r.fields, field.presence = .optional ∧ field.inline = false

instance (r : Record σ) : Decidable r.IsLoose :=
  inferInstanceAs (Decidable (_ ∧ _))

/-- A record with such fields reads back what it has written when every field fills it in. -/
theorem readsBack {record : σ} (hLoose : r.IsLoose) (h : Refills record r.fields r.blank record) :
    r.format.ReadsBack record where
  read_write := by
    obtain ⟨hSorted, hOptional⟩ := hLoose
    have hNames : r.HasNames := List.pairwise_map.2 (hSorted.imp fun hLt => String.ne_of_lt hLt)
    have hFind : ∀ field ∈ r.fields, r.field? false field.name = some field := fun field hField =>
      (hOptional field hField).2 ▸ field?_of_mem hNames hField
    have hMissing : r.firstMissing? ((bindings r.fields record).map Prod.fst) = none := by
      refine Option.map_eq_none_iff.2 (List.find?_eq_none.2 fun field hField => ?_)
      rw [(hOptional field hField).1]
      exact Bool.false_ne_true
    change r.readObject (Entries.ofList (bindings r.fields record)) = _
    rw [Entries.ofList_of_sorted (sorted_bindings hSorted record), readObject,
      readEntries_bindings hFind h]
    simp only [bind, Except.bind, hMissing]
    exact readEntries_inline (fun field hField => (hOptional field hField).2) _ _
  isNull_write := rfl

end Record

end IamReconciler
