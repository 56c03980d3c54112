import IamReconciler.Json.Record
import IamReconciler.Proofs.Json.Merging

/-!
# Laws of formats

A format is faithful when what it writes is read back as it was and is never null.  It overwrites
when merging what it writes into what it has written before leaves nothing of the older value.
Texts and lists do both.

A record whose fields have different names is merged field by field (`Record.merges`).  A field that
is left out of the newer record keeps the value that the older one gave it, so that a record
overwrites only when all of its fields are always written.
-/

namespace IamReconciler

namespace Format

variable {α : Type} {f : Format α}

/-- What is written of a value is read back as it was, and it is not null. -/
structure ReadsBack (f : Format α) (a : α) : Prop where
  read_write : f.read (f.write a) = .ok a
  isNull_write : (f.write a).isNull = false

/-- What is written is read back as it was, and it is not null. -/
structure Faithful (f : Format α) : Prop where
  read_write : ∀ a, f.read (f.write a) = .ok a
  isNull_write : ∀ a, (f.write a).isNull = false

/-- Every value of a faithful format is read back. -/
lemma Faithful.readsBack (hf : f.Faithful) (a : α) : f.ReadsBack a :=
  ⟨hf.read_write a, hf.isNull_write a⟩

/-- A format that reads back every value is faithful. -/
lemma Faithful.of_readsBack (h : ∀ a, f.ReadsBack a) : f.Faithful :=
  ⟨fun a => (h a).read_write, fun a => (h a).isNull_write⟩

/-- A written value that is merged into another written value, or into none, gives a third written
value. -/
def Merges (f : Format α) (old : Option α) (new result : α) : Prop :=
  (Json.ofOption f.write old).merge (f.write new) = f.write result

/-- A written value that is merged into another leaves nothing of it. -/
def Overwrites (f : Format α) : Prop :=
  ∀ old new, f.Merges old new new

/-- Texts are faithful. -/
lemma faithful_text : text.Faithful where
  read_write _ := rfl
  isNull_write _ := rfl

/-- A value that may be absent is read back when it is present. -/
lemma ReadsBack.read_nullable {a : α} (h : f.ReadsBack a) :
    f.nullable.read (f.write a) = .ok (some a) := by
  have hNull := h.isNull_write
  have hRead := h.read_write
  cases hWrite : f.write a <;> rw [hWrite] at hNull hRead
  · cases hNull
  all_goals
    change (f.read _).map some = _
    rw [hRead]
    rfl

/-- A faithful value that may be absent is read back when it is present. -/
lemma Faithful.read_nullable (hf : f.Faithful) (a : α) :
    f.nullable.read (f.write a) = .ok (some a) :=
  (hf.readsBack a).read_nullable

/-- Texts overwrite. -/
lemma overwrites_text : text.Overwrites :=
  fun _ _ => rfl

/-- Lists of items that are read back are read back. -/
lemma ReadsBack.list {values : List α} (h : ∀ a ∈ values, f.ReadsBack a) :
    (list f).ReadsBack values where
  read_write := by
    change (values.map f.write).mapM f.read = .ok values
    induction values with
    | nil => rfl
    | cons value rest ih =>
      obtain ⟨hFirst, hRest⟩ := List.forall_mem_cons.1 h
      rw [List.map_cons, List.mapM_cons, hFirst.read_write, ih hRest]
      rfl
  isNull_write := rfl

/-- Lists of faithful items are faithful. -/
lemma Faithful.list (hf : f.Faithful) : (list f).Faithful :=
  .of_readsBack fun _ => .list fun a _ => hf.readsBack a

/-- Lists overwrite. -/
lemma overwrites_list : (list f).Overwrites :=
  fun _ _ => rfl

end Format

/-! ## Fields -/

namespace Field

variable {σ τ α : Type} {field : Field σ}

/-- A field of a written record that is merged into a field of another, or of none, gives that of a
third; a field that the newer record leaves out is that of the older one. -/
structure Merges (field : Field σ) (old : Option σ) (new result : σ) : Prop where
  isNull_write : ∀ v, field.write new = some v → v.isNull = false
  write_result : field.write result =
    match field.write new with
    | none => old.bind field.write
    | some v => some (((old.bind field.write).getD .null).merge v)

/-- A field of a part, in a whole. -/
lemma Merges.within {get : τ → σ} {put : σ → τ → τ} {old : Option τ} {new result : τ}
    (h : field.Merges (old.map get) (get new) (get result)) :
    (field.within get put).Merges old new result where
  isNull_write := h.isNull_write
  write_result := by
    refine h.write_result.trans ?_
    cases old <;> rfl

/-- A field that stands inline. -/
lemma Merges.inlined {old : Option σ} {new result : σ} (h : field.Merges old new result) :
    field.inlined.Merges old new result where
  isNull_write := h.isNull_write
  write_result := h.write_result

/-- A field that is left out when its value is absent keeps the older value then. -/
lemma merges_absentable {name doc : String} {format : Format α} {get : σ → Option α}
    {put : Option α → σ → σ}
    {old : Option σ} {new result : σ} (hFaithful : format.Faithful)
    (hOverwrites : format.Overwrites) (hGet : get result = (get new).or (old.bind get)) :
    (absentable name doc format get put).Merges old new result where
  isNull_write v hv := by
    obtain ⟨a, -, rfl⟩ := Option.map_eq_some_iff.1 hv
    exact hFaithful.isNull_write a
  write_result := by
    have hOld : old.bind (absentable name doc format get put).write =
        (old.bind get).map format.write := by
      cases old <;> rfl
    change (get result).map format.write = _
    rw [hOld, hGet]
    change _ = match (get new).map format.write with | none => _ | some v => _
    cases get new with
    | none => rfl
    | some a =>
      have hMerge := hOverwrites (old.bind get) a
      cases hBound : old.bind get with
      | none =>
        rw [hBound] at hMerge
        exact congrArg some hMerge.symm
      | some b =>
        rw [hBound] at hMerge
        exact congrArg some hMerge.symm

end Field

namespace Slot

variable {σ α : Type} {slot : Slot σ α} {old : Option σ} {new result : σ}

/-- A slot that is always written. -/
lemma merges_field (hNull : (slot.format.write (slot.get new)).isNull = false)
    (h : slot.format.Merges (old.map slot.get) (slot.get new) (slot.get result))
    (presence : Presence) (schema : Json) : (slot.field presence schema).Merges old new result where
  isNull_write v hv := Option.some.inj hv ▸ hNull
  write_result := by
    refine congrArg some (h.symm.trans ?_)
    cases old <;> rfl

/-- A slot whose format overwrites. -/
lemma merges_of_overwrites (hFaithful : slot.format.Faithful) (hOverwrites : slot.format.Overwrites)
    (hGet : slot.get result = slot.get new) (presence : Presence) (schema : Json) :
    (slot.field presence schema).Merges old new result :=
  merges_field (hFaithful.isNull_write _) (hGet ▸ hOverwrites _ _) _ _

/-- A slot for a text. -/
@[simp] lemma merges_text {name : String} {get : σ → String} {put : String → σ → σ}
    (hGet : get result = get new) (presence : Presence) (schema : Json) :
    ((text name get put).field presence schema).Merges old new result :=
  merges_of_overwrites Format.faithful_text Format.overwrites_text hGet _ _

/-- A slot for a list of texts. -/
@[simp] lemma merges_texts {name : String} {get : σ → List String} {put : List String → σ → σ}
    (hGet : get result = get new) (presence : Presence) (schema : Json) :
    ((texts name get put).field presence schema).Merges old new result :=
  merges_of_overwrites Format.faithful_text.list Format.overwrites_list hGet _ _

end Slot

/-! ## Records -/

namespace Record

variable {σ : Type} {r : Record σ}

/-- No two fields have one name. -/
def HasNames (r : Record σ) : Prop :=
  (r.fields.map Field.name).Nodup

instance (r : Record σ) : Decidable r.HasNames :=
  inferInstanceAs (Decidable (List.Nodup _))

/-- The fields that a record writes, in the order of declaration. -/
def bindings (fields : List (Field σ)) (record : σ) : List (String × Json) :=
  fields.filterMap fun field => (field.write record).map fun value => (field.name, value)

/-- A binding has the name of a field. -/
lemma name_mem_of_mem_bindings {fields : List (Field σ)} {record : σ} {binding : String × Json}
    (h : binding ∈ bindings fields record) : binding.1 ∈ fields.map Field.name := by
  obtain ⟨field, hField, hBinding⟩ := List.mem_filterMap.1 h
  obtain ⟨value, -, rfl⟩ := Option.map_eq_some_iff.1 hBinding
  exact List.mem_map_of_mem hField

/-- Fields of different names are written as bindings of different names. -/
lemma nodup_bindings {fields : List (Field σ)} (hNames : (fields.map Field.name).Nodup)
    (record : σ) : ((bindings fields record).map Prod.fst).Nodup := by
  induction fields with
  | nil => exact List.nodup_nil
  | cons field rest ih =>
    obtain ⟨hFirst, hRest⟩ := List.nodup_cons.1 hNames
    rw [bindings, List.filterMap_cons]
    cases field.write record with
    | none => exact ih hRest
    | some value =>
      refine List.nodup_cons.2 ⟨fun hMem => hFirst ?_, ih hRest⟩
      obtain ⟨binding, hBinding, hName⟩ := List.mem_map.1 hMem
      rw [← show binding.1 = field.name from hName]
      exact name_mem_of_mem_bindings hBinding

/-- The value that is bound to a name is the written field of that name. -/
lemma get?_bindings {fields : List (Field σ)} (hNames : (fields.map Field.name).Nodup) (record : σ)
    (name : String) :
    Entries.get? name (bindings fields record) =
      (fields.find? fun field => field.name = name).bind fun field => field.write record := by
  induction fields with
  | nil => rfl
  | cons field rest ih =>
    obtain ⟨hFirst, hRest⟩ := List.nodup_cons.1 hNames
    have hAbsent (hName : field.name = name) : Entries.get? name (bindings rest record) = none :=
      Entries.get?_eq_none fun binding hMem hEq =>
        hFirst (hName.trans hEq.symm ▸ name_mem_of_mem_bindings hMem)
    rw [bindings, List.filterMap_cons, List.find?_cons]
    by_cases hName : field.name = name
    · simp only [hName, decide_true, Option.bind_some]
      cases field.write record with
      | none => exact hAbsent hName
      | some value => exact if_pos rfl
    · simp only [hName, decide_false]
      cases field.write record with
      | none => exact ih hRest
      | some value => exact (if_neg hName).trans (ih hRest)

/-- The value of a name in a written record is the written field of that name. -/
lemma get?_write (hNames : r.HasNames) (record : σ) (name : String) :
    Entries.get? name (r.write record).fields =
      (r.fields.find? fun field => field.name = name).bind fun field => field.write record :=
  (Entries.get?_ofList (nodup_bindings hNames record) name).trans (get?_bindings hNames record name)

/-- A written record has its fields in order. -/
lemma sorted_write (r : Record σ) (record : σ) : Entries.Sorted (r.write record).fields :=
  Entries.sorted_ofList _

/-- The fields of an object are read one after the other. -/
lemma readEntries_cons (inline : Bool) (entry : String × Json) (entries : List (String × Json))
    (record : σ) :
    r.readEntries inline (entry :: entries) record =
      (match r.field? inline entry.1 with
        | some field => field.read entry.2 record
        | none => .ok record) >>= fun next => r.readEntries inline entries next := by
  rw [readEntries, List.foldlM_cons]
  rfl

/-- A record without inline fields has none to read. -/
lemma readEntries_inline (hPlain : ∀ field ∈ r.fields, field.inline = false)
    (entries : List (String × Json)) (record : σ) :
    r.readEntries true entries record = .ok record := by
  have hNone (name : String) : r.field? true name = none := by
    refine List.find?_eq_none.2 fun field hField => ?_
    simp only [hPlain field hField, Bool.false_eq_true, decide_false, Bool.and_false,
      not_false_eq_true]
  induction entries with
  | nil => rfl
  | cons entry rest ih =>
    rw [readEntries_cons, hNone]
    exact ih

/-- No required field is missing exactly when each is among those given. -/
lemma firstMissing?_eq_none_iff {given : List String} : r.firstMissing? given = none ↔
    ∀ field ∈ r.fields, field.presence = .required → field.name ∈ given := by
  simp only [firstMissing?, Option.map_eq_none_iff, List.find?_eq_none, Bool.and_eq_true,
    decide_eq_true_eq, Bool.not_eq_true', List.contains_eq_mem, decide_eq_false_iff_not, not_and,
    Decidable.not_not]

/-- When no required field is missing, none is missing among more fields. -/
lemma firstMissing?_eq_none {given more : List String} (hMore : given ⊆ more)
    (h : r.firstMissing? given = none) : r.firstMissing? more = none :=
  firstMissing?_eq_none_iff.2 fun field hField hRequired =>
    hMore (firstMissing?_eq_none_iff.1 h field hField hRequired)

/-- A record is faithful when it reads back what it has written. -/
lemma faithful
    (h : ∀ record, r.readObject (Entries.ofList (bindings r.fields record)) = .ok record) :
    r.format.Faithful where
  read_write := h
  isNull_write _ := rfl

/-- A record is merged field by field. -/
theorem merges (hNames : r.HasNames) {old : Option σ} {new result : σ}
    (hFields : ∀ field ∈ r.fields, field.Merges old new result) :
    r.format.Merges old new result := by
  have hOldSorted : Entries.Sorted (Json.ofOption r.format.write old).fields := by
    cases old with
    | none => exact List.Pairwise.nil
    | some record => exact sorted_write r record
  have hOld (name : String) : Entries.get? name (Json.ofOption r.format.write old).fields =
      (r.fields.find? fun field => field.name = name).bind fun field => old.bind field.write := by
    cases old with
    | none => exact (Option.bind_fun_none _).symm
    | some record => exact get?_write hNames record name
  refine congrArg Json.obj (Entries.eq_of_get?_eq (Json.sorted_mergeFields hOldSorted)
    (sorted_write r result) ?_)
  intro name
  refine (Json.get?_mergeFields (Entries.nodup_of_sorted (sorted_write r new)) name).trans ?_
  change _ = Entries.get? name (r.write result).fields
  rw [get?_write hNames, get?_write hNames]
  rw [hOld]
  cases hFound : r.fields.find? fun field => field.name = name with
  | none => rfl
  | some field =>
    have hMerges := hFields field (List.mem_of_find?_eq_some hFound)
    simp only [Option.bind_some, hMerges.write_result]
    cases hWrite : field.write new with
    | none => rfl
    | some value => simp only [hMerges.isNull_write value hWrite, Bool.false_eq_true, if_false]

end Record

end IamReconciler
