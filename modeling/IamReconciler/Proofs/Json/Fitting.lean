import IamReconciler.Json.Record
import IamReconciler.Proofs.Json.Spelling
import IamReconciler.Proofs.NameMap

/-!
# Written values that fit

What a format writes fits when its parts do, with one level more for each list, map and record.
Only the numbers and the values of any form, which are written as they are, can keep a written value
from fitting, so that most formats need no assumption about their values.
-/

namespace IamReconciler

namespace Json.Fits

variable {n : Nat}

/-- An object of bindings fits when what is bound does. -/
lemma object {bindings : List (String × Json)} (h : ∀ binding ∈ bindings, binding.2.Fits n) :
    (Json.object bindings).Fits (n + 1) :=
  .obj (Entries.sorted_ofList bindings) fun entry hEntry =>
    h entry (Entries.mem_of_mem_ofList hEntry)

/-- An object with a further field fits when the field does. -/
lemma setField {fields : List (String × Json)} {name : String} {value : Json}
    (h : (Json.obj fields).Fits (n + 1)) (hValue : value.Fits n) :
    ((Json.obj fields).setField name value).Fits (n + 1) := by
  cases h with
  | obj hSorted hFields =>
    refine .obj (Entries.sorted_insert hSorted) fun entry hEntry => ?_
    rcases Entries.eq_or_mem_of_mem_insert hEntry with rfl | hOld
    · exact hValue
    · exact hFields entry hOld

end Json.Fits

/-! ## Formats -/

namespace Format

variable {α : Type} {f : Format α} {n : Nat}

/-- Texts. -/
@[simp] lemma fits_text (s : String) : (text.write s).Fits n :=
  .str s

/-- Truth values. -/
@[simp] lemma fits_bool (b : Bool) : (bool.write b).Fits n :=
  .bool b

/-- Lists of values that fit. -/
@[simp] lemma fits_list {values : List α} (h : ∀ a ∈ values, (f.write a).Fits n) :
    ((list f).write values).Fits (n + 1) :=
  .arr fun item hItem => by
    obtain ⟨a, ha, rfl⟩ := List.mem_map.1 hItem
    exact h a ha

/-- Maps to values that fit. -/
@[simp] lemma fits_map {m : NameMap α} (h : ∀ entry ∈ m.entries, (f.write entry.2).Fits n) :
    ((Format.map f).write m).Fits (n + 1) := by
  refine .obj (List.pairwise_map.2 m.sorted) fun entry hEntry => ?_
  obtain ⟨given, hGiven, rfl⟩ := List.mem_map.1 hEntry
  exact h given hGiven

end Format

/-! ## Fields -/

namespace Field

variable {σ τ α : Type} {field : Field σ} {n : Nat}

/-- What a field writes of a record, if anything, fits. -/
def FitsIn (field : Field σ) (n : Nat) (record : σ) : Prop :=
  ∀ value ∈ field.write record, value.Fits n

/-- A field whose value may be absent. -/
lemma fitsIn_absentable {name doc : String} {format : Format α} {get : σ → Option α}
    {put : Option α → σ → σ} {record : σ} (h : ∀ a ∈ get record, (format.write a).Fits n) :
    (absentable name doc format get put).FitsIn n record := by
  intro value hValue
  obtain ⟨a, ha, rfl⟩ := Option.map_eq_some_iff.1 hValue
  exact h a ha

/-- A field of a part. -/
lemma FitsIn.within {get : τ → σ} {put : σ → τ → τ} {whole : τ} (h : field.FitsIn n (get whole)) :
    (field.within get put).FitsIn n whole :=
  h

/-- A field that stands inline. -/
lemma FitsIn.inlined {record : σ} (h : field.FitsIn n record) : field.inlined.FitsIn n record :=
  h

/-- A field that may be left out of an object only. -/
lemma FitsIn.byName {record : σ} (h : field.FitsIn n record) : field.byName.FitsIn n record :=
  h

end Field

namespace Slot

variable {σ α : Type} {slot : Slot σ α} {n : Nat} {record : σ}

/-- A slot that is always written. -/
lemma fitsIn_field (h : (slot.format.write (slot.get record)).Fits n) (presence : Presence)
    (schema : Json) : (slot.field presence schema).FitsIn n record := by
  rintro value ⟨⟩
  exact h

/-- A slot for a text. -/
@[simp] lemma fitsIn_text {name : String} {get : σ → String} {put : String → σ → σ} {record : σ}
    (presence : Presence) (schema : Json) :
    ((text name get put).field presence schema).FitsIn n record :=
  fitsIn_field (Format.fits_text _) _ _

/-- A slot for a list of texts. -/
@[simp] lemma fitsIn_texts {name : String} {get : σ → List String} {put : List String → σ → σ}
    {record : σ} (presence : Presence) (schema : Json) :
    ((texts name get put).field presence schema).FitsIn (n + 1) record :=
  fitsIn_field (Format.fits_list fun s _ => Format.fits_text s) _ _

/-- A slot that may be null. -/
lemma fitsIn_lenient (h : (slot.format.write (slot.get record)).Fits n) (doc : String) :
    (slot.lenient doc).FitsIn n record := by
  rintro value ⟨⟩
  exact h

end Slot

/-- A record fits when its fields do. -/
lemma Record.fits_write {σ : Type} {r : Record σ} {record : σ} {n : Nat}
    (h : ∀ field ∈ r.fields, field.FitsIn n record) : (r.format.write record).Fits (n + 1) := by
  refine .object fun binding hBinding => ?_
  obtain ⟨field, hField, hBound⟩ := List.mem_filterMap.1 hBinding
  obtain ⟨value, hValue, rfl⟩ := Option.map_eq_some_iff.1 hBound
  exact h field hField value hValue

end IamReconciler
