import IamReconciler.Proofs.Json.Formats
import Mathlib.Data.List.DropRight

/-!
# What reading gives

Properties of all values that a format reads, whatever was read.  They hold of a value that was
taken from a tree and of one that was taken from a text, where the reader goes through lists and
objects item by item.

A record has every property that its blank has and that each of its fields keeps (`Record.yields`),
in whichever order and how often the fields are given.
-/

namespace IamReconciler

/-! ## Readings -/

section

variable {ε α β : Type} {read : Except ε α} {b : β}

/-- A reading that goes on to a value came through a first one. -/
lemma exists_of_bind_eq_ok {next : α → Except ε β} (h : read >>= next = .ok b) :
    ∃ a, read = .ok a ∧ next a = .ok b := by
  cases read with
  | error fault => cases h
  | ok a => exact ⟨a, rfl, h⟩

/-- A reading whose value is turned into another has a first value. -/
lemma exists_of_map_eq_ok {f : α → β} (h : read.map f = .ok b) : ∃ a, read = .ok a ∧ f a = b := by
  cases read with
  | error fault => cases h
  | ok a => exact ⟨a, rfl, Except.ok.inj h⟩

/-- Readings of the items of a list that all go on to values relate the items to the values. -/
lemma forall₂_of_mapM_eq_ok {read : α → Except ε β} {items : List α} {values : List β}
    {R : α → β → Prop} (h : items.mapM read = .ok values)
    (hRead : ∀ a ∈ items, ∀ b, read a = .ok b → R a b) : List.Forall₂ R items values := by
  induction items generalizing values with
  | nil =>
    cases h
    exact .nil
  | cons a items ih =>
    obtain ⟨hFirst, hRest⟩ := List.forall_mem_cons.1 hRead
    rw [List.mapM_cons] at h
    obtain ⟨b, hb, h⟩ := exists_of_bind_eq_ok h
    obtain ⟨others, hOthers, h⟩ := exists_of_bind_eq_ok h
    cases h
    exact .cons (hFirst b hb) (ih hOthers hRest)

end

namespace Scan

variable {α β : Type} {p : Scan α} {P : α → Prop} {Q : β → Prop}

/-- Every value that a scan gives has a property, whatever the text is. -/
def Yields (p : Scan α) (P : α → Prop) : Prop :=
  ∀ (c : Cursor) (a : α), (p.run c).1 = .ok a → P a

/-! ## Steps -/

/-- A scan that gives a value. -/
lemma yields_pure {a : α} (h : P a) : (pure a : Scan α).Yields P := by
  intro c b hRun
  cases hRun
  exact h

/-- The run of a scan followed by another. -/
lemma run_bind (p : Scan α) (k : α → Scan β) (c : Cursor) :
    (p >>= k).run c = ExceptT.bindCont k (p.run c).1 (p.run c).2 := rfl

/-- A scan followed by another gives what the second one gives after the first. -/
lemma exists_of_run_bind {k : α → Scan β} {c : Cursor} {b : β} (h : ((p >>= k).run c).1 = .ok b) :
    ∃ a, (p.run c).1 = .ok a ∧ ((k a).run (p.run c).2).1 = .ok b := by
  rw [run_bind] at h
  cases hFirst : (p.run c).1 with
  | error fault =>
    rw [hFirst] at h
    cases h
  | ok a =>
    rw [hFirst] at h
    exact ⟨a, rfl, h⟩

/-- A scan followed by another. -/
lemma Yields.bind {k : α → Scan β} (h : p.Yields P) (hNext : ∀ a, P a → (k a).Yields Q) :
    (p >>= k).Yields Q := by
  intro c b hRun
  obtain ⟨a, hFirst, hSecond⟩ := exists_of_run_bind hRun
  exact hNext a (h c a hFirst) _ b hSecond

/-- A scan followed by another, whatever the first one gives. -/
lemma yields_bind {k : α → Scan β} (hNext : ∀ a, (k a).Yields Q) : (p >>= k).Yields Q :=
  Yields.bind (P := fun _ => True) (fun _ _ _ => trivial) fun a _ => hNext a

/-- A scan whose value is turned into another. -/
lemma Yields.map {f : α → β} (h : p.Yields fun a => Q (f a)) : (f <$> p).Yields Q := by
  rw [← bind_pure_comp]
  exact h.bind fun _ => yields_pure

/-- A scan that fails at the character to come gives nothing. -/
lemma yields_failAhead (fault : SyntaxFault) : (failAhead fault : Scan α).Yields P :=
  nofun

/-- A scan that fails with a fault of content gives nothing. -/
lemma yields_reject (fault : ReadFault) : (reject fault : Scan α).Yields P :=
  nofun

/-- The value of a reading. -/
lemma yields_ofRead {read : Except ReadFault α} (h : ∀ a, read = .ok a → P a) :
    (ofRead read).Yields P := by
  cases read with
  | error fault => exact yields_reject fault
  | ok a => exact yields_pure (h a rfl)

/-- The run of a scan whose fault is handled. -/
lemma run_tryCatch (p : Scan α) (handle : ScanFault → Scan α) (c : Cursor) :
    (tryCatch p handle).run c =
      match (p.run c).1 with
    | .ok a => (.ok a, (p.run c).2)
    | .error fault => (handle fault).run (p.run c).2 := by
  simp only [tryCatch, tryCatchThe, MonadExceptOf.tryCatch, ExceptT.tryCatch, ExceptT.run,
    ExceptT.mk, bind, StateT.bind]
  cases p c with
  | mk outcome after => cases outcome <;> rfl

/-- A scan whose faults get a place. -/
lemma Yields.settle (h : p.Yields P) : (settle p).Yields P := by
  intro c a hRun
  rw [Scan.settle, run_tryCatch] at hRun
  cases hFirst : (p.run c).1 with
  | error fault =>
    rw [hFirst] at hRun
    cases hRun
  | ok b =>
    rw [hFirst] at hRun
    cases hRun
    exact h c a hFirst

/-- A scan that is closed by another. -/
lemma Yields.closing (h : p.Yields P) (close : Scan Unit) : (closing p close).Yields P := by
  intro c a hRun
  change ((p.run c).1 >>= fun value => (close.run (p.run c).2).1.map fun _ => value) = _ at hRun
  cases hFirst : (p.run c).1 with
  | error fault =>
    rw [hFirst] at hRun
    cases hRun
  | ok b =>
    rw [hFirst] at hRun
    cases hClose : (close.run (p.run c).2).1 with
    | error fault =>
      rw [hClose] at hRun
      cases hRun
    | ok _ =>
      rw [hClose] at hRun
      cases hRun
      exact h c b hFirst

/-- A scan inside a list or an object. -/
lemma Yields.inside (h : p.Yields P) : (inside p).Yields P := by
  refine yields_bind fun c => ?_
  split
  · exact yields_failAhead _
  · exact yields_bind fun _ => h.bind fun a ha => yields_bind fun _ => yields_pure ha

/-- A value that is refused is not given. -/
lemma yields_refuse (expected : String) : (refuse expected : Scan α).Yields P :=
  .settle (yields_bind fun _ => yields_ofRead nofun)

/-! ## Lists -/

/-- The items of a list. -/
lemma Yields.items (h : p.Yields P) (steps : Nat) (first : Bool) :
    (items p steps first).Yields fun values => ∀ a ∈ values, P a := by
  induction steps generalizing first with
  | zero => exact yields_pure nofun
  | succ steps ih =>
    refine yields_bind fun more => ?_
    split
    · exact h.bind fun a ha => (ih false).bind fun rest hRest =>
        yields_pure (List.forall_mem_cons.2 ⟨ha, hRest⟩)
    · exact yields_pure nofun

/-- A list. -/
lemma Yields.list (h : p.Yields P) : (list p).Yields fun values => ∀ a ∈ values, P a :=
  .inside (.closing (yields_bind fun steps => h.items steps true) _)

/-! ## Values of any form -/

/-- The token to come is found again. -/
lemma peekToken_again (c : Cursor) :
    (peekToken.run (peekToken.run c).2).1 = (peekToken.run c).1 := by
  change Except.ok ((c.rest.dropWhile isSpace).dropWhile isSpace).head? = Except.ok
    (c.rest.dropWhile isSpace).head?
  rw [List.dropWhile_idempotent]

/-- A number of double precision is not null. -/
lemma double_ne_null (negative : Bool) (s : Significand) (exponent : Int) :
    (double negative s exponent).Yields fun json => json.isNull = false := by
  rw [double]
  split
  · exact yields_pure rfl
  · exact nofun

/-- A number with an exponent is not null. -/
lemma fromExponent_ne_null (negative : Bool) (s : Significand) :
    (fromExponent negative s).Yields fun json => json.isNull = false := by
  refine yields_bind fun _ => yields_bind fun _ => yields_bind fun start => ?_
  split
  · exact nofun
  · split
    · exact yields_failAhead _
    · refine yields_bind fun places => ?_
      split
      · split
        · exact nofun
        · exact yields_pure rfl
      · exact double_ne_null _ _ _

/-- A number with a point is not null. -/
lemma fromPoint_ne_null (negative : Bool) (s : Significand) :
    (fromPoint negative s).Yields fun json => json.isNull = false := by
  refine yields_bind fun _ => yields_bind fun places => ?_
  split
  · refine yields_bind fun next => ?_
    split
    · exact yields_failAhead _
    · exact nofun
  · refine yields_bind fun next => ?_
    split
    · exact fromExponent_ne_null _ _
    · exact fromExponent_ne_null _ _
    · exact double_ne_null _ _ _

/-- A number without point and exponent is not null. -/
lemma whole_ne_null (negative : Bool) (s : Significand) :
    (whole negative s).Yields fun json => json.isNull = false := by
  rw [whole]
  generalize (if negative then -(s.value : Int) else s.value) = i
  by_cases hOmitted : s.omitted ≠ 0
  · rw [if_pos hOmitted]
    exact double_ne_null _ _ _
  · rw [if_neg hOmitted]
    split
    · exact yields_pure rfl
    · exact yields_pure rfl

/-- A number is not null. -/
lemma number_ne_null (negative : Bool) :
    (number negative).Yields fun json => json.isNull = false := by
  refine yields_bind fun digits => yields_bind fun next => ?_
  split
  · exact fromPoint_ne_null _ _
  · exact fromExponent_ne_null _ _
  · exact fromExponent_ne_null _ _
  · exact whole_ne_null _ _

/-- A value is null only when its text starts with the letter of null. -/
lemma glimpse_ne_null {c : Cursor} {json : Json} (hToken : (peekToken.run c).1 ≠ .ok (some 'n'))
    (hRun : (glimpse.run c).1 = .ok json) : json.isNull = false := by
  obtain ⟨token, hFirst, hRun⟩ := exists_of_run_bind hRun
  rw [hFirst] at hToken
  refine (?_ : Yields _ fun json => json.isNull = false) _ json hRun
  split
  · exact yields_failAhead _
  · exact absurd rfl hToken
  · exact yields_bind fun _ => yields_pure rfl
  · exact yields_bind fun _ => yields_pure rfl
  · exact yields_bind fun _ => .map fun _ _ _ => rfl
  · exact yields_bind fun _ => number_ne_null true
  · exact yields_pure rfl
  · exact yields_pure rfl
  · split
    · exact number_ne_null false
    · exact yields_failAhead _

/-- A value of any form is null only when its text starts with the letter of null. -/
lemma value_ne_null {collect : List (String × Json) → List (String × Json)} {steps : Nat}
    {c : Cursor} {json : Json} (hToken : (peekToken.run c).1 ≠ .ok (some 'n'))
    (hRun : ((valueWith collect steps).run c).1 = .ok json) : json.isNull = false := by
  cases steps with
  | zero => cases hRun
  | succ steps =>
    obtain ⟨token, hFirst, hRun⟩ := exists_of_run_bind hRun
    split at hRun
    · exact Yields.map (Q := fun json => json.isNull = false) (fun _ _ _ => rfl) _ json hRun
    · exact Yields.map (Q := fun json => json.isNull = false) (fun _ _ _ => rfl) _ json hRun
    · exact glimpse_ne_null (peekToken_again c ▸ hToken) hRun

/-! ## Whole texts -/

/-- A value that a whole text gives. -/
lemma Yields.of_ofText {text : String} {a : α} (h : p.Yields P) (hText : p.ofText text = .ok a) :
    P a := by
  refine (h.bind fun b hb => yields_bind fun next => ?_ : Yields (do
    let value ← p
    if (← peekToken).isSome then failAhead .trailing else pure value) P) _ a hText
  split
  · exact yields_failAhead _
  · exact yields_pure hb

end Scan

/-! ## Formats -/

namespace Format

variable {α : Type} {f : Format α} {P : α → Prop}

/-- Every value that a format reads has a property. -/
structure Yields (f : Format α) (P : α → Prop) : Prop where
  of_read : ∀ json a, f.read json = .ok a → P a
  of_scan : f.scan.Yields P

/-- A format of values that are neither lists nor objects. -/
lemma yields_scalar {write : α → Json} {read : Json → Except ReadFault α} {schema : Json}
    (h : ∀ json a, read json = .ok a → P a) : (scalar write read schema).Yields P where
  of_read := h
  of_scan := .settle (Scan.yields_bind fun found => Scan.yields_ofRead (h found))

/-- Nothing is asked of what is read. -/
lemma yields_true (f : Format α) : f.Yields fun _ => True :=
  ⟨fun _ _ _ => trivial, fun _ _ _ => trivial⟩

/-- Whole numbers that are read fit into 64 bits. -/
lemma yields_int64 : int64.Yields fun i => i < (Nat.pow 2 63 : Nat) := by
  refine yields_scalar fun json i hRead => ?_
  cases json with
  | int j =>
    change (if j < (Nat.pow 2 63 : Nat) then Except.ok j else _) = _ at hRead
    split at hRead
    · rename_i hFits
      cases hRead
      exact hFits
    · cases hRead
  | null | bool | double | str | arr | obj => cases hRead

/-- Lists. -/
lemma Yields.list (h : f.Yields P) : (list f).Yields fun values => ∀ a ∈ values, P a where
  of_read json values hRead := by
    cases json with
    | arr items =>
      have hGiven : List.Forall₂ (fun _ a => P a) items values :=
        forall₂_of_mapM_eq_ok hRead fun item _ => h.of_read item
      clear hRead
      induction hGiven with
      | nil => exact nofun
      | cons hFirst _ ih => exact List.forall_mem_cons.2 ⟨hFirst, ih⟩
    | null | bool | int | double | str | obj => cases hRead
  of_scan := by
    refine Scan.yields_bind fun token => ?_
    split
    · exact .settle h.of_scan.list
    · exact Scan.yields_refuse _

/-- Values that may be absent. -/
lemma Yields.nullable (h : f.Yields P) : f.nullable.Yields fun value => ∀ a ∈ value, P a where
  of_read json value hRead := by
    have hGiven (hMap : (f.read json).map some = .ok value) : ∀ a ∈ value, P a := by
      obtain ⟨b, hFirst, rfl⟩ := exists_of_map_eq_ok hMap
      rintro a ⟨⟩
      exact h.of_read json b hFirst
    cases json with
    | null =>
      cases hRead
      exact nofun
    | bool | int | double | str | arr | obj => exact hGiven hRead
  of_scan := by
    refine Scan.yields_bind fun token => ?_
    split
    · exact Scan.yields_bind fun _ => Scan.yields_pure nofun
    · refine .map fun c b hRun => ?_
      rintro a ⟨⟩
      exact h.of_scan c b hRun

/-- Values of any form that may be absent are not null when they are given. -/
lemma yields_nullable_any :
    any.nullable.Yields fun value => ∀ json ∈ value, json.isNull = false where
  of_read json value hRead := by
    cases json with
    | null =>
      cases hRead
      exact nofun
    | bool | int | double | str | arr | obj =>
      cases hRead
      rintro json ⟨⟩
      rfl
  of_scan := by
    intro c value hRun
    obtain ⟨token, hToken, hRun⟩ := Scan.exists_of_run_bind hRun
    by_cases hNull : token = some 'n'
    · rw [if_pos hNull] at hRun
      exact Scan.yields_bind (Q := fun value => ∀ json ∈ value, json.isNull = false)
        (fun _ => Scan.yields_pure nofun) _ value hRun
    · rw [if_neg hNull, ← bind_pure_comp] at hRun
      obtain ⟨json, hJson, hRun⟩ := Scan.exists_of_run_bind hRun
      cases hRun
      rintro given ⟨⟩
      refine Scan.value_ne_null (fun hOther => hNull ?_) hJson
      rw [Scan.peekToken_again, hToken] at hOther
      exact Except.ok.inj hOther

end Format

/-! ## Fields -/

namespace Field

variable {σ τ α : Type} {field : Field σ} {P : σ → Prop}

/-- A record that has a property still has it after a field was read. -/
structure Keeps (field : Field σ) (P : σ → Prop) : Prop where
  of_read : ∀ value record after, P record → field.read value record = .ok after → P after
  of_scan : ∀ record, P record → (field.scan record).Yields P

/-- A field whose value may be absent. -/
lemma keeps_absentable {name doc : String} {format : Format α} {get : σ → Option α}
    {put : Option α → σ → σ}
    {Q : Option α → Prop} (h : format.nullable.Yields Q)
    (hPut : ∀ given record, Q given → P record → P (put given record)) :
    (absentable name doc format get put).Keeps P where
  of_read value record after hRecord hRead := by
    obtain ⟨given, hGiven, rfl⟩ := exists_of_map_eq_ok hRead
    exact hPut given record (h.of_read value given hGiven) hRecord
  of_scan record hRecord :=
    .map fun c given hRun => hPut given record (h.of_scan c given hRun) hRecord

/-- A field whose value does not matter. -/
lemma keeps_of_put {name doc : String} {format : Format α} {get : σ → Option α}
    {put : Option α → σ → σ} (hPut : ∀ given record, P record → P (put given record)) :
    (absentable name doc format get put).Keeps P :=
  keeps_absentable format.nullable.yields_true fun given record _ => hPut given record

/-- A field that may be left out of an object only. -/
lemma Keeps.byName (h : field.Keeps P) : field.byName.Keeps P :=
  ⟨h.of_read, h.of_scan⟩

end Field

/-- A slot that is not null. -/
lemma Slot.keeps_field {σ α : Type} {slot : Slot σ α} {P : σ → Prop} {Q : α → Prop}
    (h : slot.format.Yields Q)
    (hPut : ∀ given record, Q given → P record →
      P (slot.put given record)) (presence : Presence) (schema : Json) :
    (slot.field presence schema).Keeps P where
  of_read value record after hRecord hRead := by
    obtain ⟨given, hGiven, rfl⟩ := exists_of_map_eq_ok hRead
    exact hPut given record (h.of_read value given hGiven) hRecord
  of_scan record hRecord :=
    .map fun c given hRun => hPut given record (h.of_scan c given hRun) hRecord

/-! ## Records -/

namespace Record

variable {σ : Type} {r : Record σ} {P : σ → Prop}

/-- A field that is found is one of the record's. -/
lemma mem_of_field? {inline : Bool} {name : String} {field : Field σ}
    (h : r.field? inline name = some field) : field ∈ r.fields :=
  List.mem_of_find?_eq_some h

/-- The record after the fields of an object. -/
lemma keeps_readEntries (hFields : ∀ field ∈ r.fields, field.Keeps P) {inline : Bool}
    {entries : List (String × Json)} {record after : σ} (hRecord : P record)
    (hRead : r.readEntries inline entries record = .ok after) : P after := by
  induction entries generalizing record with
  | nil =>
    cases hRead
    exact hRecord
  | cons entry rest ih =>
    rw [readEntries_cons] at hRead
    obtain ⟨next, hNext, hRest⟩ := exists_of_bind_eq_ok hRead
    refine ih ?_ hRest
    split at hNext
    · rename_i field hField
      exact (hFields field (mem_of_field? hField)).of_read _ _ _ hRecord hNext
    · cases hNext
      exact hRecord

/-- The record that an object gives. -/
lemma keeps_readObject (hBlank : P r.blank) (hFields : ∀ field ∈ r.fields, field.Keeps P)
    {entries : List (String × Json)} {after : σ} (hRead : r.readObject entries = .ok after) :
    P after := by
  obtain ⟨between, hBetween, hRest⟩ := exists_of_bind_eq_ok hRead
  split at hRest
  · cases hRest
  · exact keeps_readEntries hFields (keeps_readEntries hFields hBlank hBetween) hRest

/-- The record after the items of a list. -/
lemma keeps_readItems {fields : List (Field σ)} (hFields : ∀ field ∈ fields, field.Keeps P)
    {length index : Nat}
    {items : List Json} {record after : σ} (hRecord : P record)
    (hRead : r.readItems length index record fields items = .ok after) : P after := by
  induction fields generalizing index record items with
  | nil =>
    cases items with
    | nil =>
      cases hRead
      exact hRecord
    | cons item rest => cases hRead
  | cons field fields ih =>
    obtain ⟨hField, hOthers⟩ := List.forall_mem_cons.1 hFields
    cases items with
    | nil =>
      rw [readItems] at hRead
      split at hRead
      · exact ih hOthers hRecord hRead
      · cases hRead
    | cons item rest =>
      obtain ⟨next, hNext, hRest⟩ := exists_of_bind_eq_ok hRead
      exact ih hOthers (hField.of_read _ _ _ hRecord hNext) hRest

/-- The record that a value gives. -/
lemma keeps_read (hBlank : P r.blank) (hFields : ∀ field ∈ r.fields, field.Keeps P)
    {json : Json} {after : σ} (hRead : r.read json = .ok after) : P after := by
  cases json with
  | obj entries => exact keeps_readObject hBlank hFields hRead
  | arr items =>
    rw [read] at hRead
    split at hRead
    · exact keeps_readItems hFields hBlank hRead
    · cases hRead
  | null | bool | int | double | str => cases hRead

/-- What the fields of an object give after the next one of a text. -/
lemma yields_scanField (hFields : ∀ field ∈ r.fields, field.Keeps P) (name : String)
    {given : Given σ} (hGiven : P given.record) :
    (r.scanField name given).Yields fun after => P after.record := by
  rw [scanField]
  split
  · rename_i field hField
    split
    · exact Scan.yields_reject _
    · refine Scan.yields_bind fun _ => ?_
      exact ((hFields field (mem_of_field? hField)).of_scan _ hGiven).bind fun record hRecord =>
        Scan.yields_pure hRecord
  · refine Scan.yields_bind fun _ => ?_
    split
    · exact Scan.yields_bind fun _ => Scan.yields_pure hGiven
    · exact Scan.yields_bind fun _ => Scan.yields_pure hGiven

/-- What the fields of an object give that follow in a text. -/
lemma yields_scanFields (hFields : ∀ field ∈ r.fields, field.Keeps P) (steps : Nat) (first : Bool)
    {given : Given σ} (hGiven : P given.record) :
    (r.scanFields steps first given).Yields fun after => P after.record := by
  induction steps generalizing first given with
  | zero => exact Scan.yields_pure hGiven
  | succ steps ih =>
    refine Scan.yields_bind fun name => ?_
    split
    · exact (yields_scanField hFields _ hGiven).bind fun next hNext => ih false hNext
    · exact Scan.yields_pure hGiven

/-- The record after the inline fields that were put aside. -/
lemma keeps_readAside (hFields : ∀ field ∈ r.fields, field.Keeps P) {names : List String}
    {entries : List (String × Json)} {record after : σ} (hRecord : P record)
    (hRead : r.readAside names record entries = .ok after) : P after := by
  induction entries generalizing names record with
  | nil =>
    cases hRead
    exact hRecord
  | cons entry rest ih =>
    rw [readAside] at hRead
    split at hRead
    · exact ih hRecord hRead
    · rename_i field hField
      split at hRead
      · cases hRead
      · obtain ⟨next, hNext, hRest⟩ := exists_of_bind_eq_ok hRead
        exact ih ((hFields field (mem_of_field? hField)).of_read _ _ _ hRecord hNext) hRest

/-- The record after the items of a list of a text. -/
lemma yields_scanItems {fields : List (Field σ)} (hFields : ∀ field ∈ fields, field.Keeps P)
    (index : Nat) (first : Bool) {record : σ} (hRecord : P record) :
    (r.scanItems index first record fields).Yields P := by
  induction fields generalizing index first record with
  | nil => exact Scan.yields_pure hRecord
  | cons field fields ih =>
    obtain ⟨hField, hOthers⟩ := List.forall_mem_cons.1 hFields
    refine Scan.yields_bind fun more => ?_
    split
    · exact (hField.of_scan _ hRecord).bind fun next hNext => ih hOthers _ _ hNext
    · split
      · exact ih hOthers _ _ hRecord
      · exact Scan.yields_reject _

/-- The record that the text of a value gives. -/
lemma yields_scan (hBlank : P r.blank) (hFields : ∀ field ∈ r.fields, field.Keeps P) :
    r.scan.Yields P := by
  have hObject : r.scanObject.Yields P := by
    refine Scan.yields_bind fun steps =>
      (yields_scanFields hFields steps true hBlank).bind fun given hGiven => ?_
    split
    · exact Scan.yields_reject _
    · exact Scan.yields_ofRead fun after hRead => keeps_readAside hFields hGiven hRead
  have hList : r.scanList.Yields P := by
    rw [scanList]
    split
    · exact yields_scanItems hFields 0 true hBlank
    · exact Scan.yields_reject _
  refine Scan.yields_bind fun token => ?_
  split
  · exact .settle (.inside (hObject.closing _))
  · exact Scan.yields_refuse _
  · exact .settle (.inside (hList.closing _))
  · exact Scan.yields_refuse _

/-- A record has every property that its blank has and that each of its fields keeps. -/
theorem yields (hBlank : P r.blank) (hFields : ∀ field ∈ r.fields, field.Keeps P) :
    r.format.Yields P where
  of_read _ _ hRead := keeps_read hBlank hFields hRead
  of_scan := yields_scan hBlank hFields

end Record

end IamReconciler
