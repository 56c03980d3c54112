import IamReconciler.Proofs.Json.Hearing
import IamReconciler.Proofs.Json.ReadingBack
import Mathlib.Data.List.Nodup

/-!
# The two ways of reading

A format reads a value from its tree and from its text.  The two concur when what is read from the
tree of a value that fits is also read from its text (`Format.Concurs`), as all formats of scalars,
lists, maps and records do whose parts concur.

The tree of an object has its fields in order, and the text spells them in that order; so both ways
take the same steps, and they differ in what they do with the fields that a record does not know and
with those that stand inline.  These a text puts aside while the others are read
(`Record.readAside_unknown`).
-/

namespace IamReconciler

namespace Format

variable {α : Type} {f : Format α}

/-- What the format reads from the tree of a value it also reads from its text. -/
def Concurs (f : Format α) : Prop :=
  ∀ ⦃n json a⦄, n ≤ Json.maxLevels → json.Fits n → f.read json = .ok a → f.scan.Hears n json a

/-- What is read from the tree of a value that fits is read from its compact text. -/
theorem Concurs.ofText_compact {json : Json} {a : α} (h : f.Concurs)
    (hFits : json.Fits Json.maxLevels) (hRead : f.read json = .ok a) :
    f.scan.ofText json.compact = .ok a :=
  (h le_rfl hFits hRead).ofText_compact

/-- A format of values that are neither lists nor objects. -/
lemma concurs_scalar {write : α → Json} {read : Json → Except ReadFault α} {schema : Json}
    (hList : ∀ items a, read (.arr items) ≠ .ok a)
    (hObject : ∀ fields a, read (.obj fields) ≠ .ok a) : (scalar write read schema).Concurs := by
  intro n json a _ hFits hRead
  have hScalar : json.Fits 0 := by
    cases hFits with
    | null => exact .null
    | bool b => exact .bool b
    | int h => exact .int h
    | str s => exact .str s
    | arr => exact absurd hRead (hList _ _)
    | obj => exact absurd hRead (hObject _ _)
  refine Scan.Hears.settle fun rest hEnds => ?_
  exact .bind (Scan.hears_glimpse hScalar rest hEnds) (Scan.takes_ofRead hRead)

/-- Texts. -/
@[simp] lemma concurs_text : text.Concurs :=
  concurs_scalar nofun nofun

/-- Truth values. -/
@[simp] lemma concurs_bool : bool.Concurs :=
  concurs_scalar nofun nofun

/-- Whole numbers. -/
@[simp] lemma concurs_int64 : int64.Concurs :=
  concurs_scalar nofun nofun

/-- Values of any form. -/
@[simp] lemma concurs_any : any.Concurs := by
  intro n json a hLevels hFits hRead
  cases hRead
  exact Scan.hears_value hLevels hFits

/-- Lists. -/
lemma Concurs.list (h : f.Concurs) : (list f).Concurs := by
  intro n json values hLevels hFits hRead rest hEnds
  cases hFits with
  | @arr n items hItems =>
    have hHeard : List.Forall₂ (f.scan.Hears n) items values :=
      forall₂_of_mapM_eq_ok hRead fun item hItem a =>
        h (Nat.le_of_succ_le hLevels) (hItems item hItem)
    refine .bind (Scan.takes_peekToken rfl) ?_
    rw [if_pos rfl]
    exact (Scan.Hears.list hHeard hItems).settle rest hEnds
  | null | bool | int | str | obj => cases hRead

/-- Maps from names. -/
lemma Concurs.map (h : f.Concurs) : (Format.map f).Concurs := by
  intro n json m hLevels hFits hRead rest hEnds
  cases hFits with
  | @obj n fields _ hFields =>
    obtain ⟨bindings, hBindings, hMap⟩ := exists_of_bind_eq_ok hRead
    cases hMap
    have hHeard : List.Forall₂ (fun field entry => entry.1 = field.1 ∧
        f.scan.Hears n field.2 entry.2) fields bindings := by
      refine forall₂_of_mapM_eq_ok hBindings fun field hField entry hEntry => ?_
      obtain ⟨value, hValue, hPair⟩ := exists_of_bind_eq_ok hEntry
      cases hPair
      exact ⟨rfl, h (Nat.le_of_succ_le hLevels) (hFields field hField) hValue⟩
    refine .bind (Scan.takes_peekToken rfl) ?_
    rw [if_pos rfl]
    exact (Scan.Hears.object hHeard).settle.map NameMap.ofList rest hEnds
  | null | bool | int | str | arr => cases hRead

/-- Values that may be absent. -/
lemma Concurs.nullable (h : f.Concurs) : f.nullable.Concurs := by
  intro n json value hLevels hFits hRead rest hEnds
  by_cases hNull : json = .null
  · subst hNull
    cases hRead
    refine .bind (Scan.takes_peekToken rfl) ?_
    rw [if_pos rfl]
    exact .bind (Scan.takes_word ['n', 'u', 'l', 'l']) (Scan.takes_pure none)
  · have hGiven : (f.read json).map some = .ok value := by
      cases json with
      | null => exact absurd rfl hNull
      | bool | int | double | str | arr | obj => exact hRead
    obtain ⟨a, hFirst, rfl⟩ := exists_of_map_eq_ok hGiven
    have hHeard := (h hLevels hFits hFirst).map some rest hEnds
    obtain ⟨c, cs, hSpell, hStarts⟩ := hFits.exists_starts
    -- both ways tell an absent value apart, one by its form and one by its first letter
    have hLetter : some c ≠ some 'n' := by
      rintro ⟨⟩
      exact hNull hStarts.eq_null
    rw [hSpell] at hHeard ⊢
    refine .bind (Scan.takes_peekToken hStarts.isSpace_eq_false) ?_
    rw [if_neg hLetter]
    exact hHeard

end Format

/-! ## Fields -/

namespace Field

variable {σ τ α : Type} {field : Field σ}

/-- What a field reads from the tree of a value it also reads from its text. -/
def Concurs (field : Field σ) : Prop :=
  ∀ ⦃n json record after⦄, n ≤ Json.maxLevels → json.Fits n →
    field.read json record = .ok after → (field.scan record).Hears n json after

/-- A field whose value may be absent. -/
lemma concurs_absentable {name doc : String} {format : Format α} {get : σ → Option α}
    {put : Option α → σ → σ} (h : format.Concurs) :
    (absentable name doc format get put).Concurs := by
  intro n json record after hLevels hFits hRead
  obtain ⟨given, hGiven, rfl⟩ := exists_of_map_eq_ok hRead
  exact (h.nullable hLevels hFits hGiven).map fun given => put given record

/-- A field of a part. -/
lemma Concurs.within {get : τ → σ} {put : σ → τ → τ} (h : field.Concurs) :
    (field.within get put).Concurs := by
  intro n json whole after hLevels hFits hRead
  obtain ⟨part, hPart, rfl⟩ := exists_of_map_eq_ok hRead
  exact (h hLevels hFits hPart).map fun part => put part whole

/-- A field that stands inline. -/
lemma Concurs.inlined (h : field.Concurs) : field.inlined.Concurs :=
  h

/-- A field that may be left out of an object only. -/
lemma Concurs.byName (h : field.Concurs) : field.byName.Concurs :=
  h

end Field

namespace Slot

variable {σ α : Type} {slot : Slot σ α}

/-- A slot that is not null. -/
lemma concurs_field (h : slot.format.Concurs) (presence : Presence) (schema : Json) :
    (slot.field presence schema).Concurs := by
  intro n json record after hLevels hFits hRead
  obtain ⟨given, hGiven, rfl⟩ := exists_of_map_eq_ok hRead
  exact (h hLevels hFits hGiven).map fun given => slot.put given record

/-- A slot for a text. -/
@[simp] lemma concurs_text {name : String} {get : σ → String} {put : String → σ → σ}
    (presence : Presence) (schema : Json) : ((text name get put).field presence schema).Concurs :=
  concurs_field Format.concurs_text _ _

/-- A slot for a list of texts. -/
@[simp] lemma concurs_texts {name : String} {get : σ → List String} {put : List String → σ → σ}
    (presence : Presence) (schema : Json) : ((texts name get put).field presence schema).Concurs :=
  concurs_field Format.concurs_text.list _ _

/-- A slot that may be null. -/
lemma concurs_lenient (h : slot.format.Concurs) (doc : String) : (slot.lenient doc).Concurs := by
  intro n json record after hLevels hFits hRead
  obtain ⟨given, hGiven, rfl⟩ := exists_of_map_eq_ok hRead
  exact (h.nullable hLevels hFits hGiven).map fun given =>
    slot.put (given.getD slot.default) record

end Slot

/-! ## Records -/

namespace Record

variable {σ : Type} {r : Record σ} {n : Nat}

/-- The fields have different names, and those that stand inline may be left out of a record whose
other fields are put aside. -/
def ReadsAside (r : Record σ) : Prop :=
  r.HasNames ∧ ∀ field ∈ r.fields, field.inline → r.layout = .mixed ∧ field.presence ≠ .required

instance (r : Record σ) : Decidable r.ReadsAside :=
  inferInstanceAs (Decidable (_ ∧ _))

/-- A name that is found among the fields that do not stand inline is none of those that do. -/
lemma field?_true_eq_none {name : String} {field : Field σ} (hNames : r.HasNames)
    (h : r.field? false name = some field) : r.field? true name = none := by
  refine List.find?_eq_none.2 fun other hOther hFound => ?_
  have hField := List.find?_some h
  simp only [Bool.and_eq_true, decide_eq_true_eq] at hField hFound
  have hEq : other = field := List.inj_on_of_nodup_map hNames hOther (mem_of_field? h)
    (hFound.1.trans hField.1.symm)
  rw [← hEq, hFound.2] at hField
  exact Bool.false_ne_true hField.2.symm

/-! ### Fields that are put aside -/

/-- The fields of an object that the record does not know, or knows as inline ones. -/
def unknown (r : Record σ) (entries : List (String × Json)) : List (String × Json) :=
  entries.filter fun entry => (r.field? false entry.1).isNone

/-- Names that are not among others are not among those and a further one either. -/
lemma not_mem_cons_of_fresh {entries : List (String × Json)} {names : List String} {name : String}
    (hName : name ∉ entries.map Prod.fst) (hFresh : ∀ entry ∈ entries, entry.1 ∉ names) :
    ∀ entry ∈ entries, entry.1 ∉ name :: names := by
  intro entry hEntry hMem
  rcases List.mem_cons.1 hMem with hEq | hMem
  · exact hName (List.mem_map.2 ⟨entry, hEntry, hEq⟩)
  · exact hFresh entry hEntry hMem

/-- The inline fields are read from what was put aside as from the whole object. -/
lemma readAside_unknown (hNames : r.HasNames) {entries : List (String × Json)} {names : List String}
    {record after : σ} (hNodup : (entries.map Prod.fst).Nodup)
    (hFresh : ∀ entry ∈ entries, entry.1 ∉ names)
    (hRead : r.readEntries true entries record = .ok after) :
    r.readAside names record (r.unknown entries) = .ok after := by
  induction entries generalizing names record with
  | nil => exact hRead
  | cons entry entries ih =>
    obtain ⟨name, value⟩ := entry
    obtain ⟨hName, hNodup⟩ := List.nodup_cons.1 hNodup
    obtain ⟨hFirst, hFresh⟩ := List.forall_mem_cons.1 hFresh
    rw [readEntries_cons] at hRead
    obtain ⟨next, hNext, hRead⟩ := exists_of_bind_eq_ok hRead
    -- what is known was read in its place, and only what is unknown was put aside
    cases hKnown : r.field? false name with
    | some field =>
      have hSkip : r.unknown ((name, value) :: entries) = r.unknown entries :=
        List.filter_cons_of_neg (by simp only [hKnown, Option.isNone_some, Bool.false_eq_true,
          not_false_eq_true])
      rw [field?_true_eq_none hNames hKnown] at hNext
      cases hNext
      rw [hSkip]
      exact ih hNodup hFresh hRead
    | none =>
      have hKeep : r.unknown ((name, value) :: entries) = (name, value) :: r.unknown entries :=
        List.filter_cons_of_pos (by simp only [hKnown, Option.isNone_none])
      rw [hKeep, readAside]
      split
      · rename_i hInline
        rw [hInline] at hNext
        cases hNext
        exact ih hNodup hFresh hRead
      · rename_i field hInline
        rw [hInline] at hNext
        have hOnce : names.contains name = false := by
          simpa only [List.contains_eq_mem, decide_eq_false_iff_not] using hFirst
        have hFirst : field.read value record = .ok next := hNext
        rw [hOnce, hFirst]
        exact ih hNodup (not_mem_cons_of_fresh hName hFresh) hRead

/-! ### Objects -/

/-- What is given after more fields, which lead to a record. -/
def Given.add (r : Record σ) (given : Given σ) (entries : List (String × Json)) (after : σ) :
    Given σ where
  record := after
  names := ((entries.map Prod.fst).filter fun name => (r.field? false name).isSome).reverse ++
    given.names
  aside := given.aside ++ if r.layout = .mixed then r.unknown entries else []

/-- No further field changes nothing. -/
lemma Given.add_nil (given : Given σ) : given.add r [] given.record = given := by
  obtain ⟨record, names, aside⟩ := given
  simp only [Given.add, unknown, List.map_nil, List.filter_nil, List.reverse_nil, List.nil_append,
    ite_self, List.append_nil]

section

variable {given : Given σ} {entries : List (String × Json)} {name : String} {value : Json}
  {after : σ}

/-- A field that the record knows is read, and its name is kept. -/
lemma Given.add_known {field : Field σ} (hKnown : r.field? false name = some field) (next : σ) :
    given.add r ((name, value) :: entries) after =
      Given.add r { given with record := next, names := name :: given.names } entries after := by
  simp only [Given.add, unknown, List.map_cons, List.filter_cons, hKnown, Option.isSome_some,
    Option.isNone_some, if_true, Bool.false_eq_true, if_false, List.reverse_cons,
    List.append_assoc, List.singleton_append]

/-- Any other field is put aside where there are inline ones. -/
lemma Given.add_unknown (hKnown : r.field? false name = none) :
    given.add r ((name, value) :: entries) after = Given.add r
      { given with aside := given.aside ++ if r.layout = .mixed then [(name, value)] else [] }
      entries after := by
  simp only [Given.add, unknown, List.map_cons, List.filter_cons, hKnown, Option.isSome_none,
    Option.isNone_none, if_true, Bool.false_eq_true, if_false, List.append_assoc]
  split
  · rfl
  · rfl

end

/-- A field that the record knows. -/
lemma takes_scanField_some (hFields : ∀ field ∈ r.fields, field.Concurs)
    (hLevels : n ≤ Json.maxLevels) {name : String} {value : Json} {given : Given σ}
    {field : Field σ} {next : σ} {rest : List Char} (hField : r.field? false name = some field)
    (hFresh : name ∉ given.names) (hFits : value.Fits n)
    (hRead : field.read value given.record = .ok next) (hEnds : Scan.Ends rest) :
    (r.scanField name given).Takes n (':' :: (value.spell ++ rest))
      { given with record := next, names := name :: given.names } rest := by
  have hOnce : (given.names.contains name && decide (r.layout ≠ .tolerant)) = false := by
    rw [List.contains_eq_mem, decide_eq_false hFresh, Bool.false_and]
  have hHeard := hFields field (mem_of_field? hField) hLevels hFits hRead rest hEnds
  rw [scanField, hField]
  dsimp only
  rw [hOnce]
  exact .bind (Scan.takes_colon _) (.bind hHeard (Scan.takes_pure _))

/-- A field that the record does not know, or knows as an inline one. -/
lemma takes_scanField_none (hLevels : n ≤ Json.maxLevels) {name : String} {value : Json}
    {given : Given σ} {rest : List Char} (hField : r.field? false name = none)
    (hFits : value.Fits n) (hEnds : Scan.Ends rest) :
    (r.scanField name given).Takes n (':' :: (value.spell ++ rest))
      { given with aside := given.aside ++ if r.layout = .mixed then [(name, value)] else [] }
      rest := by
  rw [scanField, hField]
  refine .bind (Scan.takes_colon _) ?_
  by_cases hMixed : r.layout = .mixed
  · rw [if_pos hMixed, if_pos hMixed]
    exact .bind (Scan.hears_plainValue hLevels hFits rest hEnds) (Scan.takes_pure _)
  · rw [if_neg hMixed, if_neg hMixed, List.append_nil]
    exact .bind (Scan.hears_pass hFits rest hEnds) (Scan.takes_pure _)

/-- What the fields of an object give is what they give one after the other. -/
lemma takes_scanFields (hFields : ∀ field ∈ r.fields, field.Concurs)
    (hLevels : n ≤ Json.maxLevels) {entries : List (String × Json)} {given : Given σ} {after : σ}
    {steps : Nat} (hNodup : (entries.map Prod.fst).Nodup)
    (hFresh : ∀ entry ∈ entries, entry.1 ∉ given.names) (hFits : ∀ entry ∈ entries, entry.2.Fits n)
    (hRead : r.readEntries false entries given.record = .ok after) (hSteps : entries.length ≤ steps)
    (first : Bool) (rest : List Char) :
    (r.scanFields steps first given).Takes n (Json.spellFields first entries ++ '\x7d' :: rest)
      (given.add r entries after) ('\x7d' :: rest) := by
  -- the induction is on the fields that are left, after those that are given
  induction entries generalizing given steps first with
  | nil =>
    cases hRead
    rw [Given.add_nil]
    cases steps with
    | zero => exact Scan.takes_pure given
    | succ steps => exact .bind (Scan.takes_fieldName_none first rest) (Scan.takes_pure given)
  | cons entry entries ih =>
    obtain ⟨name, value⟩ := entry
    obtain ⟨hName, hNodup⟩ := List.nodup_cons.1 hNodup
    obtain ⟨hFirst, hFresh⟩ := List.forall_mem_cons.1 hFresh
    obtain ⟨hValue, hFits⟩ : value.Fits n ∧ ∀ entry ∈ entries, entry.2.Fits n :=
      List.forall_mem_cons.1 hFits
    obtain ⟨steps, rfl⟩ := Nat.exists_eq_add_of_lt hSteps
    rw [readEntries_cons] at hRead
    obtain ⟨next, hNext, hRead⟩ := exists_of_bind_eq_ok hRead
    have hEnds := Scan.ends_spellFields entries rest
    rw [Json.spellFields_append]
    refine .bind (Scan.takes_fieldName first name _) ?_
    cases hKnown : r.field? false name with
    | some field =>
      rw [hKnown] at hNext
      rw [Given.add_known hKnown next]
      exact .bind (takes_scanField_some hFields hLevels hKnown hFirst hValue hNext hEnds)
        (ih hNodup (not_mem_cons_of_fresh hName hFresh) hFits hRead (Nat.le_add_right _ _) false)
    | none =>
      rw [hKnown] at hNext
      cases hNext
      rw [Given.add_unknown hKnown]
      refine .bind (takes_scanField_none hLevels hKnown hValue hEnds)
        (ih hNodup ?_ hFits ?_ (Nat.le_add_right _ _) false)
      · exact hFresh
      · exact hRead

/-- An object gives from its text the record that it gives from its tree. -/
lemma takes_scanObject (hAside : r.ReadsAside) (hFields : ∀ field ∈ r.fields, field.Concurs)
    (hLevels : n ≤ Json.maxLevels) {entries : List (String × Json)} {after : σ}
    (hSorted : Entries.Sorted entries) (hFits : ∀ entry ∈ entries, entry.2.Fits n)
    (hRead : r.readObject entries = .ok after) (rest : List Char) :
    r.scanObject.Takes n (Json.spellFields true entries ++ '\x7d' :: rest) after
      ('\x7d' :: rest) := by
  obtain ⟨hNames, hInline⟩ := hAside
  obtain ⟨between, hBetween, hRead⟩ := exists_of_bind_eq_ok hRead
  have hNodup := Entries.nodup_of_sorted hSorted
  -- the names of an object in order are all different, so that no field is taken for a duplicate
  refine .bind Scan.takes_fuel (.bind (takes_scanFields hFields hLevels hNodup
    (fun _ _ => List.not_mem_nil) hFits hBetween
    (Scan.le_fuel (Scan.length_le_spellFields entries true)) true rest) ?_)
  split at hRead
  · cases hRead
  · rename_i hGiven
    -- a required field does not stand inline, so that it is not put aside
    have hMissing :
        r.firstMissing? (Given.add r ⟨r.blank, [], []⟩ entries between).names = none := by
      refine firstMissing?_eq_none_iff.2 fun field hField hRequired => ?_
      have hPlain : field.inline = false :=
        Bool.eq_false_iff.2 fun h => (hInline field hField h).2 hRequired
      have hKnown : r.field? false field.name = some field := hPlain ▸ field?_of_mem hNames hField
      simp only [Given.add, List.append_nil, List.mem_reverse, List.mem_filter, hKnown,
        Option.isSome_some, and_true]
      exact firstMissing?_eq_none_iff.1 hGiven field hField hRequired
    rw [hMissing]
    refine Scan.takes_ofRead ?_
    by_cases hMixed : r.layout = .mixed
    · simp only [Given.add, if_pos hMixed, List.nil_append]
      exact readAside_unknown hNames hNodup (fun _ _ => List.not_mem_nil) hRead
    · have hPlain : ∀ field ∈ r.fields, field.inline = false := fun field hField =>
        Bool.eq_false_iff.2 fun h => hMixed (hInline field hField h).1
      simp only [Given.add, if_neg hMixed, List.append_nil]
      rw [readEntries_inline hPlain] at hRead
      exact hRead

/-! ### Lists -/

/-- A list gives from its text the record that it gives from its tree. -/
lemma takes_scanItems {fields : List (Field σ)} (hFields : ∀ field ∈ fields, field.Concurs)
    (hLevels : n ≤ Json.maxLevels) {items : List Json} {length index : Nat} {record after : σ}
    (hFits : ∀ item ∈ items, item.Fits n)
    (hRead : r.readItems length index record fields items = .ok after) (first : Bool)
    (rest : List Char) :
    (r.scanItems index first record fields).Takes n (Json.spellItems first items ++ ']' :: rest)
      after (']' :: rest) := by
  induction fields generalizing items index record first with
  | nil =>
    cases items with
    | nil =>
      cases hRead
      exact Scan.takes_pure _
    | cons item items => cases hRead
  | cons field fields ih =>
    obtain ⟨hField, hFields⟩ := List.forall_mem_cons.1 hFields
    -- a list may end early, where all that is missing may be missing
    cases items with
    | nil =>
      refine .bind (Scan.takes_hasItem_false first rest) ?_
      rw [if_neg Bool.false_ne_true]
      rw [readItems] at hRead
      split at hRead
      · rename_i hOptional
        rw [if_pos hOptional]
        exact ih hFields hFits hRead first
      · cases hRead
    | cons item items =>
      obtain ⟨hItem, hFits⟩ := List.forall_mem_cons.1 hFits
      obtain ⟨next, hNext, hRead⟩ := exists_of_bind_eq_ok hRead
      rw [Json.spellItems, List.append_assoc, List.append_assoc]
      refine .bind (Scan.takes_hasItem hItem first _) ?_
      rw [if_pos rfl]
      exact .bind (hField hLevels hItem hNext _ (Scan.ends_spellItems items rest))
        (ih hFields hFits hRead false)

/-! ### All forms -/

/-- What a record reads from the tree of a value it also reads from its text. -/
theorem concurs (hAside : r.ReadsAside) (hFields : ∀ field ∈ r.fields, field.Concurs) :
    r.format.Concurs := by
  intro n json after hLevels hFits hRead rest _
  cases hFits with
  | @obj n entries hSorted hEntries =>
    have hObject := takes_scanObject hAside hFields (Nat.le_of_succ_le hLevels) hSorted hEntries
      hRead rest
    rw [Json.spell_obj_append]
    exact .bind (Scan.takes_peekToken rfl)
      (.settle (.inside (.closing hObject (Scan.takes_endObject rest))))
  | @arr n items hItems =>
    change (if r.layout = .plain then _ else _) = _ at hRead
    split at hRead
    · rename_i hPlain
      have hList : r.scanList.Takes n (Json.spellItems true items ++ ']' :: rest) after
          (']' :: rest) := by
        rw [scanList, if_pos hPlain]
        exact takes_scanItems hFields (Nat.le_of_succ_le hLevels) hItems hRead true rest
      rw [Json.spell_arr_append]
      refine .bind (Scan.takes_peekToken rfl) ?_
      rw [hPlain]
      exact .settle (.inside (.closing hList (Scan.takes_endList rest)))
    · cases hRead
  | null | bool | int | str => cases hRead

end Record

end IamReconciler
