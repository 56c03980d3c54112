import IamReconciler.Proofs.Json.Scanning
import IamReconciler.Proofs.NameMap
import Mathlib.Data.List.Forall2

/-!
# Values in their texts

A scan hears a value as another when it gives that other one for the text of the value, wherever a
value may stand (`Scan.Hears`).  Lists and objects are heard item by item.  A value that fits is
heard as itself (`Scan.hears_value`) and can be passed (`Scan.hears_pass`), so that the compact text
of a value that fits spells this value (`Json.parse_compact`).
-/

namespace IamReconciler

namespace Scan

variable {α β : Type} {p : Scan α} {n : Nat} {json : Json} {rest : List Char} {a : α}

/-- With so many levels left, a scan gives a value for the text of a value of JSON and takes just
that text. -/
def Hears (p : Scan α) (n : Nat) (json : Json) (a : α) : Prop :=
  ∀ rest, Ends rest → p.Takes n (json.spell ++ rest) a rest

/-- A scan whose value is turned into another. -/
lemma Hears.map (f : α → β) (h : p.Hears n json a) : (f <$> p).Hears n json (f a) :=
  fun rest hEnds => (h rest hEnds).map f

/-- A scan whose faults get a place. -/
lemma Hears.settle (h : p.Hears n json a) : (settle p).Hears n json a :=
  fun rest hEnds => (h rest hEnds).settle

/-! ## Lists -/

/-- Another item of a list is to come. -/
lemma takes_hasItem {m : Nat} (hFits : json.Fits m) (first : Bool) (rest : List Char) :
    (hasItem first).Takes n (Json.separator first ++ (json.spell ++ rest)) true
      (json.spell ++ rest) := by
  obtain ⟨c, cs, hSpell, hStarts⟩ := hFits.exists_starts
  have hToken (cs : List Char) : peekToken.Takes n (c :: cs) (some c) (c :: cs) :=
    takes_peekToken hStarts.isSpace_eq_false
  rw [hSpell]
  cases first with
  | true =>
    refine .bind (hToken _) ?_
    split
    · contradiction
    · rename_i hEq
      exact absurd (Option.some.inj hEq) hStarts.ne_endList
    · exact takes_pure true
    · exact takes_pure true
  | false =>
    refine .bind (takes_peekToken rfl) (.bind takes_skip (.bind (hToken _) ?_))
    split
    · contradiction
    · rename_i hEq
      exact absurd (Option.some.inj hEq) hStarts.ne_endList
    · exact takes_pure true

/-- No other item of a list is to come. -/
lemma takes_hasItem_false (first : Bool) (rest : List Char) :
    (hasItem first).Takes n (']' :: rest) false (']' :: rest) :=
  .bind (takes_peekToken rfl) (takes_pure false)

/-- The end of a list. -/
lemma takes_endList (rest : List Char) : endList.Takes n (']' :: rest) () rest :=
  .bind (takes_peekToken rfl) takes_skip

/-- After an item of a list stands another one or the end of the list. -/
lemma ends_spellItems (items : List Json) (rest : List Char) :
    Ends (Json.spellItems false items ++ ']' :: rest) := by
  cases items with
  | nil => exact .list rest
  | cons item items => exact .comma _

/-- There are no more items than characters. -/
lemma length_le_spellItems {items : List Json} (hFits : ∀ item ∈ items, item.Fits n)
    (first : Bool) : items.length ≤ (Json.spellItems first items).length := by
  induction items generalizing first with
  | nil => exact Nat.zero_le _
  | cons item items ih =>
    obtain ⟨hItem, hItems⟩ := List.forall_mem_cons.1 hFits
    obtain ⟨c, cs, hSpell, -⟩ := hItem.exists_starts
    have := ih hItems false
    simp only [Json.spellItems, hSpell, List.length_append, List.length_cons]
    omega

/-- The items of a list are heard one after the other. -/
lemma takes_items {items : List Json} {values : List α} {m steps : Nat}
    (h : List.Forall₂ (p.Hears n) items values) (hFits : ∀ item ∈ items, item.Fits m)
    (hSteps : items.length ≤ steps) (first : Bool) (rest : List Char) :
    (Scan.items p steps first).Takes n (Json.spellItems first items ++ ']' :: rest) values
      (']' :: rest) := by
  induction h generalizing steps first with
  | nil =>
    cases steps with
    | zero => exact takes_pure []
    | succ steps => exact .bind (takes_hasItem_false first rest) (takes_pure [])
  | @cons item a items values hItem _ ih =>
    obtain ⟨hFit, hFits⟩ := List.forall_mem_cons.1 hFits
    obtain ⟨steps, rfl⟩ := Nat.exists_eq_add_of_lt hSteps
    rw [Json.spellItems, List.append_assoc, List.append_assoc]
    refine .bind (takes_hasItem hFit first _) ?_
    refine .bind (hItem _ (ends_spellItems items rest)) ?_
    refine .bind (ih hFits (by omega) false) ?_
    exact takes_pure _

/-- A list is heard as the list of what its items are heard as. -/
lemma Hears.list {items : List Json} {values : List α}
    (h : List.Forall₂ (p.Hears n) items values) (hFits : ∀ item ∈ items, item.Fits n) :
    (list p).Hears (n + 1) (.arr items) values := by
  intro rest _
  rw [Json.spell_arr_append]
  refine .inside (.closing (.bind takes_fuel ?_) (takes_endList rest))
  exact takes_items h hFits (le_fuel (length_le_spellItems hFits true)) true rest

/-! ## Objects -/

/-- Another field of an object is to come. -/
lemma takes_hasField (first : Bool) (rest : List Char) :
    (hasField first).Takes n (Json.separator first ++ '"' :: rest) true ('"' :: rest) := by
  cases first with
  | true => exact .bind (takes_peekToken rfl) (takes_pure true)
  | false =>
    exact .bind (takes_peekToken rfl) (.bind takes_skip (.bind (takes_peekToken rfl)
      (takes_pure true)))

/-- The name of another field of an object is to come. -/
lemma takes_fieldName (first : Bool) (name : String) (rest : List Char) :
    (fieldName first).Takes n (Json.separator first ++ (Json.spellString name ++ rest)) (some name)
      rest := by
  rw [Json.spellString_append]
  exact .bind (takes_hasField first _) (.bind takes_skip ((takes_stringText name).map some))

/-- No other field of an object is to come. -/
lemma takes_fieldName_none (first : Bool) (rest : List Char) :
    (fieldName first).Takes n ('\x7d' :: rest) none ('\x7d' :: rest) :=
  .bind (.bind (takes_peekToken rfl) (takes_pure false)) (takes_pure none)

/-- The colon after the name of a field. -/
lemma takes_colon (rest : List Char) : colon.Takes n (':' :: rest) () rest :=
  .bind (takes_peekToken rfl) takes_skip

/-- The end of an object. -/
lemma takes_endObject (rest : List Char) : endObject.Takes n ('\x7d' :: rest) () rest :=
  .bind (takes_peekToken rfl) takes_skip

/-- After a field of an object stands another one or the end of the object. -/
lemma ends_spellFields (fields : List (String × Json)) (rest : List Char) :
    Ends (Json.spellFields false fields ++ '\x7d' :: rest) := by
  cases fields with
  | nil => exact .object rest
  | cons field fields => exact .comma _

/-- There are no more fields than characters. -/
lemma length_le_spellFields (fields : List (String × Json)) (first : Bool) :
    fields.length ≤ (Json.spellFields first fields).length := by
  induction fields generalizing first with
  | nil => exact Nat.zero_le _
  | cons field fields ih =>
    obtain ⟨name, value⟩ := field
    have := ih false
    simp only [Json.spellFields, Json.spellField, Json.spellString, List.length_append,
      List.length_cons]
    omega

/-- The fields of an object are heard one after the other. -/
lemma takes_fields {fields : List (String × Json)} {entries : List (String × α)} {steps : Nat}
    (h : List.Forall₂ (fun field entry => entry.1 = field.1 ∧ p.Hears n field.2 entry.2) fields
      entries)
    (hSteps : fields.length ≤ steps) (first : Bool) (rest : List Char) :
    (Scan.fields p steps first).Takes n (Json.spellFields first fields ++ '\x7d' :: rest) entries
      ('\x7d' :: rest) := by
  induction h generalizing steps first with
  | nil =>
    cases steps with
    | zero => exact takes_pure []
    | succ steps => exact .bind (takes_fieldName_none first rest) (takes_pure [])
  | @cons field entry fields entries hField _ ih =>
    obtain ⟨name, value⟩ := field
    obtain ⟨_, a⟩ := entry
    obtain ⟨rfl, hValue⟩ := hField
    obtain ⟨steps, rfl⟩ := Nat.exists_eq_add_of_lt hSteps
    rw [Json.spellFields_append]
    refine .bind (takes_fieldName first _ _) (.bind (takes_colon _) ?_)
    refine .bind (hValue _ (ends_spellFields fields rest)) ?_
    refine .bind (ih (by omega) false) ?_
    exact takes_pure _

/-- An object is heard as the entries that its fields are heard as. -/
lemma Hears.object {fields : List (String × Json)} {entries : List (String × α)}
    (h : List.Forall₂ (fun field entry => entry.1 = field.1 ∧ p.Hears n field.2 entry.2) fields
      entries) :
    (object p).Hears (n + 1) (.obj fields) entries := by
  intro rest _
  rw [Json.spell_obj_append]
  refine .inside (.closing (.bind takes_fuel ?_) (takes_endObject rest))
  exact takes_fields h (le_fuel (length_le_spellFields fields true)) true rest

/-! ## Values of any form -/

/-- A natural number is heard as itself. -/
lemma hears_natural {m : Nat} (hFits : fitsWord (.ofNat m)) :
    glimpse.Hears n (.int (.ofNat m)) (.int (.ofNat m)) := by
  intro rest hEnds
  have hSign : decide (Int.ofNat m < 0) = false :=
    decide_eq_false (Int.not_lt.2 (Int.natCast_nonneg m))
  have hNumber := takes_number (n := n) hSign hFits hEnds
  obtain ⟨c, cs, hDigits, hDigit, -⟩ := Json.exists_toDigits_eq_cons m
  change (number false).Takes n (Nat.toDigits 10 m ++ rest) _ rest at hNumber
  rw [Json.spell_ofNat]
  rw [hDigits] at hNumber ⊢
  refine .bind (takes_peekToken (Json.isSpace_of_isDigit hDigit)) ?_
  split
  case h_1 hEq => cases hEq
  case h_9 hEq =>
    rw [← Option.some.inj hEq, if_pos hDigit]
    exact hNumber
  -- none of the characters that start other values is a digit
  all_goals
    rename_i hEq
    exact absurd (Option.some.inj hEq) (Json.ne_of_isDigit hDigit rfl)

/-- A value that is neither a list nor an object is heard as itself. -/
lemma hears_glimpse (hFits : json.Fits 0) : glimpse.Hears n json json := by
  intro rest hEnds
  cases hFits with
  | null =>
    exact .bind (takes_peekToken rfl) (.bind (takes_word ['n', 'u', 'l', 'l']) (takes_pure _))
  | bool b =>
    cases b with
    | true =>
      exact .bind (takes_peekToken rfl) (.bind (takes_word ['t', 'r', 'u', 'e']) (takes_pure _))
    | false =>
      exact .bind (takes_peekToken rfl)
        (.bind (takes_word ['f', 'a', 'l', 's', 'e']) (takes_pure _))
  | @int _ i hFits =>
    cases i with
    | ofNat m => exact hears_natural hFits rest hEnds
    | negSucc m =>
      rw [Json.spell_negSucc]
      exact .bind (takes_peekToken rfl) (.bind takes_skip
        (takes_number (decide_eq_true (Int.negSucc_lt_zero m)) hFits hEnds))
  | str s =>
    rw [Json.spell, Json.spellString_append]
    exact .bind (takes_peekToken rfl) (.bind takes_skip ((takes_stringText s).map Json.str))

/-- A value that fits is heard as itself. -/
lemma hears_valueWith {collect : List (String × Json) → List (String × Json)}
    (hCollect : ∀ fields, Entries.Sorted fields → collect fields = fields) {steps : Nat}
    (hSteps : n < steps) (hFits : json.Fits n) : (valueWith collect steps).Hears n json json := by
  induction steps generalizing n json with
  | zero => exact absurd hSteps (Nat.not_lt_zero n)
  | succ steps ih =>
    -- what is neither a list nor an object is left to the glimpse
    have hScalar (hFits : json.Fits 0) : (valueWith collect (steps + 1)).Hears n json json := by
      intro rest hEnds
      obtain ⟨c, cs, hSpell, hStarts⟩ := hFits.exists_starts
      have hGlimpse := hears_glimpse (n := n) hFits rest hEnds
      obtain ⟨hList, hObject⟩ := hStarts.ne_bracket hFits
      rw [hSpell] at hGlimpse ⊢
      refine .bind (takes_peekToken hStarts.isSpace_eq_false) ?_
      split
      · rename_i hEq
        exact absurd (Option.some.inj hEq) hList
      · rename_i hEq
        exact absurd (Option.some.inj hEq) hObject
      · exact hGlimpse
    cases hFits with
    | null => exact hScalar .null
    | bool b => exact hScalar (.bool b)
    | int h => exact hScalar (.int h)
    | str s => exact hScalar (.str s)
    | @arr n items hItems =>
      have hHeard : List.Forall₂ ((valueWith collect steps).Hears n) items items :=
        List.forall₂_same.2 fun item hItem => ih (by omega) (hItems item hItem)
      exact fun rest hEnds => .bind (takes_peekToken rfl)
        ((Hears.list hHeard hItems).map Json.arr rest hEnds)
    | @obj n fields hSorted hFields =>
      have hHeard : List.Forall₂ (fun field entry => entry.1 = field.1 ∧
          (valueWith collect steps).Hears n field.2 entry.2) fields fields :=
        List.forall₂_same.2 fun field hField => ⟨rfl, ih (by omega) (hFields field hField)⟩
      have hObject := (Hears.object hHeard).map fun entries => Json.obj (collect entries)
      rw [hCollect fields hSorted] at hObject
      exact fun rest hEnds => .bind (takes_peekToken rfl) (hObject rest hEnds)

/-- A value that fits is heard as itself. -/
theorem hears_value (hLevels : n ≤ Json.maxLevels) (hFits : json.Fits n) :
    value.Hears n json json :=
  hears_valueWith (fun _ => Entries.ofList_of_sorted) (Nat.lt_succ_of_le hLevels) hFits

/-- A value that fits is heard as itself also where the fields of objects are taken as they come. -/
lemma hears_plainValue (hLevels : n ≤ Json.maxLevels) (hFits : json.Fits n) :
    plainValue.Hears n json json :=
  hears_valueWith (fun _ _ => rfl) (Nat.lt_succ_of_le hLevels) hFits

/-! ## Values that are passed -/

/-- A natural number is passed. -/
lemma hears_passValue_natural (steps m : Nat) :
    (passValue (steps + 1)).Hears n (.int (.ofNat m)) () := by
  intro rest hEnds
  have hNumber := takes_passNumber (n := n) m hEnds
  obtain ⟨c, cs, hDigits, hDigit, -⟩ := Json.exists_toDigits_eq_cons m
  rw [Json.spell_ofNat]
  rw [hDigits] at hNumber ⊢
  refine .bind (takes_peekToken (Json.isSpace_of_isDigit hDigit)) ?_
  split
  case h_1 hEq => cases hEq
  case h_9 hEq =>
    rw [← Option.some.inj hEq, if_pos hDigit]
    exact hNumber
  all_goals
    rename_i hEq
    exact absurd (Option.some.inj hEq) (Json.ne_of_isDigit hDigit rfl)

/-- So many steps suffice to pass values, and what is left of lists and objects, that are spelled by
no more characters. -/
structure Passes (steps : Nat) : Prop where
  value : ∀ {m n : Nat} {json : Json}, json.Fits m → json.spell.length ≤ steps →
    (passValue steps).Hears n json ()
  items : ∀ {m n : Nat} {item : Json} {items : List Json} (rest : List Char),
    (∀ value ∈ item :: items, value.Fits m) →
    (Json.spellItems true (item :: items)).length < steps →
    (passItems steps).Takes n (Json.spellItems true (item :: items) ++ ']' :: rest) () rest
  fields : ∀ {m n : Nat} {field : String × Json} {fields : List (String × Json)}
    (rest : List Char), (∀ entry ∈ field :: fields, entry.2.Fits m) →
    (Json.spellFields true (field :: fields)).length < steps →
    (passFields steps).Takes n (Json.spellFields true (field :: fields) ++ '\x7d' :: rest) () rest

namespace Passes

variable {steps m : Nat}

/-- One more step suffices for a list. -/
lemma list_succ (ih : Passes steps) {items : List Json} (hItems : ∀ item ∈ items, item.Fits m)
    (hSteps : (Json.arr items).spell.length ≤ steps + 1) :
    (passValue (steps + 1)).Hears n (.arr items) () := by
  intro rest _
  rw [Json.length_spell_arr] at hSteps
  rw [Json.spell_arr_append]
  refine .bind (takes_peekToken rfl) (.bind takes_skip ?_)
  cases items with
  | nil => exact .bind (takes_peekToken rfl) takes_skip
  | cons item items =>
    -- the brackets are read already, so that the items have fewer characters than there are steps
    have hPass := ih.items (n := n) rest hItems (by omega)
    obtain ⟨c, cs, hSpell, hStarts⟩ := (List.forall_mem_cons.1 hItems).1.exists_starts
    rw [Json.spellItems_true, hSpell] at hPass ⊢
    refine .bind (takes_peekToken hStarts.isSpace_eq_false) ?_
    split
    · contradiction
    · rename_i hEq
      exact absurd (Option.some.inj hEq) hStarts.ne_endList
    · exact hPass

/-- One more step suffices for an object. -/
lemma object_succ (ih : Passes steps) {fields : List (String × Json)}
    (hFields : ∀ field ∈ fields, field.2.Fits m)
    (hSteps : (Json.obj fields).spell.length ≤ steps + 1) :
    (passValue (steps + 1)).Hears n (.obj fields) () := by
  intro rest _
  rw [Json.length_spell_obj] at hSteps
  rw [Json.spell_obj_append]
  refine .bind (takes_peekToken rfl) (.bind takes_skip ?_)
  cases fields with
  | nil => exact .bind (takes_peekToken rfl) takes_skip
  | cons field fields =>
    obtain ⟨name, value⟩ := field
    have hPass := ih.fields (n := n) rest hFields (by omega)
    rw [Json.spellFields_true] at hPass ⊢
    exact .bind (takes_peekToken rfl) hPass

/-- One more step suffices for a value. -/
lemma value_succ (ih : Passes steps) (hFits : json.Fits m)
    (hSteps : json.spell.length ≤ steps + 1) : (passValue (steps + 1)).Hears n json () := by
  intro rest hEnds
  cases hFits with
  | null => exact .bind (takes_peekToken rfl) (takes_word ['n', 'u', 'l', 'l'])
  | bool b =>
    cases b with
    | true => exact .bind (takes_peekToken rfl) (takes_word ['t', 'r', 'u', 'e'])
    | false => exact .bind (takes_peekToken rfl) (takes_word ['f', 'a', 'l', 's', 'e'])
  | @int _ i _ =>
    cases i with
    | ofNat k => exact hears_passValue_natural steps k rest hEnds
    | negSucc k =>
      rw [Json.spell_negSucc]
      exact .bind (takes_peekToken rfl) (.bind takes_skip (takes_passNumber (k + 1) hEnds))
  | str s =>
    rw [Json.spell, Json.spellString_append]
    exact .bind (takes_peekToken rfl) (.bind takes_skip (takes_passString s))
  | arr hItems => exact ih.list_succ hItems hSteps rest hEnds
  | obj _ hFields => exact ih.object_succ hFields hSteps rest hEnds

/-- One more step suffices for the items of a list. -/
lemma items_succ (ih : Passes steps) {item : Json} {items : List Json} (rest : List Char)
    (hFits : ∀ value ∈ item :: items, value.Fits m)
    (hSteps : (Json.spellItems true (item :: items)).length < steps + 1) :
    (passItems (steps + 1)).Takes n (Json.spellItems true (item :: items) ++ ']' :: rest) ()
      rest := by
  obtain ⟨hItem, hItems⟩ := List.forall_mem_cons.1 hFits
  rw [Json.spellItems_true, List.length_append] at hSteps
  rw [Json.spellItems_true, List.append_assoc]
  have hPass := ih.value (n := n) hItem (by omega)
  refine .bind (hPass _ (ends_spellItems items rest)) ?_
  cases items with
  | nil => exact .bind (takes_peekToken rfl) takes_skip
  | cons next items =>
    -- the item that was passed and the comma are what makes the rest shorter
    rw [Json.spellItems_false, List.length_cons] at hSteps
    obtain ⟨c, cs, hSpell, -⟩ := hItem.exists_starts
    rw [hSpell, List.length_cons] at hSteps
    exact .bind (takes_peekToken rfl) (.bind takes_skip (ih.items rest hItems (by omega)))

/-- One more step suffices for the fields of an object. -/
lemma fields_succ (ih : Passes steps) {field : String × Json} {fields : List (String × Json)}
    (rest : List Char) (hFits : ∀ entry ∈ field :: fields, entry.2.Fits m)
    (hSteps : (Json.spellFields true (field :: fields)).length < steps + 1) :
    (passFields (steps + 1)).Takes n (Json.spellFields true (field :: fields) ++ '\x7d' :: rest) ()
      rest := by
  obtain ⟨name, value⟩ := field
  obtain ⟨hValue, hFields⟩ : value.Fits m ∧ ∀ entry ∈ fields, entry.2.Fits m :=
    List.forall_mem_cons.1 hFits
  rw [Json.spellFields_true] at hSteps ⊢
  simp only [List.length_cons, List.length_append] at hSteps
  simp only [List.cons_append, List.append_assoc]
  have hPass := ih.value (n := n) hValue (by omega) _ (ends_spellFields fields rest)
  refine .bind (takes_peekToken rfl) (.bind takes_skip (.bind (takes_passString name) ?_))
  refine .bind (takes_colon _) (.bind hPass ?_)
  cases fields with
  | nil => exact .bind (takes_peekToken rfl) takes_skip
  | cons next fields =>
    rw [Json.spellFields_false, List.length_cons] at hSteps
    exact .bind (takes_peekToken rfl) (.bind takes_skip (ih.fields rest hFields (by omega)))

end Passes

/-- Steps suffice for what is spelled by no more characters. -/
lemma passes (steps : Nat) : Passes steps := by
  induction steps with
  | zero =>
    refine ⟨fun hFits hLength => ?_, fun _ _ hLength => absurd hLength (Nat.not_lt_zero _),
      fun _ _ hLength => absurd hLength (Nat.not_lt_zero _)⟩
    obtain ⟨c, cs, hSpell, -⟩ := hFits.exists_starts
    rw [hSpell] at hLength
    exact absurd hLength (Nat.not_succ_le_zero _)
  | succ steps ih => exact ⟨ih.value_succ, ih.items_succ, ih.fields_succ⟩

/-- A value that fits can be passed. -/
theorem hears_pass {m : Nat} (hFits : json.Fits m) : pass.Hears n json () := by
  intro rest hEnds
  exact .bind takes_fuel ((passes _).value hFits (le_fuel le_rfl) rest hEnds)

/-! ## Whole texts -/

/-- The compact text of a value is read as what the value is heard as. -/
theorem Hears.ofText_compact (h : p.Hears Json.maxLevels json a) :
    p.ofText json.compact = .ok a := by
  have hWhole : Takes (do
      let value ← p
      if (← peekToken).isSome then failAhead .trailing else pure value)
      Json.maxLevels (json.spell ++ []) a [] :=
    (h [] .text).bind (.bind takes_peekToken_nil (takes_pure a))
  obtain ⟨after, hRun⟩ := hWhole 0
  rw [List.append_nil, ← Json.toList_compact] at hRun
  exact congrArg Prod.fst hRun

end Scan

/-- The compact text of a value that fits spells this value. -/
theorem Json.parse_compact {json : Json} (hFits : json.Fits maxLevels) :
    parse json.compact = .ok json :=
  (Scan.hears_value le_rfl hFits).ofText_compact

end IamReconciler
