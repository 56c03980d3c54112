import IamReconciler.Proofs.Attributes

/-!
# Attributes as a canonical map

Attributes are the same whenever their look-ups are, so that they can be compared as they are.
Names are set in turn; a name is bound to the last value that is not empty among those it was given
(`get?_ofList`), and the bindings come in the order of code points, each name once
(`canonical_ofList`).

What becomes of a name rests on the settings of that name alone.  Settings of different names can
therefore change places (`set_comm`), and sequences that set each name in the same way give the same
attributes (`ofList_congr`).
-/

namespace IamReconciler

/-- The code points of a text. -/
def codePoints (s : String) : List Nat :=
  s.toList.map Char.toNat

/-- Characters are in the order of their code points. -/
lemma map_toNat_lt_iff {cs ds : List Char} : cs.map Char.toNat < ds.map Char.toNat ↔ cs < ds := by
  induction cs generalizing ds with
  | nil => cases ds <;> simp
  | cons c cs ih =>
    cases ds with
    | nil => simp
    | cons d ds =>
      have hLt : c.toNat < d.toNat ↔ c < d := Iff.rfl
      rw [List.map_cons, List.map_cons, List.cons_lt_cons_iff, List.cons_lt_cons_iff, ih,
        hLt, Char.toNat_inj]

/-- Texts are in the order of their code points. -/
lemma codePoints_lt_iff {s t : String} : codePoints s < codePoints t ↔ s < t :=
  map_toNat_lt_iff.trans String.lt_iff.symm

namespace Attributes

variable {a : Attributes} {bindings others : List (String × String)} {name other value : String}

/-- The settings of a name that are not empty. -/
def settingsOf (name : String) (bindings : List (String × String)) : List (String × String) :=
  bindings.filter fun binding => binding.1 = name ∧ binding.2 ≠ ""

/-- The last value among those that a name is given and that are not empty. -/
def lastValue? (name : String) (bindings : List (String × String)) : Option String :=
  (settingsOf name bindings).getLast?.map Prod.snd

/-- A name is bound to the last value that it is given, apart from the empty value. -/
theorem get?_ofList (bindings : List (String × String)) (name : String) :
    (ofList bindings).get? name = lastValue? name bindings := by
  induction bindings using List.reverseRecOn with
  | nil => rfl
  | append_singleton init last ih =>
    obtain ⟨other, given⟩ := last
    rw [ofList_concat, get?_set, ih]
    by_cases hSet : given ≠ "" ∧ other = name
    · simp [lastValue?, settingsOf, hSet]
    · have hSkipped : ¬(other = name ∧ given ≠ "") := fun h => hSet h.symm
      simp [lastValue?, settingsOf, hSet, hSkipped]

/-- A name has a last value when it was set to one that is not empty. -/
lemma exists_lastValue?_iff :
    (∃ value, lastValue? name bindings = some value) ↔ ∃ value, value ≠ "" ∧
    (name, value) ∈ bindings := by
  have hSettings : settingsOf name bindings ≠ [] ↔ ∃ value, value ≠ "" ∧
      (name, value) ∈ bindings := by
    constructor
    · intro hSome
      obtain ⟨⟨other, value⟩, hMem⟩ := List.exists_mem_of_ne_nil _ hSome
      obtain ⟨hBinding, hSet⟩ := List.mem_filter.1 hMem
      obtain ⟨rfl, hValue⟩ := of_decide_eq_true hSet
      exact ⟨value, hValue, hBinding⟩
    · rintro ⟨value, hValue, hBinding⟩
      exact List.ne_nil_of_mem (List.mem_filter.2 ⟨hBinding, decide_eq_true ⟨rfl, hValue⟩⟩)
  rw [← hSettings, ← Option.isSome_iff_exists, lastValue?, Option.isSome_map, List.getLast?_isSome]

/-- An attribute is listed when its name is bound to its value. -/
lemma mem_toList_iff : (name, value) ∈ a.toList ↔ a.get? name = some value :=
  (Entries.get?_eq_some_iff (Entries.nodup_of_sorted a.map.sorted)).symm

/-- A name is listed when it is bound. -/
lemma mem_names_iff : name ∈ a.toList.map Prod.fst ↔ ∃ value, a.get? name = some value := by
  simp [← mem_toList_iff]

/-- Attributes come in the order of the code points of their names, each name once. -/
lemma pairwise_codePoints (a : Attributes) :
    a.toList.Pairwise fun entry next => codePoints entry.1 < codePoints next.1 :=
  a.map.sorted.imp codePoints_lt_iff.2

/-- Settings of different names can change places. -/
theorem set_comm (a : Attributes) (hNames : name ≠ other) (value otherValue : String) :
    (a.set name value).set other otherValue = (a.set other otherValue).set name value := by
  refine eq_of_get?_eq fun asked => ?_
  simp only [get?_set]
  by_cases hAsked : other = asked
  · -- the name that is asked for is not the first one
    subst hAsked
    simp [hNames]
  · simp [hAsked]

/-- Sequences that give each name the same values in the same order give the same attributes. -/
theorem ofList_congr (h : ∀ name, settingsOf name bindings = settingsOf name others) :
    ofList bindings = ofList others := by
  refine eq_of_get?_eq fun name => ?_
  rw [get?_ofList, get?_ofList, lastValue?, lastValue?, h]

/-- Attributes are the canonical map of a sequence of settings. -/
structure CanonicalFor (a : Attributes) (bindings : List (String × String)) : Prop where
  /-- A name is bound to the last value that it was set to, apart from the empty value, or to
  nothing. -/
  get?_eq : ∀ name, a.get? name = lastValue? name bindings
  /-- An attribute is listed when its name is bound to its value. -/
  listed_iff : ∀ name value, (name, value) ∈ a.toList ↔ a.get? name = some value
  /-- A name is listed when it was set to a value that is not empty. -/
  named_iff : ∀ name, name ∈ a.toList.map Prod.fst ↔ ∃ value, value ≠ "" ∧ (name, value) ∈ bindings
  /-- Names increase strictly, so that each is listed once. -/
  increasing : a.toList.Pairwise fun entry next => codePoints entry.1 < codePoints next.1
  /-- No value is empty. -/
  nonempty : ∀ name, (name, "") ∉ a.toList

/-- What a sequence of settings gives is its canonical map. -/
lemma canonicalFor_ofList (bindings : List (String × String)) :
    (ofList bindings).CanonicalFor bindings := by
  constructor
  case get?_eq => exact get?_ofList bindings
  case listed_iff => exact fun name value => mem_toList_iff
  case named_iff =>
    intro name
    rw [mem_names_iff, get?_ofList, exists_lastValue?_iff]
  case increasing => exact pairwise_codePoints _
  case nonempty => exact fun name hMem => (ofList bindings).nonempty _ hMem rfl

/-- **Attributes are a canonical map.**  Any sequence of settings gives the map of the last values
that are not empty, in strictly increasing order of names; two sequences give equal attributes
exactly when all look-ups agree; and settings of different names can change places, at any point and
throughout a sequence. -/
theorem canonical_ofList :
    (∀ bindings, (ofList bindings).CanonicalFor bindings) ∧
      (∀ bindings others, ofList bindings = ofList others ↔
        ∀ name, (ofList bindings).get? name = (ofList others).get? name) ∧
      (∀ (a : Attributes) (name other value otherValue : String), name ≠ other →
        (a.set name value).set other otherValue = (a.set other otherValue).set name value) ∧
      ∀ bindings others, (∀ name, settingsOf name bindings = settingsOf name others) →
        ofList bindings = ofList others := by
  refine ⟨canonicalFor_ofList, fun bindings others => ⟨?_, eq_of_get?_eq⟩, ?_,
    fun bindings others => ofList_congr⟩
  · intro hSame name
    rw [hSame]
  · exact fun a name other value otherValue hNames => set_comm a hNames value otherValue

/-- An empty value after a value that is not empty is ignored, wherever settings of other names
stand. -/
theorem canonical_ofList_of_overwritten :
    let bindings := [("region", "eu"), ("accountId", "a"), ("region", "us"), ("region", "")]
    let others := [("accountId", "a"), ("region", "eu"), ("region", "us")]
    ofList bindings = ofList others ∧
      (ofList bindings).toList = [("accountId", "a"), ("region", "us")] := by
  intro bindings others
  have hSame : ∀ name, settingsOf name bindings = settingsOf name others := by
    intro name
    by_cases hRegion : "region" = name
    · subst hRegion
      decide
    · simp [settingsOf, bindings, others, List.filter_cons, hRegion]
  exact ⟨canonical_ofList.2.2.2 bindings others hSame, by decide⟩

end Attributes

end IamReconciler
