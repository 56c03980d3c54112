import IamReconciler.Proofs.Json.ReadingBack
import IamReconciler.Proofs.Json.Yields
import IamReconciler.Proofs.Resource.Formats
import IamReconciler.Proofs.Resource.Texts
import IamReconciler.Proofs.Resource.Timestamps

/-!
# Round trips

What is written of a value is read back as that value (`Form.roundtrips`).  This holds of all specs,
statuses, conditions and states.  It holds of a resource when its metadata are supported: their
numbers are below the bound of 64 bits with a sign, and no entry about managed fields tells of a
null, which would count as absent when it is read.

The same holds of the compact text of what is written, also for a resource when its metadata are
plain as well: their numbers are not below the least one of 64 bits, and what entries about managed
fields tell of has no numbers of double precision, whose text is read as a number that need not be
the nearest.

Only supported values are read, from a tree and from a text (`Form.yields_supported`).  So one
reading settles what a document stands for, whichever of its forms the document had: writing what
was read and reading it again changes nothing.
-/

namespace IamReconciler

/-! ## Owners and managers -/

/-- References to owners are read back. -/
lemma OwnerReference.faithful : OwnerReference.record.format.Faithful := by
  refine .of_readsBack fun owner => Record.readsBack (by decide) ?_
  exact .cons (Slot.refills_lenient Format.faithful_text) <|
    .cons (Field.refills_of_faithful Format.faithful_bool rfl) <|
    .cons (Field.refills_of_faithful Format.faithful_bool rfl) <|
    .cons (Slot.refills_lenient Format.faithful_text) <|
    .cons (Slot.refills_lenient Format.faithful_text) <|
    .cons (Slot.refills_lenient Format.faithful_text) .nil

namespace ManagedFields

/-- The fields that an entry tells of are not null. -/
def IsSupported (m : ManagedFields) : Prop :=
  ∀ json ∈ m.fields, json.isNull = false

/-- What it means for an entry to be supported, as a fact to rewrite with. -/
lemma isSupported_iff {m : ManagedFields} :
    m.IsSupported ↔ ∀ json ∈ m.fields, json.isNull = false :=
  Iff.rfl

/-- Entries about managed fields are read back when the fields they tell of are not null. -/
lemma readsBack {m : ManagedFields} (h : m.IsSupported) : record.format.ReadsBack m := by
  refine Record.readsBack (by decide) ?_
  exact .cons (Field.refills_of_faithful Format.faithful_text rfl) <|
    .cons (Field.refills_of_faithful Format.faithful_text rfl) <|
    .cons (Field.refills_absentable rfl fun json hJson => Format.readsBack_any (h json hJson)) <|
    .cons (Field.refills_of_faithful Format.faithful_text rfl) <|
    .cons (Field.refills_of_faithful Format.faithful_text rfl) <|
    .cons (Field.refills_of_faithful Format.faithful_text rfl) <|
    .cons (Field.refills_of_faithful Timestamp.faithful rfl) .nil

end ManagedFields

/-! ## Metadata -/

namespace Metadata

/-- The numbers of metadata fit into 64 bits, and the entries about managed fields are supported. -/
@[mk_iff isSupported_iff]
structure IsSupported (m : Metadata) : Prop where
  deletionGraceSeconds : ∀ i ∈ m.deletionGraceSeconds, i < (Nat.pow 2 63 : Nat)
  generation : ∀ i ∈ m.generation, i < (Nat.pow 2 63 : Nat)
  managedFields : ∀ entries ∈ m.managedFields, ∀ entry ∈ entries, entry.IsSupported

/-- Metadata of which nothing is given are supported. -/
lemma isSupported_empty : IsSupported {} :=
  ⟨nofun, nofun, nofun⟩

/-- Supported metadata are read back. -/
lemma readsBack {m : Metadata} (h : m.IsSupported) : record.format.ReadsBack m := by
  refine Record.readsBack (by decide) ?_
  exact .cons (Field.refills_of_faithful Format.faithful_text.map rfl) <|
    .cons (Field.refills_of_faithful Timestamp.faithful rfl) <|
    .cons (Field.refills_absentable rfl fun i hi =>
      Format.readsBack_int64 (h.deletionGraceSeconds i hi)) <|
    .cons (Field.refills_of_faithful Timestamp.faithful rfl) <|
    .cons (Field.refills_of_faithful Format.faithful_text.list rfl) <|
    .cons (Field.refills_of_faithful Format.faithful_text rfl) <|
    .cons (Field.refills_absentable rfl fun i hi => Format.readsBack_int64 (h.generation i hi)) <|
    .cons (Field.refills_of_faithful Format.faithful_text.map rfl) <|
    .cons (Field.refills_absentable rfl fun entries hEntries =>
      .list fun entry hEntry =>
        ManagedFields.readsBack (h.managedFields entries hEntries entry hEntry)) <|
    .cons (Field.refills_of_faithful Format.faithful_text rfl) <|
    .cons (Field.refills_of_faithful Format.faithful_text rfl) <|
    .cons (Field.refills_of_faithful OwnerReference.faithful.list rfl) <|
    .cons (Field.refills_of_faithful Format.faithful_text rfl) <|
    .cons (Field.refills_of_faithful Format.faithful_text rfl) <|
    .cons (Field.refills_of_faithful Format.faithful_text rfl) .nil

end Metadata

/-! ## Resources -/

/-- A resource is read back when its metadata are supported. -/
lemma Resource.readsBack {k : Kind} {r : Resource k} (h : r.metadata.IsSupported) :
    (format k).ReadsBack r :=
  ⟨ofJson_toJson_of_metadata (Metadata.readsBack h).read_write, rfl⟩

/-! ## What is read is supported -/

/-- Entries about managed fields that are read are supported. -/
lemma ManagedFields.yields_supported : record.format.Yields IsSupported := by
  refine Record.yields nofun ?_
  -- the fields whose values do not matter are settled at once, which leaves the one that does
  simp only [record, List.forall_mem_cons, Field.keeps_of_put, isSupported_iff, imp_self,
    implies_true, true_and, List.not_mem_nil, IsEmpty.forall_iff, and_true]
  exact Field.keeps_absentable Format.yields_nullable_any fun _ _ hGiven _ => hGiven

/-- Metadata that are read are supported. -/
lemma Metadata.yields_supported : record.format.Yields IsSupported := by
  refine Record.yields isSupported_empty ?_
  simp only [record, List.forall_mem_cons, Field.keeps_of_put, isSupported_iff, imp_self,
    implies_true, true_and, List.not_mem_nil, IsEmpty.forall_iff, and_true]
  exact ⟨Field.keeps_absentable Format.yields_int64.nullable fun _ _ hGiven h => ⟨hGiven, h.2, h.3⟩,
    Field.keeps_absentable Format.yields_int64.nullable fun _ _ hGiven h => ⟨h.1, hGiven, h.3⟩,
    Field.keeps_absentable ManagedFields.yields_supported.list.nullable fun _ _ hGiven h =>
    ⟨h.1, h.2, hGiven⟩⟩

/-- The metadata of a resource that is read are supported. -/
lemma Resource.yields_supported (k : Kind) : (format k).Yields fun r => r.metadata.IsSupported := by
  have hRecord : (record k).format.Yields fun r => r.metadata.IsSupported := by
    refine Record.yields Metadata.isSupported_empty ?_
    simp only [record, List.forall_mem_cons]
    refine ⟨Slot.keeps_field Metadata.yields_supported (fun _ _ hGiven _ => hGiven) _ _,
      Slot.keeps_field (Format.yields_true _) (fun _ _ _ h => h) _ _, .byName ?_,
      List.forall_mem_nil _⟩
    exact Field.keeps_of_put fun _ _ h => h
  exact ⟨hRecord.of_read, hRecord.of_scan⟩

/-! ## Forms -/

/-- What a document can stand for. -/
inductive Form where
  | resource (k : Kind)
  | spec (k : Kind)
  | status (k : Kind)
  /-- The state of a resource with its message. -/
  | condition
  | state

namespace Form

/-- The values of a form. -/
def Value : Form → Type
  | resource k => Resource k
  | spec k => k.Spec
  | status k => Status k
  | condition => Condition
  | state => State

/-- How the values of a form are written and read. -/
def format : (form : Form) → Format form.Value
  | resource k => Resource.format k
  | spec k => k.specRecord.format
  | status k => (Status.record k).format
  | condition => Condition.record.format
  | state => State.format false

/-- A value is supported unless it is a resource whose metadata are not. -/
def IsSupported : (form : Form) → form.Value → Prop
  | resource _, r => Metadata.IsSupported (Resource.metadata r)
  | spec _, _ => True
  | status _, _ => True
  | condition, _ => True
  | state, _ => True

variable {form : Form}

/-- A supported value is read back. -/
lemma readsBack : (form : Form) → {v : form.Value} → form.IsSupported v → form.format.ReadsBack v
  | resource _, _, h => Resource.readsBack h
  | spec k, v, _ => k.faithful_spec.readsBack v
  | status k, v, _ => (Status.faithful k).readsBack v
  | condition, v, _ => Condition.faithful.readsBack v
  | state, v, _ => (State.faithful false).readsBack v

/-- A value that is read is supported. -/
theorem yields_supported : (form : Form) → form.format.Yields form.IsSupported
  | resource k => Resource.yields_supported k
  | spec _ => Format.yields_true _
  | status _ => Format.yields_true _
  | condition => Format.yields_true _
  | state => Format.yields_true _

/-- A value is plain unless it is a resource whose metadata are not, of which the entries about
managed fields stand four levels deep. -/
def IsPlain : (form : Form) → form.Value → Prop
  | resource _, r => Metadata.IsPlain (Resource.metadata r) (Json.maxLevels - 4)
  | spec _, _ => True
  | status _, _ => True
  | condition, _ => True
  | state, _ => True

/-- A text gives what its tree gives. -/
lemma concurs : (form : Form) → form.format.Concurs
  | resource k => Resource.concurs k
  | spec k => k.concurs_spec
  | status k => Status.concurs k
  | condition => Condition.concurs
  | state => State.concurs false

/-- What is written of a plain value fits. -/
lemma fits : (form : Form) → {v : form.Value} → form.IsPlain v →
    (form.format.write v).Fits Json.maxLevels
  | resource _, _, h => Resource.fits h
  | spec k, v, _ => k.fits_spec v _
  | status _, v, _ => Status.fits v _
  | condition, v, _ => Condition.fits v _
  | state, v, _ => State.fits false v _

/-- A value is read back from what is written of it and, when it is plain, from its compact text. -/
structure RoundTrips (form : Form) (v : form.Value) : Prop where
  read_write : form.format.read (form.format.write v) = .ok v
  ofText_compact : form.IsPlain v →
    form.format.scan.ofText (form.format.write v).compact = .ok v

/-- Supported values round-trip. -/
lemma IsSupported.roundTrips {v : form.Value} (h : form.IsSupported v) : form.RoundTrips v where
  read_write := (form.readsBack h).read_write
  ofText_compact hPlain :=
    form.concurs.ofText_compact (form.fits hPlain) (form.readsBack h).read_write

/-- Every supported value round-trips, and so does every value that was read from a document, given
as a value or as a text. -/
theorem roundtrips (form : Form) :
    (∀ v, form.IsSupported v → form.RoundTrips v) ∧
      (∀ json v, form.format.read json = .ok v → form.RoundTrips v) ∧
      ∀ text v, form.format.scan.ofText text = .ok v → form.RoundTrips v := by
  refine ⟨fun v h => h.roundTrips, fun json v hRead => ?_, fun text v hScan => ?_⟩
  · exact (form.yields_supported.of_read json v hRead).roundTrips
  · exact (form.yields_supported.of_scan.of_ofText hScan).roundTrips

/-- A resource is read back, from a tree and from a text, also when its document gave the spec as a
list without the defaulted fields, a null for the status and a field that no resource has; and so is
a spec that was read from a text. -/
theorem roundtrips_of_positional :
    let developers : AccessGroupSpec := ⟨"developers", "", [], []⟩
    let r : Resource .accessGroup :=
      ⟨{ name := some "team", generation := some 3 }, developers, none⟩
    let document : Json := .obj
      [ ("extra", .int 1), ("metadata", .obj [("generation", .int 3), ("name", .str "team")]),
        ("spec", .arr [.str "developers"]), ("status", .null) ]
    let text := "[\"developers\"]"
    let f := (resource .accessGroup).format
    let g := (spec .accessGroup).format
    f.read (f.write r) = .ok r ∧ f.scan.ofText (f.write r).compact = .ok r ∧
      f.read document = .ok r ∧ (resource .accessGroup).RoundTrips r ∧
      g.scan.ofText text = .ok developers ∧ g.read (g.write developers) = .ok developers ∧
      g.scan.ofText (g.write developers).compact = .ok developers := by
  intro developers r document text f g
  have hSupported : (resource .accessGroup).IsSupported r :=
    ⟨nofun, fun i hi => by cases hi; decide, nofun⟩
  have hPlain : (resource .accessGroup).IsPlain r :=
    ⟨nofun, fun i hi => by cases hi; decide, nofun⟩
  have hRead : f.read document = .ok r := rfl
  have hOption : (AccessGroupSpec.record.format.scan.ofText text).toOption = some developers := by
    decide +kernel
  have hScan : g.scan.ofText text = .ok developers := by
    change AccessGroupSpec.record.format.scan.ofText text = _
    cases hText : AccessGroupSpec.record.format.scan.ofText text with
    | error fault =>
      rw [hText] at hOption
      cases hOption
    | ok v =>
      rw [hText] at hOption
      exact congrArg Except.ok (Option.some.inj hOption)
  have hWritten := (roundtrips (resource .accessGroup)).1 r hSupported
  have hScanned := (roundtrips (spec .accessGroup)).2.2 text developers hScan
  exact ⟨hWritten.read_write, hWritten.ofText_compact hPlain, hRead,
    (roundtrips (resource .accessGroup)).2.1 document r hRead, hScan, hScanned.read_write,
    hScanned.ofText_compact trivial⟩

end Form

end IamReconciler
