import IamReconciler.Json.Format

/-!
# Records

A record format is a list of fields in the order of their declaration.  Reading an object takes its
fields in the order of their names and stops at the first bad one; unknown fields are ignored; then
the required fields that were not given are reported in the order of declaration; inline fields,
which stand among the others but belong to a part of the record, are read at the end.  A record may
also be given as a list of its fields in the order of declaration.

In a text the fields are taken as they come.  There a field can be given twice, which is a fault in
all records but the tolerant ones, where the later field counts.
-/

namespace IamReconciler

/-! ## Fields -/

/-- Whether a field has to be given. -/
inductive Presence where
  /-- The field has to be given. -/
  | required
  /-- The field may be left out of an object, but not out of a list. -/
  | optionalByName
  /-- The field may be left out. -/
  | optional
  deriving DecidableEq

/-- A field of a record. -/
structure Field (σ : Type) where
  name : String
  presence : Presence
  /-- The field stands among the others but belongs to a part of the record. -/
  inline : Bool
  /-- The written value; none leaves the field out. -/
  write : σ → Option Json
  /-- The record with the field read from a value. -/
  read : Json → σ → Except ReadFault σ
  /-- The record with the field read from the text of a value. -/
  scan : σ → Scan σ
  schema : Json

/-- A place in a record that holds a value: its name, the format of its value, the value it holds by
default, and how the value is taken from the record and put into it. -/
structure Slot (σ α : Type) where
  name : String
  format : Format α
  default : α
  get : σ → α
  put : α → σ → σ

namespace Slot

variable {σ α : Type}

/-- A slot for a text, empty by default. -/
def text (name : String) (get : σ → String) (put : String → σ → σ) : Slot σ String :=
  ⟨name, .text, "", get, put⟩

/-- A slot for a list of texts, empty by default. -/
def texts (name : String) (get : σ → List String) (put : List String → σ → σ) :
    Slot σ (List String) :=
  ⟨name, .list .text, [], get, put⟩

/-- The slot as a field of a presence with a schema. -/
def field (slot : Slot σ α) (presence : Presence) (schema : Json) : Field σ where
  name := slot.name
  presence := presence
  inline := false
  write record := some (slot.format.write (slot.get record))
  read value record := (slot.format.read value).map (slot.put · record)
  scan record := (slot.put · record) <$> slot.format.scan
  schema := schema

/-- The slot as a field that has to be given. -/
def required (slot : Slot σ α) (doc : String) : Field σ :=
  slot.field .required (slot.format.schema.setField "description" (.str doc))

/-- The slot as a field that may be left out and is always written. -/
def defaulted (slot : Slot σ α) (doc : String) : Field σ :=
  slot.field .optional ((slot.format.schema.setField "description" (.str doc)).setField "default"
    (slot.format.write slot.default))

/-- The slot as a field that may be left out or null and is always written. -/
def lenient (slot : Slot σ α) (doc : String) : Field σ :=
  { slot.field .optional (slot.format.schema.setField "description" (.str doc)) with
    read := fun value record =>
      (slot.format.nullable.read value).map fun given => slot.put (given.getD slot.default) record
    scan := fun record =>
      (fun given => slot.put (given.getD slot.default) record) <$> slot.format.nullable.scan }

end Slot

namespace Field

variable {σ τ α : Type}

/-- A field whose value may be absent, and which is then left out. -/
def absentable (name doc : String) (format : Format α) (get : σ → Option α)
    (put : Option α → σ → σ) : Field σ where
  name := name
  presence := .optional
  inline := false
  write record := (get record).map format.write
  read value record := (format.nullable.read value).map (put · record)
  scan record := (put · record) <$> format.nullable.scan
  schema := format.nullable.schema.setField "description" (.str doc)

/-- A field of a part, as a field of the whole. -/
def within (field : Field σ) (get : τ → σ) (put : σ → τ → τ) : Field τ where
  name := field.name
  presence := field.presence
  inline := field.inline
  write whole := field.write (get whole)
  read value whole := (field.read value (get whole)).map (put · whole)
  scan whole := (put · whole) <$> field.scan (get whole)
  schema := field.schema

/-- A field as one that stands inline. -/
def inlined (field : Field σ) : Field σ :=
  { field with inline := true }

/-- A field as one that may be left out of an object, but not out of a list. -/
def byName (field : Field σ) : Field σ :=
  { field with presence := .optionalByName }

end Field

/-! ## Records -/

/-- How a record may be given. -/
inductive Layout where
  /-- As an object, or as a list of the fields in the order of declaration. -/
  | plain
  /-- As an object only, in which unknown fields may belong to a part of the record. -/
  | mixed
  /-- As an object only, in which a later field replaces an earlier one of its name. -/
  | tolerant
  deriving DecidableEq

/-- The fields of a record, in the order of declaration. -/
structure Record (σ : Type) where
  /-- The record as faults name what they expected. -/
  expected : String
  /-- What the record is. -/
  doc : String
  /-- The record before any field is read. -/
  blank : σ
  fields : List (Field σ)
  layout : Layout

namespace Record

variable {σ : Type}

/-- The written record: every field that is not left out. -/
def write (r : Record σ) (record : σ) : Json :=
  .object (r.fields.filterMap fun field => (field.write record).map fun value =>
    (field.name, value))

/-- The field of a name that stands inline, or that does not. -/
def field? (r : Record σ) (inline : Bool) (name : String) : Option (Field σ) :=
  r.fields.find? fun field => field.name = name && field.inline = inline

/-- The first required field whose name is not among those given. -/
def firstMissing? (r : Record σ) (given : List String) : Option String :=
  (r.fields.find? fun field => field.presence = .required && !given.contains field.name).map
    Field.name

/-- The record as faults name it together with the number of its fields. -/
def expectedLength (r : Record σ) : String :=
  let n := r.fields.length
  r.expected ++ " with " ++ toString n ++ (if n = 1 then " element" else " elements")

/-! ### Reading values -/

/-- The record after the fields of an object that stand inline, or after those that do not. -/
def readEntries (r : Record σ) (inline : Bool) (entries : List (String × Json)) (record : σ) :
    Except ReadFault σ :=
  entries.foldlM (fun record entry =>
    match r.field? inline entry.1 with
    | some field => field.read entry.2 record
    | none => .ok record) record

/-- The record that an object gives. -/
def readObject (r : Record σ) (entries : List (String × Json)) : Except ReadFault σ := do
  let record ← r.readEntries false entries r.blank
  match r.firstMissing? (entries.map Prod.fst) with
  | some name => .error (.missing name)
  | none => r.readEntries true entries record

/-- The record after a list has given the fields from number `index` on. -/
def readItems (r : Record σ) (length index : Nat) (record : σ) :
    List (Field σ) → List Json → Except ReadFault σ
  | [], [] => .ok record
  | [], _ :: _ => .error (.wrongLength length "fewer elements in array")
  | field :: fields, [] =>
    if field.presence = .optional then r.readItems length (index + 1) record fields []
    else .error (.wrongLength index r.expectedLength)
  | field :: fields, item :: items => do
    let record ← field.read item record
    r.readItems length (index + 1) record fields items

/-- The record that a value gives. -/
def read (r : Record σ) (value : Json) : Except ReadFault σ :=
  match value with
  | .obj entries => r.readObject entries
  | .arr items =>
    if r.layout = .plain then r.readItems items.length 0 r.blank r.fields items
    else .error (.wrongType value r.expected)
  | other => .error (.wrongType other r.expected)

/-! ### Reading texts -/

/-- What the fields of an object have given so far. -/
structure Given (σ : Type) where
  record : σ
  /-- The names of the fields that were read. -/
  names : List String
  /-- The fields that were put aside, in order. -/
  aside : List (String × Json)

/-- What the fields of an object give after its next one, whose name was read. -/
def scanField (r : Record σ) (name : String) (given : Given σ) : Scan (Given σ) := do
  match r.field? false name with
  | some field =>
    if given.names.contains name && r.layout ≠ .tolerant then Scan.reject (.duplicate name)
    else
      Scan.colon
      let record ← field.scan given.record
      pure { given with record, names := name :: given.names }
  | none =>
    Scan.colon
    if r.layout = .mixed then
      let value ← Scan.plainValue
      pure { given with aside := given.aside ++ [(name, value)] }
    else
      Scan.pass
      pure given

/-- What the fields of an object give from the next one on, of which there are at most `steps`. -/
def scanFields (r : Record σ) : (steps : Nat) → (first : Bool) → Given σ → Scan (Given σ)
  | 0, _, given => pure given
  | steps + 1, first, given => do
    match ← Scan.fieldName first with
    | some name => r.scanFields steps false (← r.scanField name given)
    | none => pure given

/-- The record after the inline fields among those that were put aside; the first list holds the
names before. -/
def readAside (r : Record σ) (names : List String) (record : σ) :
    List (String × Json) → Except ReadFault σ
  | [] => .ok record
  | (name, value) :: rest =>
    match r.field? true name with
    | none => r.readAside names record rest
    | some field =>
      if names.contains name then .error (.duplicate name)
      else do
        let record ← field.read value record
        r.readAside (name :: names) record rest

/-- The record that the fields of an object give. -/
def scanObject (r : Record σ) : Scan σ := do
  let given ← r.scanFields (← Scan.fuel) true ⟨r.blank, [], []⟩
  match r.firstMissing? given.names with
  | some name => Scan.reject (.missing name)
  | none => Scan.ofRead (r.readAside [] given.record given.aside)

/-- The record after the items of a list have given the fields from number `index` on. -/
def scanItems (r : Record σ) (index : Nat) (first : Bool) (record : σ) : List (Field σ) → Scan σ
  | [] => pure record
  | field :: fields => do
    if ← Scan.hasItem first then
      let record ← field.scan record
      r.scanItems (index + 1) false record fields
    else if field.presence = .optional then r.scanItems (index + 1) first record fields
    else Scan.reject (.wrongLength index r.expectedLength)

/-- The record that a list gives, if a record may be given as a list. -/
def scanList (r : Record σ) : Scan σ :=
  if r.layout = .plain then r.scanItems 0 true r.blank r.fields
  else Scan.reject (.wrongType (.arr []) r.expected)

/-- The record that the text of a value gives. -/
def scan (r : Record σ) : Scan σ := do
  match ← Scan.peekToken, r.layout with
  | some '\x7b', _ => Scan.settle (Scan.inside (Scan.closing r.scanObject Scan.endObject))
  | some '[', .mixed => Scan.refuse r.expected
  | some '[', _ => Scan.settle (Scan.inside (Scan.closing r.scanList Scan.endList))
  | _, _ => Scan.refuse r.expected

/-! ### The format -/

/-- The schema of the written record. -/
def schema (r : Record σ) : Json :=
  let properties := r.fields.map fun field => (field.name, field.schema)
  let required := (r.fields.filter fun field => field.presence = .required).map Field.name
  let base := [("description", .str r.doc), ("properties", .object properties),
    ("type", .str "object")]
  .object (if required.isEmpty then base
    else ("required", .strs (required.mergeSort fun a b => decide (a ≤ b))) :: base)

/-- The format of a record. -/
def format (r : Record σ) : Format σ where
  write := r.write
  read := r.read
  scan := r.scan
  schema := r.schema

end Record

end IamReconciler
