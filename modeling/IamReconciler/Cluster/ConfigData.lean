import IamReconciler.Error
import IamReconciler.Resource.Metadata
import IamReconciler.Text.Base64

/-!
# Configuration data

The data of secrets and of config maps.  A secret holds texts and, in base64, octets; the octets
have to spell texts as well, and they win over a text of the same key.  What else the two hold is
read and not kept.
-/

namespace IamReconciler

namespace Cluster

/-! ## Fields -/

/-- The text that a field with a fixed text has to hold. -/
def requireText (value given : String) : Except ReadFault Unit :=
  if given = value then .ok () else .error (.wrongValue (Json.str given).named value)

/-- A field that has to hold a fixed text where it is given. -/
def constantField (σ : Type) (name value : String) : Field σ where
  name := name
  presence := .optional
  inline := false
  write _ := some (.str value)
  read given record := do
    requireText value (← Format.text.read given)
    .ok record
  scan record := do
    let given ← Format.text.scan
    Scan.ofRead (requireText value given)
    pure record
  schema := Format.text.schema

/-- A field that may be absent and is read without being kept. -/
def checkedField {α : Type} (σ : Type) (name : String) (format : Format α) : Field σ :=
  .absentable name "" format (fun _ => none) fun _ record => record

/-- Octets in base64; a null stands for no octets. -/
def octets : Format (List Nat) :=
  .scalar (fun _ => .null)
    (fun
      | .null => .ok []
      | .str s =>
        match Text.decodeBase64 s with
        | .ok octets => .ok octets
        | .error fault => .error (.invalid fault.message)
      | other => .error (.wrongType other "a base64-encoded string"))
    (.object [("format", .str "byte"), ("type", .str "string")])

/-! ## Secrets -/

/-- A secret. -/
structure Secret where
  texts : Option (NameMap String)
  octets : Option (NameMap (List Nat))

/-- The format of secrets. -/
def secretRecord : Record Secret where
  expected := "Secret"
  doc := "Secret data"
  blank := ⟨none, none⟩
  fields :=
    [ constantField Secret "apiVersion" "v1",
      .absentable "data" "" (.map octets) (·.octets) fun v s => { s with octets := v },
      checkedField Secret "immutable" .bool,
      constantField Secret "kind" "Secret",
      checkedField Secret "metadata" Metadata.record.format,
      .absentable "stringData" "" .textMap (·.texts) fun v s => { s with texts := v },
      checkedField Secret "type" .text ]
  layout := .tolerant

/-- The fault of a key of a secret whose octets spell no text. -/
def keyFault (ns name key : String) (fault : Text.Utf8Fault) : Error :=
  .serialization (ns ++ "/" ++ name ++ " key " ++ key ++ ": " ++ fault.message) (some "Secret")

/-- The data of a secret at a place. -/
def Secret.data (ns name : String) (s : Secret) : Except Error (NameMap String) :=
  (s.octets.getD NameMap.empty).entries.foldlM (fun data entry =>
    match Text.decodeUtf8 entry.2 with
    | .ok text => .ok (data.insert entry.1 text)
    | .error fault => .error (keyFault ns name entry.1 fault)) (s.texts.getD NameMap.empty)

/-! ## Config maps -/

/-- A config map. -/
structure ConfigMap where
  texts : Option (NameMap String)

/-- The format of config maps. -/
def configMapRecord : Record ConfigMap where
  expected := "ConfigMap"
  doc := "Config map data"
  blank := ⟨none⟩
  fields :=
    [ constantField ConfigMap "apiVersion" "v1",
      checkedField ConfigMap "binaryData" (.map octets),
      .absentable "data" "" .textMap (·.texts) fun v c => { c with texts := v },
      checkedField ConfigMap "immutable" .bool,
      constantField ConfigMap "kind" "ConfigMap",
      checkedField ConfigMap "metadata" Metadata.record.format ]
  layout := .tolerant

/-- The data of a config map. -/
def ConfigMap.data (c : ConfigMap) : NameMap String :=
  c.texts.getD NameMap.empty

end Cluster

end IamReconciler
