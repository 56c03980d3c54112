import IamReconciler.Resource.Basic

/-!
# Manifests

The manifest of a kind is the definition by which a cluster learns of it: its names, its scope, the
columns of its listings, and the schema of its resources, which follows from the formats of spec and
status.
-/

namespace IamReconciler

namespace Kind

/-- The name of the manifest of a kind. -/
def manifestName (k : Kind) : String :=
  k.plural ++ "." ++ apiGroup

/-- The columns of a listing: a title, a type, and the path of the value. -/
def columns : Kind → List (String × String × String)
  | .accessGroup =>
    [("Group", "string", ".spec.name"), ("State", "string", ".status.state"),
      ("Age", "date", ".metadata.creationTimestamp")]
  | .accessPolicy =>
    [("Service", "string", ".spec.target.serviceClass"), ("State", "string", ".status.state"),
      ("Age", "date", ".metadata.creationTimestamp")]
  | .authorizationPolicy =>
    [("Source", "string", ".spec.source.serviceClass"),
      ("Target", "string", ".spec.target.serviceClass"), ("State", "string", ".status.state")]
  | .customRole =>
    [("Role", "string", ".spec.roleName"), ("Service", "string", ".spec.serviceClass"),
      ("State", "string", ".status.state")]

/-- The schema of the resources of a kind. -/
def resourceSchema (k : Kind) : Json :=
  .object [
    ("title", .str k.name),
    ("description", .str ("Auto-generated derived type for " ++ k.name ++
      "Spec via `CustomResource`")),
    ("type", .str "object"),
    ("properties", .object [
      ("spec", k.specRecord.schema),
      ("status", (Status.record k).schema.setField "nullable" (.bool true))]),
    ("required", .strs ["spec"])]

/-- The manifest of a kind. -/
def manifest (k : Kind) : Json :=
  let column (c : String × String × String) : Json :=
    .object [("name", .str c.1), ("type", .str c.2.1), ("jsonPath", .str c.2.2)]
  let versionEntry : Json := .object [
    ("additionalPrinterColumns", .arr (k.columns.map column)),
    ("name", .str version),
    ("schema", .object [("openAPIV3Schema", k.resourceSchema)]),
    ("served", .bool true),
    ("storage", .bool true),
    ("subresources", .object [("status", .object [])])]
  .object [
    ("apiVersion", .str "apiextensions.k8s.io/v1"),
    ("kind", .str "CustomResourceDefinition"),
    ("metadata", .object [("name", .str k.manifestName)]),
    ("spec", .object [
      ("group", .str apiGroup),
      ("names", .object [
        ("categories", .arr []),
        ("kind", .str k.name),
        ("plural", .str k.plural),
        ("shortNames", .arr []),
        ("singular", .str k.singular)]),
      ("scope", .str "Namespaced"),
      ("versions", .arr [versionEntry])])]

end Kind

end IamReconciler
