import IamReconciler.Json.Basic
import IamReconciler.Resource.Kind
import IamReconciler.Resource.Metadata

/-!
# Locations

Where the objects of the cluster are kept: in a collection, under a namespace and a name.  The path
of a location is its address in the API.
-/

namespace IamReconciler

namespace Cluster

/-- A collection of objects of one kind. -/
inductive Collection where
  | resources (k : Kind)
  | secrets
  | configMaps
  deriving DecidableEq, Repr

namespace Collection

/-- The name of a collection in paths. -/
def plural : Collection → String
  | .resources k => k.plural
  | .secrets => "secrets"
  | .configMaps => "configmaps"

/-- The path of the API that serves a collection. -/
def root : Collection → String
  | .resources _ => "/apis/" ++ Kind.apiVersion
  | .secrets => "/api/v1"
  | .configMaps => "/api/v1"

/-- The collection of the objects whose kind has a name. -/
def ofKindName? (name : String) : Option Collection :=
  if name = "Secret" then some .secrets
  else if name = "ConfigMap" then some .configMaps
  else (Kind.ofName? name).map .resources

/-- The path of the objects of all namespaces. -/
def path (c : Collection) : String :=
  c.root ++ "/" ++ c.plural

end Collection

/-- The place of an object. -/
structure Location where
  collection : Collection
  ns : String
  name : String
  deriving DecidableEq, Repr

namespace Location

/-- The path of a location. -/
def path (l : Location) : String :=
  l.collection.root ++ "/namespaces/" ++ l.ns ++ "/" ++ l.collection.plural ++ "/" ++ l.name

/-- The place of the resource of a key. -/
def ofKey (k : Kind) (key : Key) : Location :=
  ⟨.resources k, key.ns, key.name⟩

/-- The place that an object's kind and metadata name. -/
def ofObject? (object : Json) : Option Location :=
  (Collection.ofKindName? (object.textOf "kind")).map fun collection =>
    ⟨collection, (object.field "metadata").textOf "namespace",
      (object.field "metadata").textOf "name"⟩

end Location

end Cluster

end IamReconciler
