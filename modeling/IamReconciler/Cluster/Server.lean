import IamReconciler.Cluster.Objects
import IamReconciler.Cluster.Request
import IamReconciler.Json.Merge
import IamReconciler.Text.Quoted

/-!
# The API server

The API server answers requests from the objects that it keeps.  Reading or writing an object that
does not exist is refused.  A status patch is merged into the stored status and touches nothing
else.
-/

namespace IamReconciler

namespace Cluster

/-- The refusal of a request for an object that does not exist; the last two parts of its path are
the name of its collection and its own. -/
def notFound (path : String) : Reply :=
  let (parent, name) := Target.splitLast path
  let plural := (Target.splitLast parent).2
  ⟨404, .document (.object [
    ("kind", .str "Status"),
    ("apiVersion", .str "v1"),
    ("metadata", .object []),
    ("status", .str "Failure"),
    ("message", .str (plural ++ " \"" ++ name ++ "\" not found")),
    ("reason", .str "NotFound"),
    ("code", .nat 404)])⟩

/-- A reply with an object. -/
def found (object : Json) : Reply :=
  ⟨200, .document object⟩

/-- The reply to a write at a path, with the objects after it. -/
def written (o : Objects) (path : String) : Option (Json × Objects) → Reply × Objects
  | some (object, after) => (found object, after)
  | none => (notFound path, o)

/-- The resources of a kind, in the order of their paths. -/
def Objects.resourcesOf (o : Objects) (k : Kind) : List Json :=
  (o.stored.entries.map Prod.snd).filter fun object => object.textOf "kind" = k.name

/-- The path of the object that a request is about. -/
def Request.objectPath (r : Request) : String :=
  match r, Target.splitLast r.target.path with
  | .patchStatus .., (parent, "status") => parent
  | _, _ => r.target.path

/-- The reply to a request, with the objects after it. -/
def Objects.reply (o : Objects) (r : Request) : Reply × Objects :=
  match r with
  | .get _ =>
    match o.get? r.objectPath with
    | some object => (found object, o)
    | none => (notFound r.objectPath, o)
  | .replace _ object => written o r.objectPath (o.write? r.objectPath object)
  | .patchStatus _ _ patch =>
    written o r.objectPath (o.writeStatus? r.objectPath (·.merge (patch.field "status")))
  | .list k => (found (.object [("items", .arr (o.resourcesOf k))]), o)
  | .watch _ => (⟨200, .text ""⟩, o)

end Cluster

end IamReconciler
