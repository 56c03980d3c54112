import IamReconciler.Cluster.Location
import IamReconciler.Cluster.Target
import IamReconciler.Program
import IamReconciler.Text.FormValue

/-!
# Requests to the API server

The requests that the operator sends and the replies that come back.  A reply has a status code and
a body, which is a document or any other text.  When no reply comes back, there is a text that says
why.
-/

namespace IamReconciler

namespace Cluster

/-- A request to the API server. -/
inductive Request where
  /-- Read an object. -/
  | get (location : Location)
  /-- Write an object. -/
  | replace (location : Location) (object : Json)
  /-- Merge a patch into an object's status, in the name of a manager. -/
  | patchStatus (location : Location) (manager : String) (patch : Json)
  /-- List the resources of a kind. -/
  | list (k : Kind)
  /-- Watch the resources of a kind. -/
  | watch (k : Kind)

namespace Request

/-- The method of a request. -/
def method : Request → String
  | .get _ => "GET"
  | .replace .. => "PUT"
  | .patchStatus .. => "PATCH"
  | .list _ => "GET"
  | .watch _ => "GET"

/-- The text that the target of a request is read from. -/
def address : Request → String
  | .get location => location.path
  | .replace location _ => location.path ++ "?"
  | .patchStatus location manager _ =>
      location.path ++ "/status?&fieldManager=" ++ Text.formValue manager
  | .list k => (Collection.resources k).path ++ "?&limit=500"
  | .watch k =>
    (Collection.resources k).path ++
      "?&watch=true&timeoutSeconds=25&allowWatchBookmarks=true&resourceVersion=1"

/-- The target of a request. -/
def target (r : Request) : Target :=
  .ofText r.address

/-- The content type and the content of a request. -/
def content : Request → Option (String × Json)
  | .get _ => none
  | .replace _ object => some ("application/json", object)
  | .patchStatus _ _ patch => some ("application/merge-patch+json", patch)
  | .list _ => none
  | .watch _ => none

end Request

/-! ## Replies -/

/-- The body of a reply. -/
inductive Body where
  | document (json : Json)
  | text (s : String)

/-- A reply of the API server. -/
structure Reply where
  code : Nat
  body : Body

/-- The answer to a request: a reply, or the reason why none came back. -/
@[reducible] def Request.Answer (_ : Request) : Type := Except String Reply

/-- The interface of the API server. -/
def interface : Interface := ⟨Request, Request.Answer⟩

end Cluster

end IamReconciler
