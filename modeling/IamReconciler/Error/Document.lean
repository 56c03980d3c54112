import IamReconciler.Error
import IamReconciler.Json.Basic

/-!
# Errors as documents

An error is written with its class, its message and the answers to the two questions that are asked
of it.  It is read from a description: the type of the error together with its parts, where missing
texts are empty.
-/

namespace IamReconciler

namespace RemoteError

/-- The document of a remote error. -/
def toJson (e : RemoteError) : Json :=
  .object [("error", .str e.className), ("message", .str e.message),
    ("not_found", .bool e.isNotFound)]

/-- The remote error that a document describes; a request may be retried unless the document denies
it. -/
def ofJson (json : Json) : RemoteError :=
  match json.textOf "type" with
  | "not_found" => .notFound (json.textOf "entity") (json.textOf "id")
  | "conflict" => .conflict (json.textOf "message")
  | _ => .request (json.textOf "message") ((json.field "retryable").bool?.getD true)

end RemoteError

namespace ErrorStatus

/-- The error status that a document describes. -/
def ofJson (json : Json) : ErrorStatus where
  status := json.textOf "status"
  message := json.textOf "message"
  reason := json.textOf "reason"
  code := (json.field "code").nat?.getD 0

end ErrorStatus

namespace Error

/-- The document of an error. -/
def toJson (e : Error) : Json :=
  .object [
    ("error", .str e.className),
    ("message", .str e.message),
    ("not_found", .bool e.isNotFound),
    ("retryable", .bool e.isRetryable)]

/-- The error that a document describes. -/
def ofJson (json : Json) : Error :=
  let message := json.textOf "message"
  match json.textOf "type" with
  | "kube" => .cluster (.refused (.ofJson json))
  | "kube_service" => .cluster (.unreachable message)
  | "remote" => .remote (json.textOf "operation") (.ofJson (json.field "source"))
  | "validation" => .validation (json.textOf "field") message
  | "account" => .account (json.textOf "namespace") message
  | "resolution" => .resolution (json.textOf "resource") message
  | "serialization" => .serialization message ((json.given? "kind").map Json.text)
  | _ => .internal message (((json.given? "context").map Json.text).getD unknownContext)

end Error

end IamReconciler
