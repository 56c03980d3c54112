import IamReconciler.Directory.Document
import IamReconciler.Error.Document
import IamReconciler.Reconcile.Outcome
import IamReconciler.Reconcile.Strategy
import IamReconciler.Settings

/-!
# Requests and outcomes as documents

The JSON form of the requests and the remote entities of each kind, and of what a pass ends with.
-/

namespace IamReconciler

/-! ## Groups -/

namespace GroupUpdate

/-- The document of an update. -/
def toJson (u : GroupUpdate) : Json :=
  u.request.toJson.setField "member_ids" (.strs u.memberIds)

/-- The update of a document. -/
def ofJson (json : Json) : GroupUpdate :=
  ⟨.ofJson json, Entries.distinct (json.textsOf "member_ids")⟩

end GroupUpdate

namespace GroupSnapshot

/-- The document of a group that was read. -/
def toJson (s : GroupSnapshot) : Json :=
  s.group.toJson.setField "members" (.arr (s.members.map GroupMember.toJson))

/-- The group of a document. -/
def ofJson (json : Json) : GroupSnapshot :=
  ⟨.ofJson json, (json.itemsOf "members").map GroupMember.ofJson⟩

end GroupSnapshot

/-! ## Kinds -/

namespace Kind

/-- The document of a request that creates an entity. -/
def createRequestToJson : (k : Kind) → k.CreateRequest → Json
  | .accessGroup => GroupRequest.toJson
  | .accessPolicy => Policy.toJson
  | .authorizationPolicy => Policy.toJson
  | .customRole => RoleRequest.toJson

/-- The request of a document, which creates an entity. -/
def createRequestOfJson (json : Json) : (k : Kind) → k.CreateRequest
  | .accessGroup => GroupRequest.ofJson json
  | .accessPolicy => Policy.ofJson json
  | .authorizationPolicy => Policy.ofJson json
  | .customRole => RoleRequest.ofJson json

/-- The document of a request that updates an entity. -/
def updateRequestToJson : (k : Kind) → k.UpdateRequest → Json
  | .accessGroup => GroupUpdate.toJson
  | .accessPolicy => Policy.toJson
  | .authorizationPolicy => Policy.toJson
  | .customRole => RoleUpdate.toJson

/-- The request of a document, which updates an entity. -/
def updateRequestOfJson (json : Json) : (k : Kind) → k.UpdateRequest
  | .accessGroup => GroupUpdate.ofJson json
  | .accessPolicy => Policy.ofJson json
  | .authorizationPolicy => Policy.ofJson json
  | .customRole => RoleUpdate.ofJson json

/-- The document of an entity that was read. -/
def remoteToJson : (k : Kind) → k.Remote → Json
  | .accessGroup => GroupSnapshot.toJson
  | .accessPolicy => Policy.toJson
  | .authorizationPolicy => Policy.toJson
  | .customRole => RemoteRole.toJson

/-- The entity of a document. -/
def remoteOfJson (json : Json) : (k : Kind) → k.Remote
  | .accessGroup => GroupSnapshot.ofJson json
  | .accessPolicy => Policy.ofJson json
  | .authorizationPolicy => Policy.ofJson json
  | .customRole => RemoteRole.ofJson json

end Kind

/-- The document of a remote reference. -/
def RemoteRef.toJson (ref : RemoteRef) : Json :=
  .object [("id", .str ref.id), ("crn", Json.ofStr? ref.crn)]

/-! ## Ends of passes -/

/-- An interval as messages show it; no time at all is shown in the smallest unit. -/
def intervalText (seconds : Nat) : String :=
  if seconds = 0 then "0ns" else toString seconds ++ "s"

/-- The document of an action under settings; an interval that the settings do not know is spelt
out. -/
def Action.toJson (s : Settings) : Action → Json
  | .awaitChange => .str "await_change"
  | .requeue seconds =>
    if seconds = s.syncPeriod ∨ seconds = s.errorRequeue then .object [("requeue", .nat seconds)]
    else .str ("Action \x7b requeue_after: Some(" ++ intervalText seconds ++ ") \x7d")

/-- The document of an outcome. -/
def Outcome.toJson (o : Outcome) : Json :=
  .object [
    ("requeue_after", Json.ofOption Json.nat o.requeueAfter),
    ("error", Json.ofOption Error.toJson o.error)]

/-- The document of a result: its value under its own name, or the error. -/
def resultToJson {α : Type} (f : α → Json) : Except Error α → Json
  | .ok value => .object [("ok", f value)]
  | .error e => e.toJson

end IamReconciler
