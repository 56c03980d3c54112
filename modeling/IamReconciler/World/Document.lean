import IamReconciler.Reconcile.Document
import IamReconciler.World.Operation
import IamReconciler.World.Session

/-!
# Worlds and scenarios as documents

A world is read from a document that names the state of the remote service, the objects of the
cluster, the script, the settings and the source of accounts, all of which may be missing.  An act
is read from a document that names what is done.  Reading fails when a document names something
unknown or holds a resource that cannot be read.
-/

namespace IamReconciler

/-! ## Worlds -/

/-- The settings of a document, which gives those that are not the default. -/
def Settings.ofJson (json : Json) : Settings :=
  let defaults : Settings := {}
  { syncPeriod := (json.field "sync_period").nat?.getD defaults.syncPeriod
    errorRequeue := (json.field "error_requeue").nat?.getD defaults.errorRequeue
    controllerNamespace :=
      (json.field "controller_namespace").str?.getD defaults.controllerNamespace
    fieldManager := (json.field "field_manager").str?.getD defaults.fieldManager }

/-- The document of settings. -/
def Settings.toJson (s : Settings) : Json :=
  .object [
    ("sync_period", .nat s.syncPeriod),
    ("error_requeue", .nat s.errorRequeue),
    ("controller_namespace", .str s.controllerNamespace),
    ("field_manager", .str s.fieldManager)]

namespace AccountSource

/-- The data of objects under their namespaces and names; a null stands for no object. -/
def dataOfJson (json : Json) : NameMap (NameMap String) :=
  NameMap.ofList ((json.fields.filter fun entry => !entry.2.isNull).map fun entry =>
    (entry.1, entry.2.textMap))

/-- The source of accounts that a document describes. -/
def ofJson (json : Json) : AccountSource :=
  match json.given? "namespaced" with
  | some source =>
    .lookedUp ((source.field "controller_namespace").str?.getD defaultNamespace)
      (dataOfJson (source.field "secrets")) (dataOfJson (source.field "config_maps"))
  | none => .given

end AccountSource

namespace Access

/-- The access that a document asks for. -/
def ofJson (json : Json) : Access :=
  if json.text = "kube" then .api else .direct

end Access

namespace World

/-- The world of a document but for its objects. -/
def ofJsonBare (access : Access) (json : Json) : World where
  service := .ofJson (json.field "remote")
  accounts := .ofJson (json.field "account")
  access := access
  settings := .ofJson (json.field "config")
  script := Script.extend {} (json.field "script")

/-- The world of a document, with objects that are kept just as they are. -/
def ofJsonKept (access : Access) (json : Json) : Reading World :=
  (json.itemsOf "resources").foldlM keep (ofJsonBare access json)

/-- The world of a document. -/
def ofJson (json : Json) : Reading World :=
  (json.itemsOf "resources").foldlM store (ofJsonBare (.ofJson (json.field "backend")) json)

/-- The world of a document for an operator that works through the API and looks its accounts up. -/
def ofOperatorJson (json : Json) : Reading World := do
  let w ← ofJsonKept .api json
  pure { w with accounts := .lookedUp w.settings.controllerNamespace NameMap.empty NameMap.empty }

end World

/-! ## Acts -/

/-- The namespace of resources when none is named. -/
def usualNamespace : String := "team-a"

namespace Act

/-- The kind that an act is about. -/
def kindOf (json : Json) (usual : String) : Reading Kind :=
  Reading.kind ((json.given? "kind").elim usual Json.text)

/-- The key that an act names. -/
def keyOf (json : Json) (ns name : String) : Key :=
  ⟨(json.field "namespace").str?.getD ns, (json.field "name").str?.getD name⟩

/-- The path of the object that an act is about. -/
def pathOf (json : Json) (usual : String) : Reading String := do
  let collection ← Reading.collection ((json.given? "kind").elim usual Json.text)
  let key := keyOf json usualNamespace ""
  pure (Cluster.Location.mk collection key.ns key.name).path

/-- The resource that an act is about, with the path of the object of its name. -/
def resourceOf (json : Json) (k : Kind) : Reading (Resource k × String) := do
  let r ← Reading.resource k (json.field "resource")
  let key := keyOf json (r.metadata.ns.getD usualNamespace) (r.metadata.name.getD "")
  pure (r, (Cluster.Location.ofKey k key).path)

/-- The listing that an act is about. -/
def listingOf (json : Json) : Reading Directory.Listing :=
  let name := json.textOf "entity"
  Reading.known "kind" name (Directory.Listing.ofName? name)

/-- The field that tells the documents of an act apart. -/
def fieldOf (json : Json) : String :=
  (json.field "key").str?.getD "id"

/-- The act of a document. -/
def ofJson (usual : String) (json : Json) : Reading Act := do
  match json.textOf "do" with
  | "put" => pure (.put (json.field "resource"))
  | "edit" => pure (.edit (← pathOf json usual) (json.field "merge"))
  | "mark_deleted" => pure (.markDeleted (← pathOf json usual))
  | "remote_set" => pure (.setEntity (← listingOf json) (fieldOf json) (json.field "value"))
  | "remote_delete" => pure (.removeEntity (← listingOf json) (fieldOf json) (json.field "id"))
  | "script" => pure (.extendScript (json.field "script"))
  | "account" => pure (.setAccounts (.ofJson (json.field "account")))
  | "reconcile" => pure (.reconcile (← kindOf json usual) (keyOf json usualNamespace ""))
  | "runner" =>
    let k ← kindOf json usual
    let (r, path) ← resourceOf json k
    pure (.schedule k r path)
  | "error_policy" =>
    let k ← kindOf json usual
    let (_, path) ← resourceOf json k
    pure (.recover path)
  | name => .error (.unknown "op" name)

end Act

/-! ## Reports -/

/-- The document of events. -/
def eventsToJson (events : List Event) : Json :=
  .arr (events.map Event.toJson)

/-- The document of a result under settings. -/
def ActResult.toJson (s : Settings) : ActResult → Json
  | .outcome o => o.toJson
  | .action a => resultToJson (Action.toJson s) a

/-- The document of a report under settings. -/
def Report.toJson (s : Settings) (r : Report) : Json :=
  .object [
    ("result", r.result.toJson s),
    ("calls", eventsToJson r.events),
    ("stored", Json.ofOption id r.stored)]

namespace World

/-- The document of the reports of a scenario, and of what was removed and what is left at its
end. -/
def playToJson (w : World) (acts : List (Reading Act)) : Reading Json := do
  let (reports, last) ← w.play acts
  pure (.object [
    ("steps", .arr (reports.map (Report.toJson w.settings))),
    ("removed", .arr last.objects.removed),
    ("remote", last.service.toJson)])

/-- The document of what the operator has done in some seconds, with the events if they are asked
for. -/
def operateToJson (w : World) (seconds : Nat) (traced : Bool) : Json :=
  let last := w.operate seconds
  let events := (last.eventsSince 0).filter fun e => !isDiscovery e
  let summary := Json.object [
    ("controllers", .nat Kind.all.length),
    ("requests", .obj (last.requestCounts.map fun entry => (entry.1, .nat entry.2))),
    ("objects", .arr last.resources),
    ("removed", .arr last.objects.removed),
    ("remote", last.service.toJson)]
  if traced then summary.setField "calls" (eventsToJson events) else summary

end World

/-! ## Steps of a kind -/

/-- The step of a document. -/
def KindStep.ofJson (k : Kind) (json : Json) : Reading (KindStep k) :=
  let id := json.textOf "id"
  match json.textOf "do" with
  | "create_request" => .ok .resolveCreation
  | "create_remote" =>
      .ok (.create ((json.given? "request").map fun doc => k.createRequestOfJson doc))
  | "update_request" => .ok .resolveUpdate
  | "fetch_remote" => .ok (.fetch id)
  | "update_remote" =>
    .ok (.update id ((json.given? "desired").map fun doc => k.updateRequestOfJson doc)
      ((json.given? "remote").map fun doc => (k.remoteOfJson doc, ⟨json.textOf "etag"⟩)))
  | "delete_remote" => .ok (.delete id)
  | name => .error (.unknown "op" name)

namespace KindSession

/-- The document of a session: what each step yields, the status of the resource, and the remote
service. -/
def runToJson {k : Kind} (s : KindSession k) (w : World) (steps : List (KindStep k)) : Json :=
  let (results, session, last) := s.run w steps
  let stepToJson (result : KindResult k × List Event) : Json :=
    match result with
    | (.skipped, _) => .object [("result", result.1.toJson)]
    | (_, events) => .object [("result", result.1.toJson), ("calls", eventsToJson events)]
  .object [
    ("steps", .arr (results.map stepToJson)),
    ("status", Json.ofOption (Status.record k).write session.resource.status),
    ("remote", last.service.toJson)]

end KindSession

end IamReconciler
