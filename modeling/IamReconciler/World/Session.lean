import IamReconciler.Reconcile.Document
import IamReconciler.World.Scenario

/-!
# Single steps of a kind

The steps by which a kind keeps its remote entities, one at a time: each step is run in a world for
one resource, and what it yields is kept for the steps after it, as is what a step brings along to
work on.  An entity that was created or updated is recorded in the resource.
-/

namespace IamReconciler

/-- A step in keeping remote entities, with what takes the place of earlier results. -/
inductive KindStep (k : Kind) where
  | resolveCreation
  | create (request : Option k.CreateRequest)
  | resolveUpdate
  | fetch (id : String)
  | update (id : String) (desired : Option k.UpdateRequest) (read : Option (k.Remote × Etag))
  | delete (id : String)

/-- What a step yields. -/
inductive KindResult (k : Kind) where
  /-- The step lacks what it works on. -/
  | skipped
  | creation (request : Except Error k.CreateRequest)
  | created (ref : Except Error RemoteRef)
  | desired (request : Except Error k.UpdateRequest)
  | fetched (read : Except Error (k.Remote × Etag))
  /-- The update, and whether the spec, the entity, or either of them had changed. -/
  | updated (ref : Except Error RemoteRef) (specDrifted remoteDrifted : Bool)
  | deleted (answer : Except RemoteError Unit)

/-- A resource with what the steps so far have yielded. -/
structure KindSession (k : Kind) where
  resource : Resource k
  scope : Scope
  creation : Option k.CreateRequest := none
  desired : Option k.UpdateRequest := none
  read : Option (k.Remote × Etag) := none

namespace KindSession

variable {k : Kind}

/-- The session after an entity was created or updated. -/
def recorded (s : KindSession k) (ref : Except Error RemoteRef) : KindSession k :=
  match ref with
  | .ok ref => { s with resource := s.resource.recordApplied ref }
  | .error _ => s

/-- The session in which what a step brings along takes the place of earlier results. -/
def equip (s : KindSession k) : KindStep k → KindSession k
  | .create request => { s with creation := request <|> s.creation }
  | .update _ desired read => { s with desired := desired <|> s.desired, read := read <|> s.read }
  | _ => s

/-- What a step yields in a world from what the session holds, with the session and the world after
it. -/
def perform (s : KindSession k) (w : World) : KindStep k → KindResult k × KindSession k × World
  | .resolveCreation =>
    let (request, w) := w.runPass (k.strategy.createRequest s.scope s.resource.spec)
    (.creation request, { s with creation := request.toOption <|> s.creation }, w)
  | .create _ =>
    match s.creation with
    | none => (.skipped, s, w)
    | some request =>
      let (ref, w) := w.runPass (k.strategy.create s.scope s.resource.spec request)
      (.created ref, s.recorded ref, w)
  | .resolveUpdate =>
    let (request, w) := w.runPass (k.strategy.updateRequest s.scope s.resource.spec)
    (.desired request, { s with desired := request.toOption <|> s.desired }, w)
  | .fetch id =>
    let (read, w) := w.runPass (k.strategy.fetch id)
    (.fetched read, { s with read := read.toOption <|> s.read }, w)
  | .update id _ _ =>
    match s.desired, s.read with
    | some desired, some (remote, etag) =>
      let specDrifted := s.resource.specDrifted
      let remoteDrifted := k.strategy.differs desired remote
      let (ref, w) := w.runPass (k.strategy.update s.scope s.resource.spec id desired remote etag)
      (.updated ref specDrifted remoteDrifted, s.recorded ref, w)
    | _, _ => (.skipped, s, w)
  | .delete id =>
    let (answer, w) := w.runCalls (k.strategy.delete id)
    (.deleted answer, s, w)

/-- What a step yields in a world, with the session and the world after it. -/
def step (s : KindSession k) (w : World) (step : KindStep k) :
    KindResult k × KindSession k × World :=
  (s.equip step).perform w step

/-- What each step yields with the events it causes, and the session and the world after all of
them. -/
def run (s : KindSession k) (w : World) :
    List (KindStep k) → List (KindResult k × List Event) × KindSession k × World
  | [] => ([], s, w)
  | first :: rest =>
    let (result, s, after) := s.step w first
    let events := after.eventsSince w.events.length
    let (results, last) := s.run after rest
    ((result, events) :: results, last)

end KindSession

namespace KindResult

/-- The document of an answer to a deletion. -/
def deletionToJson : Except RemoteError Unit → Json
  | .ok () => .object [("ok", .bool true)]
  | .error e => e.toJson

/-- The document of what a step yields. -/
def toJson {k : Kind} : KindResult k → Json
  | .skipped => .str "skipped"
  | .creation request => resultToJson k.createRequestToJson request
  | .created ref => resultToJson RemoteRef.toJson ref
  | .desired request => resultToJson k.updateRequestToJson request
  | .fetched read =>
    resultToJson (fun read =>
      .object [("remote", k.remoteToJson read.1), ("etag", .str read.2.token)]) read
  | .updated ref specDrifted remoteDrifted =>
    (resultToJson RemoteRef.toJson ref).setField "drifted"
      (.arr [.bool specDrifted, .bool remoteDrifted, .bool (specDrifted || remoteDrifted)])
  | .deleted answer => deletionToJson answer

end KindResult

end IamReconciler
