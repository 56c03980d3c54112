import IamReconciler.Cluster.ConfigData
import IamReconciler.Cluster.Reading
import IamReconciler.Reconcile.Pass

/-!
# The API as a collaborator

The store of resources, the look-up of references and the source of account data, as programs that
send requests to the API server.  A read that is refused because nothing was found gives no object;
which refusals those are is decided by their reason alone.  A request for an object without a name
is not sent, nor is one whose target holds a character that may not stand there.
-/

namespace IamReconciler

namespace Cluster

/-- An exchange with the API server, which may fail. -/
abbrev Exchange := ExceptT ClusterError (Program interface)

namespace Exchange

variable {α : Type} {k : Kind}

/-- Stops at a fault that keeps a request from being sent. -/
def require (checked : Except RequestFault Unit) : Exchange Unit :=
  ExceptT.mk (pure (checked.mapError .unsent))

/-- Sends a request whose target is sound, and reads the object of the reply. -/
def send (r : Request) (scan : Scan α) : Exchange α := do
  require (Target.check r.address)
  ExceptT.mk do
    match ← Program.call (I := interface) r with
    | .ok reply => pure (reply.object scan)
    | .error reason => pure (.error (.unreachable reason))

/-- Refuses a place without a name. -/
def requireName (location : Location) : Exchange Unit :=
  require (if location.name.isEmpty then .error .emptyName else .ok ())

/-- The most octets that the name of a field manager may have. -/
def managerLimit : Nat := 128

/-- Refuses a field manager that is too long. -/
def requireManager (manager : String) : Exchange Unit :=
  require (if managerLimit < manager.utf8ByteSize then .error .longFieldManager else .ok ())

/-- Reads the object at a place. -/
def get (location : Location) (scan : Scan α) : Exchange α := do
  requireName location
  send (.get location) scan

/-- The error says that nothing was found. -/
def saysAbsent : ClusterError → Bool
  | .refused status => status.reason = "NotFound"
  | _ => false

/-- Reads the object at a place, if there is one. -/
def find (location : Location) (scan : Scan α) : Exchange (Option α) :=
  ExceptT.mk do
    match ← (get location scan).run with
    | .ok object => pure (.ok (some object))
    | .error e => pure (if saysAbsent e then .ok none else .error e)

/-- Writes a resource. -/
def replace (key : Key) (r : Resource k) : Exchange (Resource k) := do
  let location := Location.ofKey k key
  requireName location
  send (.replace location r.toJson) (Resource.format k).scan

/-- The patch that writes a status; a resource without one takes the stored one away. -/
def statusPatch (r : Resource k) : Json :=
  .object [("status", Json.ofOption (Status.record k).write r.status)]

/-- Writes the status of a resource in the name of a manager. -/
def patchStatus (manager : String) (key : Key) (r : Resource k) : Exchange (Resource k) := do
  let location := Location.ofKey k key
  requireName location
  requireManager manager
  send (.patchStatus location manager (statusPatch r)) (Resource.format k).scan

/-- The exchange as a program whose errors are errors of the operator. -/
def attempt (e : Exchange α) : Program interface (Except Error α) := do
  let answer ← e.run
  pure (answer.mapError Error.cluster)

/-- An exchange about the place of a resource; a resource without a namespace has none. -/
def atKey (r : Resource k) (exchange : Key → Exchange α) : Program interface (Except Error α) :=
  match r.key with
  | .ok key => attempt (exchange key)
  | .error e => pure (.error e)

end Exchange

/-! ## Collaborators -/

/-- The answer of the API to a call of the store; statuses are written in the name of a manager. -/
def answerStore (manager : String) : (c : StoreCall) → Program interface c.Answer
  | .get k key => Exchange.attempt (Exchange.find (Location.ofKey k key) (Resource.format k).scan)
  | .update _ r => Exchange.atKey r fun key => Exchange.replace key r
  | .updateStatus _ r => Exchange.atKey r fun key => Exchange.patchStatus manager key r

/-- The answer of the API to the look-up of a reference. -/
def answerReference : (c : ReferenceCall) → Program interface c.Answer
  | .accessGroup ns name =>
    Exchange.attempt (Exchange.find (.ofKey .accessGroup ⟨ns, name⟩)
      (Resource.format .accessGroup).scan)
  | .customRole ns name =>
    Exchange.attempt (Exchange.find (.ofKey .customRole ⟨ns, name⟩)
      (Resource.format .customRole).scan)

/-- The data of a secret that the API keeps. -/
def secretData (ns name : String) : Program interface (Except Error (Option (NameMap String))) := do
  let found ← Exchange.attempt (Exchange.find ⟨.secrets, ns, name⟩ secretRecord.scan)
  pure do
    match ← found with
    | none => pure none
    | some secret => pure (some (← secret.data ns name))

/-- The data of a config map that the API keeps. -/
def configMapData (ns name : String) :
    Program interface (Except Error (Option (NameMap String))) := do
  let found ← Exchange.attempt (Exchange.find ⟨.configMaps, ns, name⟩ configMapRecord.scan)
  pure (found.map (·.map ConfigMap.data))

end Cluster

end IamReconciler
