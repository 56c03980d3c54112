import IamReconciler.Cluster.Client
import IamReconciler.Cluster.Server
import IamReconciler.Directory.Service
import IamReconciler.Settings
import IamReconciler.World.Event
import IamReconciler.World.Script

/-!
# Worlds

A world is everything that surrounds the operator: the remote service, the objects of the cluster,
the source of accounts, a script of overrides, and the events so far.  It answers every call of a
pass.  Each call is first recorded and then looked up in the script; unless the script answers it,
the collaborator does.

The store of resources comes in two forms.  In the direct form it works on the objects themselves.
In the other form it goes through requests to the API server, and so do references and account data.
-/

namespace IamReconciler

/-- How the operator reaches the objects of the cluster. -/
inductive Access where
  | direct
  | api
  deriving DecidableEq, Repr, Inhabited

/-- Where sessions come from. -/
inductive AccountSource where
  /-- Every namespace has a session. -/
  | given
  /-- The account of a namespace is looked up; direct access finds the data of secrets and config
  maps here. -/
  | lookedUp (controllerNamespace : String) (secrets configMaps : NameMap (NameMap String))

/-- What surrounds the operator. -/
structure World where
  service : Directory.Service := {}
  objects : Cluster.Objects := {}
  accounts : AccountSource := .given
  access : Access := .direct
  settings : Settings := {}
  script : Script := {}
  /-- The events so far, the latest first. -/
  events : List Event := []

/-- What a call of the store is about has a key. -/
def StoreCall.placed : StoreCall → Except Error Unit
  | .get .. => .ok ()
  | .update _ r => r.key.map fun _ => ()
  | .updateStatus _ r => r.key.map fun _ => ()

namespace World

variable {α : Type}

/-! ## Recording -/

/-- Records an event and takes its override from the script. -/
def note (e : Event) (w : World) : Override × World :=
  let (next, script) := w.script.next e.name
  (next, { w with script, events := e :: w.events })

/-- The recorded events of a world that follow the first `n`, in order. -/
def eventsSince (w : World) (n : Nat) : List Event :=
  (w.events.take (w.events.length - n)).reverse

/-! ## The remote service -/

/-- The answer to a call of the remote service. -/
def answerDirectory (c : Directory.Call) (w : World) : c.Answer × World :=
  match w.note (.directory c) with
  | (.failure description, w) => (.error (.ofJson description), w)
  | (.value description, w) => (.ok (c.valueOfJson description), w)
  | (_, w) =>
    let (answer, service) := w.service.answer c
    (answer, { w with service })

/-! ## The cluster -/

/-- The answer to a request. -/
def answerRequest (r : Cluster.Request) (w : World) : r.Answer × World :=
  match w.note (.request r) with
  | (.unreachable reason, w) => (.error reason, w)
  | (.reply reply, w) => (.ok reply, w)
  | (_, w) =>
    let (reply, objects) := w.objects.reply r
    (.ok reply, { w with objects })

/-- The value of a program of requests. -/
def runRequests (p : Program Cluster.interface α) (w : World) : α × World :=
  p.run answerRequest w

/-- The resource that an object is. -/
def resourceOf (k : Kind) (object : Json) : Except Error (Resource k) :=
  (Resource.ofJson k object).mapError fun fault => .serialization fault.message (some k.name)

/-- The resource of a key among the objects, if there is one. -/
def findResource (k : Kind) (key : Key) (w : World) : Except Error (Option (Resource k)) :=
  match w.objects.get? (Cluster.Location.ofKey k key).path with
  | some object => (resourceOf k object).map some
  | none => .ok none

/-- The answer to a write of a resource among the objects. -/
def written (k : Kind) (r : Resource k) (result : Option (Json × Cluster.Objects)) (w : World) :
    Except Error (Resource k) × World :=
  match result with
  | some (object, objects) => (resourceOf k object, { w with objects })
  | none => (.error (.internal (r.keyText ++ " does not exist") "store"), w)

/-- The path of a resource. -/
def pathOf {k : Kind} (r : Resource k) : String :=
  (Cluster.Location.ofKey k ⟨r.metadata.ns.getD "", r.metadata.anyName⟩).path

/-- The answer of the objects to a call of the store. -/
def answerStoreDirectly (c : StoreCall) (w : World) : c.Answer × World :=
  match c with
  | .get k key => (w.findResource k key, w)
  | .update k r => w.written k r (w.objects.write? (pathOf r) r.toJson)
  | .updateStatus k r =>
    w.written k r (w.objects.writeStatus? (pathOf r) fun _ =>
      Json.ofOption (Status.record k).write r.status)

/-- The failure of a call of the store. -/
def refuseStore (e : Error) : (c : StoreCall) → c.Answer
  | .get .. => .error e
  | .update .. => .error e
  | .updateStatus .. => .error e

/-- The answer to a call of the store. -/
def answerStore (c : StoreCall) (w : World) : c.Answer × World :=
  match w.access with
  | .api => w.runRequests (Cluster.answerStore w.settings.fieldManager c)
  | .direct =>
    match c.placed with
    | .error e => (refuseStore e c, w)
    | .ok () =>
      match w.note (.store c) with
      | (.failure description, w) => (refuseStore (.ofJson description) c, w)
      | (_, w) => w.answerStoreDirectly c

/-- The failure of a look-up. -/
def refuseReference (e : Error) : (c : ReferenceCall) → c.Answer
  | .accessGroup .. => .error e
  | .customRole .. => .error e

/-- The answer of the objects to a look-up. -/
def findReference (w : World) : (c : ReferenceCall) → c.Answer
  | .accessGroup ns name => w.findResource .accessGroup ⟨ns, name⟩
  | .customRole ns name => w.findResource .customRole ⟨ns, name⟩

/-- The answer to the look-up of a reference. -/
def answerReference (c : ReferenceCall) (w : World) : c.Answer × World :=
  match w.access with
  | .api => w.runRequests (Cluster.answerReference c)
  | .direct =>
    match w.note (.reference c) with
    | (.failure description, w) => (refuseReference (.ofJson description) c, w)
    | (_, w) => (w.findReference c, w)

/-! ## Accounts -/

/-- The data of an object of a namespace. -/
def dataOf (objects : NameMap (NameMap String)) (ns name : String) : Option (NameMap String) :=
  objects.get? (ns ++ "/" ++ name)

/-- The answer to a look-up of account data where access is direct. -/
def answerData (c : Account.Call) (objects : NameMap (NameMap String))
    (ns name : String) (w : World) : Except Error (Option (NameMap String)) × World :=
  match w.note (.account c) with
  | (.failure description, w) => (.error (.ofJson description), w)
  | (_, w) => (.ok (dataOf objects ns name), w)

/-- The answer to a call of the search for an account. -/
def answerAccount (secrets configMaps : NameMap (NameMap String)) (c : Account.Call) (w : World) :
    c.Answer × World :=
  match c with
  | .secretData ns name =>
    match w.access with
    | .api => w.runRequests (Cluster.secretData ns name)
    | .direct => w.answerData (.secretData ns name) secrets ns name
  | .configMapData ns name =>
    match w.access with
    | .api => w.runRequests (Cluster.configMapData ns name)
    | .direct => w.answerData (.configMapData ns name) configMaps ns name
  | .openSession credentials context =>
    match w.note (.account (.openSession credentials context)) with
    | (.failure description, w) => (.error (.ofJson description), w)
    | (_, w) => (.ok ⟨w.service.accountId⟩, w)

/-- The session for a namespace. -/
def openAccount (ns : String) (w : World) : Except Error Session × World :=
  match w.accounts with
  | .lookedUp controllerNamespace secrets configMaps =>
    (Account.resolve controllerNamespace ns).run.run (answerAccount secrets configMaps) w
  | .given =>
    match w.note (.openAccount ns) with
    | (.failure description, w) => (.error (.ofJson description), w)
    | (_, w) => (.ok ⟨w.service.accountId⟩, w)

/-! ## Passes -/

/-- The answer to a call of a pass. -/
def answer (c : Pass.Call) (w : World) : c.Answer × World :=
  match c with
  | .store call => w.answerStore call
  | .openAccount ns => w.openAccount ns
  | .reference call => w.answerReference call
  | .directory call => w.answerDirectory call

/-- The value of a program of calls of a pass. -/
def runCalls (p : Program Pass.interface α) (w : World) : α × World :=
  p.run answer w

/-- The value of a part of a pass. -/
def runPass (p : Pass α) (w : World) : Except Error α × World :=
  w.runCalls p.run

end World

end IamReconciler
