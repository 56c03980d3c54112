import IamReconciler.World.Scenario

/-!
# The operator at work

The operator lists and watches the resources of each kind once.  Every resource that it found is due
at once, and after each pass it is due again when the pass asks for that, an error counting as a
request after the interval for errors.  Nothing changes but by the operator itself, so that no watch
ever reports anything.

Passes run in the order of the times at which they are due, and up to a given time.
-/

namespace IamReconciler

/-- A resource that is due at a time, in seconds. -/
structure Due where
  time : Nat
  kind : Kind
  resource : Resource kind

namespace Due

/-- The queue with one more entry, behind all that are due no later. -/
def enqueue (d : Due) : List Due → List Due
  | [] => [d]
  | first :: rest => if d.time < first.time then d :: first :: rest else first :: d.enqueue rest

/-- The seconds until the next pass that an action asks for. -/
def delay? (settings : Settings) : Except Error Action → Option Nat
  | .ok (.requeue seconds) => some seconds
  | .ok .awaitChange => none
  | .error _ =>
    match settings.actionAfterError with
    | .requeue seconds => some seconds
    | .awaitChange => none

end Due

namespace World

/-- The resources of a kind that the operator finds, due at once. -/
def found (w : World) (k : Kind) : List Due :=
  (w.objects.resourcesOf k).filterMap fun object =>
    (Resource.ofJson k object).toOption.map fun r => ⟨0, k, r⟩

/-- The requests by which the operator learns of its resources. -/
def discovery : List Cluster.Request :=
  Kind.all.flatMap fun k => [.list k, .watch k]

/-- The world after passes over a queue, of those that are due before a time; at most `passes` of
them. -/
def workThrough (limit : Nat) (passes : Nat) (queue : List Due) (w : World) : World :=
  match passes, queue with
  | 0, _ => w
  | _, [] => w
  | passes + 1, due :: rest =>
    if due.time < limit then
      let (action, after) := w.runCalls (IamReconciler.schedule w.settings due.resource)
      let queue := match Due.delay? w.settings action with
        | some seconds => Due.enqueue { due with time := due.time + seconds } rest
        | none => rest
      workThrough limit passes queue after
    else w

/-- The world after the operator has worked for some seconds.  When every interval is at least a
second, a resource is passed over at most once in each of them. -/
def operate (w : World) (seconds : Nat) : World :=
  let queue := Kind.all.flatMap w.found
  let started := { w with events := (discovery.map Event.request).reverse ++ w.events }
  started.workThrough seconds (seconds * queue.length) queue

/-- The requests that a world has seen, each with how often it was sent. -/
def requestCounts (w : World) : List (String × Nat) :=
  let targets := w.events.filterMap fun
    | .request r => some (r.method ++ " " ++ r.target.text)
    | _ => none
  targets.foldl (fun counts target =>
    Entries.insert target ((Entries.get? target counts).getD 0 + 1) counts) []

/-- The event learns of the resources of a kind. -/
def isDiscovery : Event → Bool
  | .request (.list _) => true
  | .request (.watch _) => true
  | _ => false

/-- The custom resources of a world, in the order of their paths. -/
def resources (w : World) : List Json :=
  (w.objects.stored.entries.map Prod.snd).filter fun object =>
    (Kind.ofName? (object.textOf "kind")).isSome

end World

end IamReconciler
