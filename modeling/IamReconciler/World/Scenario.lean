import IamReconciler.Reconcile.Lifecycle
import IamReconciler.World.Basic
import IamReconciler.World.Input

/-!
# Scenarios

A scenario is a list of acts in a world.  Some acts change the world from outside: users edit and
delete objects, the remote service changes by itself, answers are scripted.  The other acts let the
operator do something, and each of them leaves a report of its result, of the events that it caused,
and of the object that it was about.

Where the operator works on the objects themselves, an object is stored in its written form.  An
object that has none is an input fault, and it ends the scenario.
-/

namespace IamReconciler

/-- What happens in a world. -/
inductive Act where
  /-- An object is stored. -/
  | put (object : Json)
  /-- A patch is merged into the object at a path. -/
  | edit (path : String) (patch : Json)
  /-- The deletion of the object at a path is requested. -/
  | markDeleted (path : String)
  /-- A document is merged into those of the remote service, or added. -/
  | setEntity (listing : Directory.Listing) (field : String) (doc : Json)
  /-- Documents are removed from the remote service. -/
  | removeEntity (listing : Directory.Listing) (field : String) (value : Json)
  /-- Overrides are added to the script. -/
  | extendScript (json : Json)
  /-- Accounts come from another source. -/
  | setAccounts (source : AccountSource)
  /-- A pass runs over the resource of a key. -/
  | reconcile (k : Kind) (key : Key)
  /-- A pass runs over a resource, and its action is reported about the object at a path. -/
  | schedule (k : Kind) (r : Resource k) (path : String)
  /-- A pass has failed, and the action is reported about the object at a path. -/
  | recover (path : String)

/-- What an act of the operator results in. -/
inductive ActResult where
  | outcome (o : Outcome)
  | action (a : Except Error Action)

/-- What is reported of an act. -/
structure Report where
  result : ActResult
  /-- The events that the act caused. -/
  events : List Event
  /-- The object that the act was about, after it. -/
  stored : Option Json

/-- An object as it is stored under an access. -/
def Access.storedForm (a : Access) (object : Json) : Reading Json :=
  match a, Kind.ofName? (object.textOf "kind") with
  | .direct, some k => (Reading.resource k object).map Resource.toJson
  | .direct, none => .ok object
  | .api, _ => .ok object

namespace World

/-! ## Objects -/

/-- The time of every requested deletion. -/
def deletionTime : String := "2024-01-01T00:00:00Z"

/-- The world with an object at the place that it names itself, just as it is. -/
def keep (w : World) (object : Json) : Reading World := do
  let location ← Reading.location object
  pure { w with objects := w.objects.put location.path object }

/-- The world with an object at the place that it names itself, in the form in which objects are
stored. -/
def store (w : World) (object : Json) : Reading World := do
  w.keep (← w.access.storedForm object)

/-- The world with a changed form of the object at a path, if there is one; the object itself stays
where the changed one names another place. -/
def changeObject (w : World) (path : String) (f : Json → Json) : Reading World :=
  match w.objects.get? path with
  | some object => w.store (f object)
  | none => pure w

/-- An object whose deletion is requested. -/
def deletionRequested (object : Json) : Json :=
  object.setField "metadata" ((object.field "metadata").setField "deletionTimestamp"
    (.str deletionTime))

/-- The report of a program of calls about the object at a path, and the world after it. -/
def report (w : World) (path : String) (p : Program Pass.interface ActResult) :
    Option Report × World :=
  let (result, after) := w.runCalls p
  (some ⟨result, after.eventsSince w.events.length, after.objects.get? path⟩, after)

/-- What an act reports, and the world after it. -/
def act (w : World) : Act → Reading (Option Report × World)
  | .put object => (none, ·) <$> w.store object
  | .edit path patch => (none, ·) <$> w.changeObject path (·.merge patch)
  | .markDeleted path => (none, ·) <$> w.changeObject path deletionRequested
  | .setEntity listing field doc =>
      pure (none, { w with service := w.service.put listing field doc })
  | .removeEntity listing field value =>
      pure (none, { w with service := w.service.remove listing field value })
  | .extendScript json => pure (none, { w with script := w.script.extend json })
  | .setAccounts source => pure (none, { w with accounts := source })
  | .reconcile k key =>
    pure (w.report (Cluster.Location.ofKey k key).path
      (.outcome <$> IamReconciler.reconcile w.settings k key))
  | .schedule _ r path => pure (w.report path (.action <$> IamReconciler.schedule w.settings r))
  | .recover path => pure (w.report path (pure (.action (.ok w.settings.actionAfterError))))

/-- The reports of a scenario in order, and the world after it; the first fault of an act, be it in
its description or in what it does, takes the place of all reports. -/
def play (w : World) : List (Reading Act) → Reading (List Report × World)
  | [] => pure ([], w)
  | first :: rest => do
    let (report, after) ← w.act (← first)
    let (reports, last) ← after.play rest
    pure (report.toList ++ reports, last)

end World

end IamReconciler
