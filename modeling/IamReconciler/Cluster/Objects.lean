import IamReconciler.Cluster.Location

/-!
# Objects of the cluster

The objects that a cluster keeps, each under its path, and those that it has removed.  An object is
written in two ways.  A write of the object keeps the stored status, and it removes the object when
that is being deleted and has no finalizer left.  A write of the status keeps everything else.
-/

namespace IamReconciler

namespace Cluster

/-- The objects of a cluster. -/
structure Objects where
  /-- The objects by their paths. -/
  stored : NameMap Json := NameMap.empty
  /-- The objects that were removed, in order. -/
  removed : List Json := []
  deriving Inhabited

namespace Objects

/-- The object at a path. -/
def get? (o : Objects) (path : String) : Option Json :=
  o.stored.get? path

/-- The objects with one more, or with one replaced. -/
def put (o : Objects) (path : String) (object : Json) : Objects :=
  { o with stored := o.stored.insert path object }

/-- The object with the status of another one, or without a status when that has none. -/
def withStatusOf (object other : Json) : Json :=
  match other.given? "status" with
  | some status => object.setField "status" status
  | none => object.eraseField "status"

/-- An object that is being deleted and has no finalizer. -/
def isReleased (object : Json) : Bool :=
  let metadata := object.field "metadata"
  (metadata.given? "deletionTimestamp").isSome && (metadata.itemsOf "finalizers").isEmpty

/-- The object that a write stores at a path, with the objects after the write; none when there is
nothing at the path. -/
def write? (o : Objects) (path : String) (object : Json) : Option (Json × Objects) :=
  (o.get? path).map fun old =>
    let written := withStatusOf object old
    (written,
      if isReleased written then ⟨o.stored.erase path, o.removed ++ [written]⟩
      else o.put path written)

/-- The object with another status; a null takes the status away. -/
def setStatus (object status : Json) : Json :=
  if status.isNull then object.eraseField "status" else object.setField "status" status

/-- The object at a path after its status was changed, with the objects after the write; none when
there is nothing at the path. -/
def writeStatus? (o : Objects) (path : String) (change : Json → Json) : Option (Json × Objects) :=
  (o.get? path).map fun old =>
    let written := setStatus old (change (old.field "status"))
    (written, o.put path written)

end Objects

end Cluster

end IamReconciler
