import IamReconciler.Cluster.Request
import IamReconciler.Directory.Call
import IamReconciler.Directory.Document
import IamReconciler.Error.Document

/-!
# Scripts

A script overrides answers.  It keeps a queue of overrides for each name of a call, and every call
of that name takes the next one.  An override may leave the call to its collaborator, let it fail,
or give its answer without the collaborator being asked.
-/

namespace IamReconciler

/-- What happens instead of the answer of a collaborator. -/
inductive Override where
  /-- The collaborator answers. -/
  | pass
  /-- The call fails with the error that a document describes. -/
  | failure (description : Json)
  /-- The call returns the value that a document describes. -/
  | value (description : Json)
  /-- The API server gives a reply. -/
  | reply (r : Cluster.Reply)
  /-- The API server cannot be reached. -/
  | unreachable (reason : String)

namespace Override

/-- The reply that a document with a code describes. -/
def replyOfJson (code : Nat) (json : Json) : Cluster.Reply :=
  ⟨code, match (json.field "text").str? with
    | some text => .text text
    | none => .document (json.field "body")⟩

/-- The override that a document describes. -/
def ofJson (json : Json) : Override :=
  match json.given? "err", json.field? "ok", json.given? "fail", (json.field "code").nat? with
  | some fault, _, _, _ => .failure fault
  | none, some given, _, _ => .value given
  | none, none, some reason, _ => .unreachable reason.text
  | none, none, none, some code => .reply (replyOfJson code json)
  | none, none, none, none => .pass

end Override

/-- The queues of overrides. -/
structure Script where
  queues : NameMap (List Override) := NameMap.empty
  deriving Inhabited

namespace Script

/-- The overrides that are left for a name. -/
def queue (s : Script) (name : String) : List Override :=
  (s.queues.get? name).getD []

/-- The next override for a name, and the script without it. -/
def next (s : Script) (name : String) : Override × Script :=
  match s.queue name with
  | [] => (.pass, s)
  | first :: rest => (first, ⟨s.queues.insert name rest⟩)

/-- The script with overrides added at the end of a queue. -/
def append (s : Script) (name : String) (overrides : List Override) : Script :=
  ⟨s.queues.insert name (s.queue name ++ overrides)⟩

/-- The script with the overrides of a document added. -/
def extend (s : Script) (json : Json) : Script :=
  json.fields.foldl (fun s entry => s.append entry.1 (entry.2.items.map Override.ofJson)) s

end Script

/-! ## Values -/

namespace Directory

/-- An entity of a document together with the token of the document. -/
def withEtag {α : Type} (ofJson : Json → α) (json : Json) : α × Etag :=
  (ofJson json, ⟨json.textOf "etag"⟩)

/-- The value of a call that a document describes. -/
def Call.valueOfJson (json : Json) : (c : Call) → c.Value
  | .findGroups .. => json.items.map RemoteGroup.ofJson
  | .createGroup .. => .ofJson json
  | .getGroup .. => withEtag RemoteGroup.ofJson json
  | .updateGroup .. => .ofJson json
  | .deleteGroup .. => ()
  | .listMembers .. => json.items.map GroupMember.ofJson
  | .addMembers .. => ()
  | .removeMember .. => ()
  | .createPolicy .. => .ofJson json
  | .getPolicy .. => withEtag RemotePolicy.ofJson json
  | .updatePolicy .. => .ofJson json
  | .deletePolicy .. => ()
  | .listRoles .. => json.items.map RemoteRole.ofJson
  | .createRole .. => .ofJson json
  | .getRole .. => withEtag RemoteRole.ofJson json
  | .updateRole .. => .ofJson json
  | .deleteRole .. => ()
  | .systemRoles => json.items.map PolicyRole.ofJson
  | .serviceRoles .. => json.items.map PolicyRole.ofJson
  | .authorizationRoles .. => json.items.map PolicyRole.ofJson
  | .findUser .. => if json.isNull then none else some (.ofJson json)
  | .inviteUser .. => ()
  | .removeUser .. => ()
  | .getServiceIdentity .. => .ofJson json

end Directory

end IamReconciler
