import IamReconciler.Directory.Entity
import IamReconciler.Json.Basic

/-!
# Entities as documents

The JSON form of every entity of the remote service and of every request about one.  Reading is
lenient: a missing text is empty, a missing list has no items, and a name that is none of the
variants stands for the first one.
-/

namespace IamReconciler

/-! ## Groups -/

namespace GroupRequest

/-- The document of a request. -/
def toJson (r : GroupRequest) : Json :=
  .object [("name", .str r.name), ("description", .str r.description)]

/-- The request of a document. -/
def ofJson (json : Json) : GroupRequest :=
  ⟨json.textOf "name", json.textOf "description"⟩

end GroupRequest

namespace RemoteGroup

/-- The document of a group. -/
def toJson (g : RemoteGroup) : Json :=
  .object [("id", .str g.id), ("name", .str g.name), ("description", .str g.description)]

/-- The group of a document. -/
def ofJson (json : Json) : RemoteGroup :=
  ⟨json.textOf "id", json.textOf "name", json.textOf "description"⟩

end RemoteGroup

namespace MemberKind

/-- The name of a kind of members. -/
def name : MemberKind → String
  | .user => "User"
  | .service => "Service"

/-- The kind of a name. -/
def ofName (name : String) : MemberKind :=
  if name = MemberKind.service.name then .service else .user

end MemberKind

namespace GroupMember

/-- The document of a member. -/
def toJson (m : GroupMember) : Json :=
  .object [("id", .str m.id), ("kind", .str m.kind.name)]

/-- The member of a document. -/
def ofJson (json : Json) : GroupMember :=
  ⟨json.textOf "id", .ofName (json.textOf "kind")⟩

end GroupMember

/-! ## Identities -/

namespace AccountUser

/-- The user of a document. -/
def ofJson (json : Json) : AccountUser :=
  ⟨json.textOf "id", json.textOf "user_id", json.textOf "iam_id", json.textOf "state"⟩

end AccountUser

namespace ServiceIdentity

/-- The service identity of a document. -/
def ofJson (json : Json) : ServiceIdentity :=
  ⟨json.textOf "id", json.textOf "iam_id"⟩

end ServiceIdentity

/-! ## Policies -/

namespace Attributes

/-- The document of a set of attributes. -/
def toJson (a : Attributes) : Json :=
  .arr (a.toList.map fun entry => .strs [entry.1, entry.2])

/-- The binding that a pair in a document gives. -/
def bindingOfJson (json : Json) : String × String :=
  match json.items with
  | name :: value :: _ => (name.text, value.text)
  | [name] => (name.text, "")
  | [] => ("", "")

/-- The set of attributes that the bindings of a document give when they are set in order. -/
def ofJson (json : Json) : Attributes :=
  ofList (json.items.map bindingOfJson)

end Attributes

namespace PolicyRole

/-- The document of a role. -/
def toJson (r : PolicyRole) : Json :=
  .object [("id", .str r.id), ("name", .str r.name)]

/-- The role of a document. -/
def ofJson (json : Json) : PolicyRole :=
  ⟨json.textOf "id", json.textOf "name"⟩

end PolicyRole

namespace PolicyKind

/-- The name of a kind of policies. -/
def name : PolicyKind → String
  | .access => "Access"
  | .authorization => "Authorization"

/-- The kind of a name. -/
def ofName (name : String) : PolicyKind :=
  if name = PolicyKind.authorization.name then .authorization else .access

end PolicyKind

namespace Policy

/-- The fields of a policy's document. -/
def bindings (p : Policy) : List (String × Json) :=
  [ ("kind", .str p.kind.name),
    ("subjects", .arr (p.subjects.map Attributes.toJson)),
    ("roles", .arr (p.roles.map PolicyRole.toJson)),
    ("resources", .arr (p.resources.map Attributes.toJson)) ]

/-- The document of a policy. -/
def toJson (p : Policy) : Json :=
  .object p.bindings

/-- The policy of a document. -/
def ofJson (json : Json) : Policy where
  kind := .ofName (json.textOf "kind")
  subjects := (json.itemsOf "subjects").map Attributes.ofJson
  roles := (json.itemsOf "roles").map PolicyRole.ofJson
  resources := (json.itemsOf "resources").map Attributes.ofJson

end Policy

/-- The policy of a document, with its identifier. -/
def RemotePolicy.ofJson (json : Json) : RemotePolicy :=
  ⟨json.textOf "id", .ofJson json⟩

/-! ## Custom roles -/

namespace RoleRequest

/-- The document of a request. -/
def toJson (r : RoleRequest) : Json :=
  .object [
    ("name", .str r.name),
    ("service_name", .str r.serviceName),
    ("account_id", .str r.accountId),
    ("display_name", .str r.displayName),
    ("description", .str r.description),
    ("actions", .strs r.actions)]

/-- The request of a document. -/
def ofJson (json : Json) : RoleRequest where
  name := json.textOf "name"
  serviceName := json.textOf "service_name"
  accountId := json.textOf "account_id"
  displayName := json.textOf "display_name"
  description := json.textOf "description"
  actions := json.textsOf "actions"

end RoleRequest

namespace RoleUpdate

/-- The fields of an update's document. -/
def bindings (u : RoleUpdate) : List (String × Json) :=
  [ ("display_name", .str u.displayName),
    ("description", .str u.description),
    ("actions", .strs u.actions) ]

/-- The document of an update. -/
def toJson (u : RoleUpdate) : Json :=
  .object u.bindings

/-- The update of a document. -/
def ofJson (json : Json) : RoleUpdate :=
  ⟨json.textOf "display_name", json.textOf "description", json.textsOf "actions"⟩

end RoleUpdate

namespace RemoteRole

/-- The document of a role. -/
def toJson (r : RemoteRole) : Json :=
  .object [
    ("id", .str r.id),
    ("crn", .str r.crn),
    ("name", .str r.name),
    ("service_name", .str r.serviceName),
    ("display_name", .str r.displayName),
    ("description", .str r.description),
    ("actions", .strs r.actions)]

/-- The role of a document. -/
def ofJson (json : Json) : RemoteRole where
  id := json.textOf "id"
  crn := json.textOf "crn"
  name := json.textOf "name"
  serviceName := json.textOf "service_name"
  displayName := json.textOf "display_name"
  description := json.textOf "description"
  actions := json.textsOf "actions"

end RemoteRole

end IamReconciler
