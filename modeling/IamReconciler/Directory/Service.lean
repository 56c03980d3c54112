import IamReconciler.Directory.Call
import IamReconciler.Directory.Document
import IamReconciler.Json.Merge

/-!
# The remote service

A remote service that keeps its entities as documents, in the order in which they were added.  A
document may have fields that no entity has; they are kept.  Groups, policies and custom roles have
versions: a read returns the version as a token, and an update that presents another token is
refused.  A document without a version has the first one.

`Service.answer` gives the answer of the service to each call, together with the service after the
call.  A call that fails changes nothing.
-/

namespace IamReconciler

namespace Directory

/-! ## Documents -/

namespace Doc

/-- The identifier of a document. -/
def id (doc : Json) : String :=
  doc.textOf "id"

/-- The version of a document. -/
def version (doc : Json) : Nat :=
  (doc.field "version").nat?.getD 1

/-- The token of a document. -/
def etag (doc : Json) : Etag :=
  ⟨"v" ++ toString (version doc)⟩

/-- The members that a group's document lists. -/
def members (doc : Json) : List GroupMember :=
  (doc.itemsOf "members").map GroupMember.ofJson

/-- The document with other fields. -/
def setAll (doc : Json) (bindings : List (String × Json)) : Json :=
  bindings.foldl (fun doc binding => doc.setField binding.1 binding.2) doc

/-- The document with other fields and the next version. -/
def revise (doc : Json) (bindings : List (String × Json)) : Json :=
  (setAll doc bindings).setField "version" (.nat (version doc + 1))

/-- The document of a new entity. -/
def create (id : String) (bindings : List (String × Json)) : Json :=
  setAll (.object [("id", .str id), ("version", .nat 1)]) bindings

/-- The documents with the first one of a property changed. -/
def modifyFirst (p : Json → Bool) (f : Json → Json) : List Json → List Json
  | [] => []
  | doc :: docs => if p doc then f doc :: docs else doc :: modifyFirst p f docs

/-- The first document of an identifier. -/
def find? (docs : List Json) (id : String) : Option Json :=
  docs.find? fun doc => Doc.id doc = id

end Doc

/-! ## State -/

/-- A list of documents that the service keeps. -/
inductive Listing where
  | groups
  | policies
  | roles
  | users
  | invitable
  | serviceIdentities
  deriving DecidableEq, Repr

namespace Listing

/-- All listings. -/
def all : List Listing := [.groups, .policies, .roles, .users, .invitable, .serviceIdentities]

/-- The name of a listing. -/
def name : Listing → String
  | .groups => "groups"
  | .policies => "policies"
  | .roles => "roles"
  | .users => "users"
  | .invitable => "invitable"
  | .serviceIdentities => "service_ids"

/-- The listing of a name. -/
def ofName? (name : String) : Option Listing :=
  all.find? fun listing => listing.name = name

/-- What the entities of a listing are called. -/
def noun : Listing → String
  | .groups => "access group"
  | .policies => "policy"
  | .roles => "custom role"
  | .users => "user"
  | .invitable => "user"
  | .serviceIdentities => "service ID"

end Listing

/-- A remote service. -/
structure Service where
  /-- The account that sessions are bound to. -/
  accountId : String := ""
  groups : List Json := []
  policies : List Json := []
  roles : List Json := []
  users : List Json := []
  /-- The users who join the account when they are invited. -/
  invitable : List Json := []
  serviceIdentities : List Json := []
  systemRoles : List PolicyRole := []
  /-- The roles of each service. -/
  serviceRoles : NameMap (List PolicyRole) := NameMap.empty
  /-- The roles of each source and target, which a slash joins. -/
  authorizationRoles : NameMap (List PolicyRole) := NameMap.empty
  /-- How many groups were created. -/
  createdGroups : Nat := 0
  /-- How many policies were created. -/
  createdPolicies : Nat := 0
  /-- How many custom roles were created. -/
  createdRoles : Nat := 0

namespace Service

/-- The documents of a listing. -/
def listing (s : Service) : Listing → List Json
  | .groups => s.groups
  | .policies => s.policies
  | .roles => s.roles
  | .users => s.users
  | .invitable => s.invitable
  | .serviceIdentities => s.serviceIdentities

/-- The service with other documents in a listing. -/
def withListing (s : Service) (l : Listing) (docs : List Json) : Service :=
  match l with
  | .groups => { s with groups := docs }
  | .policies => { s with policies := docs }
  | .roles => { s with roles := docs }
  | .users => { s with users := docs }
  | .invitable => { s with invitable := docs }
  | .serviceIdentities => { s with serviceIdentities := docs }

/-- The roles that a document lists by name. -/
def rolesByName (json : Json) : NameMap (List PolicyRole) :=
  NameMap.ofList (json.fields.map fun entry => (entry.1, entry.2.items.map PolicyRole.ofJson))

/-- The service that a document describes. -/
def ofJson (json : Json) : Service where
  accountId := json.textOf "account"
  groups := json.itemsOf "groups"
  policies := json.itemsOf "policies"
  roles := json.itemsOf "roles"
  users := json.itemsOf "users"
  invitable := json.itemsOf "invitable"
  serviceIdentities := json.itemsOf "service_ids"
  systemRoles := (json.itemsOf "system_roles").map PolicyRole.ofJson
  serviceRoles := rolesByName (json.field "service_roles")
  authorizationRoles := rolesByName (json.field "authorization_roles")

/-- The entities of the account as a document. -/
def toJson (s : Service) : Json :=
  .object ([Listing.groups, .policies, .roles, .users].map fun l => (l.name, .arr (s.listing l)))

/-! ## Changes from outside -/

/-- The service after a document was merged into the first one with the same value of a field, or
added. -/
def put (s : Service) (l : Listing) (field : String) (doc : Json) : Service :=
  let docs := s.listing l
  let same (other : Json) : Bool := other.field field == doc.field field
  s.withListing l <|
    if docs.any same then Doc.modifyFirst same (·.merge doc) docs else docs ++ [doc]

/-- The service without the documents of a value of a field. -/
def remove (s : Service) (l : Listing) (field : String) (value : Json) : Service :=
  s.withListing l ((s.listing l).filter fun doc => doc.field field != value)

/-! ## Answers -/

section Answers

variable {α : Type}

/-- A document that has to exist. -/
def require (s : Service) (l : Listing) (id : String) : Except RemoteError Json :=
  match Doc.find? (s.listing l) id with
  | some doc => .ok doc
  | none => .error (.notFound l.noun id)

/-- An answer that leaves the service as it is. -/
def unchanged (s : Service) (answer : Except RemoteError α) : Except RemoteError α × Service :=
  (answer, s)

/-- Reads a document with its token. -/
def read (s : Service) (l : Listing) (id : String) (ofJson : Json → α) :
    Except RemoteError (α × Etag) :=
  (s.require l id).map fun doc => (ofJson doc, Doc.etag doc)

/-- Changes a document that has to exist. -/
def edit (s : Service) (l : Listing) (id : String) (f : Json → Except RemoteError (α × Json)) :
    Except RemoteError α × Service :=
  match s.require l id >>= f with
  | .error e => (.error e, s)
  | .ok (value, doc) =>
    (.ok value, s.withListing l (Doc.modifyFirst (fun other => Doc.id other = id) (fun _ =>
      doc) (s.listing l)))

/-- Updates a document for the holder of its token. -/
def revise (s : Service) (l : Listing) (id : String) (etag : Etag) (bindings : List (String × Json))
    (ofJson : Json → α) : Except RemoteError α × Service :=
  s.edit l id fun doc =>
    if etag = Doc.etag doc then
      let revised := Doc.revise doc bindings
      .ok (ofJson revised, revised)
    else .error (.conflict ("etag " ++ etag.token ++ " does not match"))

/-- The service without the documents of an identifier. -/
def drop (s : Service) (l : Listing) (id : String) : Service :=
  s.withListing l ((s.listing l).filter fun doc => Doc.id doc ≠ id)

/-- Deletes a document that has to exist. -/
def delete (s : Service) (l : Listing) (id : String) : Except RemoteError Unit × Service :=
  match s.require l id with
  | .error e => (.error e, s)
  | .ok _ => (.ok (), s.drop l id)

/-- Adds the document of a new entity. -/
def add (s : Service) (l : Listing) (doc : Json) : Service :=
  s.withListing l (s.listing l ++ [doc])

/-- The documents of members with that of a new one, unless it is a member already. -/
def join (docs : List Json) (m : GroupMember) : List Json :=
  if (Doc.find? docs m.id).isSome then docs else docs ++ [m.toJson]

/-- A group's document with other documents of members. -/
def withMembers (doc : Json) (docs : List Json) : Json :=
  doc.setField "members" (.arr docs)

/-- A group's document after new members joined, each unless it is a member already. -/
def addMembers (doc : Json) (members : List GroupMember) : Json :=
  withMembers doc (members.foldl join (doc.itemsOf "members"))

/-- A group's document after a member left. -/
def removeMember (doc : Json) (memberId : String) : Except RemoteError (Unit × Json) :=
  let docs := doc.itemsOf "members"
  if (Doc.find? docs memberId).isSome then
    .ok ((), withMembers doc (docs.filter fun other => Doc.id other ≠ memberId))
  else .error (.notFound "group member" memberId)

/-- The first user of an email among documents. -/
def userOf? (docs : List Json) (email : String) : Option Json :=
  docs.find? fun doc => doc.textOf "email" = email

/-- The answer to a call, and the service after it. -/
def answer (s : Service) : (c : Call) → c.Answer × Service
  | .findGroups name _ =>
    s.unchanged (.ok ((s.groups.filter fun doc => doc.textOf "name" = name).map RemoteGroup.ofJson))
  | .createGroup request _ =>
    let n := s.createdGroups + 1
    let doc := Doc.create ("AccessGroupId-" ++ toString n)
      [("name", .str request.name), ("description", .str request.description), ("members", .arr [])]
    (.ok (RemoteGroup.ofJson doc), { s.add .groups doc with createdGroups := n })
  | .getGroup id => s.unchanged (s.read .groups id RemoteGroup.ofJson)
  | .updateGroup id request etag =>
    s.revise .groups id etag
      [("name", .str request.name), ("description", .str request.description)] RemoteGroup.ofJson
  | .deleteGroup id => s.delete .groups id
  | .listMembers id => s.unchanged ((s.require .groups id).map Doc.members)
  | .addMembers id members => s.edit .groups id fun doc => .ok ((), addMembers doc members)
  | .removeMember id memberId => s.edit .groups id fun doc => removeMember doc memberId
  | .createPolicy policy =>
    let n := s.createdPolicies + 1
    let doc := Doc.create ("policy-" ++ toString n) policy.bindings
    (.ok (RemotePolicy.ofJson doc), { s.add .policies doc with createdPolicies := n })
  | .getPolicy id => s.unchanged (s.read .policies id RemotePolicy.ofJson)
  | .updatePolicy id policy etag => s.revise .policies id etag policy.bindings RemotePolicy.ofJson
  | .deletePolicy id => s.delete .policies id
  | .listRoles _ serviceName =>
    s.unchanged (.ok ((s.roles.filter fun doc =>
      serviceName.isEmpty || doc.textOf "service_name" = serviceName).map RemoteRole.ofJson))
  | .createRole request =>
    let n := s.createdRoles + 1
    let id := "role-" ++ toString n
    let doc := Doc.create id
      [ ("crn", .str ("crn:role:" ++ id)),
        ("name", .str request.name),
        ("service_name", .str request.serviceName),
        ("display_name", .str request.displayName),
        ("description", .str request.description),
        ("actions", .strs request.actions) ]
    (.ok (RemoteRole.ofJson doc), { s.add .roles doc with createdRoles := n })
  | .getRole id => s.unchanged (s.read .roles id RemoteRole.ofJson)
  | .updateRole id update etag => s.revise .roles id etag update.bindings RemoteRole.ofJson
  | .deleteRole id => s.delete .roles id
  | .systemRoles => s.unchanged (.ok s.systemRoles)
  | .serviceRoles serviceName => s.unchanged (.ok ((s.serviceRoles.get? serviceName).getD []))
  | .authorizationRoles source target =>
    s.unchanged (.ok ((s.authorizationRoles.get? (source ++ "/" ++ target)).getD []))
  | .findUser _ email => s.unchanged (.ok ((userOf? s.users email).map AccountUser.ofJson))
  | .inviteUser _ email =>
    match userOf? s.invitable email with
    | some doc => (.ok (), s.add .users doc)
    | none => (.ok (), s)
  | .removeUser _ id => (.ok (), s.drop .users id)
  | .getServiceIdentity id =>
      s.unchanged ((s.require .serviceIdentities id).map ServiceIdentity.ofJson)

end Answers

end Service

end Directory

end IamReconciler
