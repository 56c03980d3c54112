import IamReconciler.Cluster.Request
import IamReconciler.Directory.Document
import IamReconciler.Reconcile.Pass

/-!
# Events

An event is a call that some collaborator of the operator received.  Each event has a name, and it
is recorded as a list of that name and the arguments of the call.
-/

namespace IamReconciler

namespace Directory

/-- The arguments of a call. -/
def Call.arguments : Call → List Json
  | .findGroups name accountId => [.str name, .str accountId]
  | .createGroup request accountId => [request.toJson, .str accountId]
  | .getGroup id => [.str id]
  | .updateGroup id request etag => [.str id, request.toJson, .str etag.token]
  | .deleteGroup id => [.str id]
  | .listMembers groupId => [.str groupId]
  | .addMembers groupId members => [.str groupId, .arr (members.map GroupMember.toJson)]
  | .removeMember groupId memberId => [.str groupId, .str memberId]
  | .createPolicy policy => [policy.toJson]
  | .getPolicy id => [.str id]
  | .updatePolicy id policy etag => [.str id, policy.toJson, .str etag.token]
  | .deletePolicy id => [.str id]
  | .listRoles accountId serviceName => [.str accountId, .str serviceName]
  | .createRole request => [request.toJson]
  | .getRole id => [.str id]
  | .updateRole id update etag => [.str id, update.toJson, .str etag.token]
  | .deleteRole id => [.str id]
  | .systemRoles => []
  | .serviceRoles serviceName => [.str serviceName]
  | .authorizationRoles source target => [.str source, .str target]
  | .findUser accountId email => [.str accountId, .str email]
  | .inviteUser accountId email => [.str accountId, .str email]
  | .removeUser accountId userId => [.str accountId, .str userId]
  | .getServiceIdentity id => [.str id]

end Directory

/-- The name of a call of the store. -/
def StoreCall.name : StoreCall → String
  | .get .. => "store.get"
  | .update .. => "store.update"
  | .updateStatus .. => "store.update_status"

/-- The key of a resource as events show it. -/
def Resource.keyText {k : Kind} (r : Resource k) : String :=
  (Key.mk (r.metadata.ns.getD "") r.metadata.anyName).text

/-- The arguments of a call of the store. -/
def StoreCall.arguments : StoreCall → List Json
  | .get _ key => [.str key.text]
  | .update k r =>
    [.str r.keyText, Json.ofOption Json.strs r.metadata.finalizers, k.specRecord.write r.spec]
  | .updateStatus k r => [.str r.keyText, Json.ofOption (Status.record k).write r.status]

/-- The name of a look-up. -/
def ReferenceCall.name : ReferenceCall → String
  | .accessGroup .. => "refs.access_group"
  | .customRole .. => "refs.custom_role"

/-- The arguments of a look-up. -/
def ReferenceCall.arguments : ReferenceCall → List Json
  | .accessGroup ns name => [.str ns, .str name]
  | .customRole ns name => [.str ns, .str name]

namespace Account

/-- The name of a call. -/
def Call.name : Call → String
  | .secretData .. => "config.secret"
  | .configMapData .. => "config.map"
  | .openSession .. => "session.open"

/-- The arguments of a call. -/
def Call.arguments : Call → List Json
  | .secretData ns name => [.str ns, .str name]
  | .configMapData ns name => [.str ns, .str name]
  | .openSession credentials context =>
    [ .str credentials.apiKey, .str credentials.region, .str context.org, .str context.space,
      .str context.region, .str context.resourceGroup ]

end Account

/-- A call that a collaborator received. -/
inductive Event where
  | store (call : StoreCall)
  | reference (call : ReferenceCall)
  | openAccount (ns : String)
  | directory (call : Directory.Call)
  | account (call : Account.Call)
  | request (r : Cluster.Request)

namespace Event

/-- The name of an event, under which its answers can be overridden. -/
def name : Event → String
  | .store call => call.name
  | .reference call => call.name
  | .openAccount _ => "account.resolve"
  | .directory call => call.name
  | .account call => call.name
  | .request r => "api." ++ r.method

/-- The recorded event. -/
def toJson : Event → Json
  | .store call => .arr (.str call.name :: call.arguments)
  | .reference call => .arr (.str call.name :: call.arguments)
  | .openAccount ns => .strs ["account.resolve", ns]
  | .directory call => .arr (.str call.name :: call.arguments)
  | .account call => .arr (.str call.name :: call.arguments)
  | .request r =>
    .arr ([.str "api", .str r.method, .str r.target.text] ++
      match r.content with
      | some (contentType, content) => [.str contentType, content]
      | none => [])

end Event

end IamReconciler
