import IamReconciler.Text.Quoted

/-!
# Errors

What can go wrong while a resource is brought in step with its remote entity.  A remote error is the
answer of the remote IAM service, a cluster error comes from the store of the declared resources,
and an error puts either of them, or a cause of the operator's own, into the step where it arose.

Each type has one function for its wording.  Two questions are asked of an error: whether it says
that something does not exist, and whether a later attempt may succeed.
-/

namespace IamReconciler

/-! ## Errors of the remote service -/

/-- Why the remote IAM service did not do what was asked. -/
inductive RemoteError where
  /-- The entity does not exist. -/
  | notFound (entity id : String)
  /-- The request contradicts the remote state. -/
  | conflict (message : String)
  /-- The request failed for any other reason. -/
  | request (message : String) (retryable : Bool)
  deriving DecidableEq, Repr, Inhabited

namespace RemoteError

/-- What a remote error says. -/
def message : RemoteError → String
  | .notFound entity id => entity ++ " " ++ id ++ " not found"
  | .conflict message => "conflict: " ++ message
  | .request message _ => "request failed: " ++ message

/-- The name of the class of a remote error. -/
def className : RemoteError → String
  | .notFound .. => "NotFound"
  | .conflict .. => "Conflict"
  | .request .. => "Request"

/-- The error says that an entity does not exist. -/
def isNotFound : RemoteError → Bool
  | .notFound .. => true
  | _ => false

/-- The same request may succeed later. -/
def isRetryable : RemoteError → Bool
  | .request _ retryable => retryable
  | _ => false

end RemoteError

/-! ## Errors of the cluster -/

/-- Why a request to the cluster could not even be made. -/
inductive RequestFault where
  /-- The object has no name. -/
  | emptyName
  /-- The field manager is longer than 128 octets. -/
  | longFieldManager
  /-- The target holds a character that may not stand there. -/
  | wrongCharacter
  /-- The target has more octets than a target may have. -/
  | longTarget
  deriving DecidableEq, Repr

/-- What a request fault says. -/
def RequestFault.message : RequestFault → String
  | .emptyName => "failed to validate request: A non-empty name is required"
  | .longFieldManager =>
      "failed to validate request: Failed to validate PatchParams::field_manager!"
  | .wrongCharacter => "failed to build request: invalid uri character"
  | .longTarget => "failed to build request: uri too long"

/-- The API server's account of a failed request. -/
structure ErrorStatus where
  status : String
  message : String
  reason : String
  code : Nat
  deriving DecidableEq, Repr, Inhabited

/-- The account of a failed request with all of its parts. -/
def ErrorStatus.detail (s : ErrorStatus) : String :=
  "ErrorResponse \x7b status: " ++ Text.quote s.status ++ ", message: " ++ Text.quote s.message ++
    ", reason: " ++ Text.quote s.reason ++ ", code: " ++ toString s.code ++ " \x7d"

/-- Why the cluster did not do what was asked. -/
inductive ClusterError where
  /-- The API server refused the request. -/
  | refused (status : ErrorStatus)
  /-- No answer came back. -/
  | unreachable (message : String)
  /-- The answer is not the object that was expected. -/
  | undecodable (message : String)
  /-- The request was not sent. -/
  | unsent (fault : RequestFault)
  deriving DecidableEq, Repr, Inhabited

namespace ClusterError

/-- What a cluster error says. -/
def message : ClusterError → String
  | .refused s => "ApiError: " ++ s.message ++ ": " ++ s.reason ++ " (" ++ s.detail ++ ")"
  | .unreachable message => "ServiceError: " ++ message
  | .undecodable message => "Error deserializing response: " ++ message
  | .unsent fault => "Failed to build request: " ++ fault.message

/-- The code of a refusal. -/
def code? : ClusterError → Option Nat
  | .refused s => some s.code
  | _ => none

end ClusterError

/-! ## Errors of the operator -/

/-- What went wrong in a step of the operator. -/
inductive Error where
  /-- The cluster failed. -/
  | cluster (source : ClusterError)
  /-- The remote service failed in an operation. -/
  | remote (operation : String) (source : RemoteError)
  /-- A spec breaks a rule at a field. -/
  | validation (field message : String)
  /-- No account could be found for a namespace. -/
  | account (namespaceName message : String)
  /-- Something that a spec names could not be resolved. -/
  | resolution (resource message : String)
  /-- Data could not be converted; the kind of the object may be known. -/
  | serialization (message : String) (kind : Option String)
  /-- The operator itself is at fault. -/
  | internal (message context : String)
  deriving DecidableEq, Repr, Inhabited

namespace Error

/-- The context of an internal error that names none. -/
def unknownContext : String := "unknown"

/-- What an error says. -/
def message : Error → String
  | .cluster source => "kubernetes error: " ++ source.message
  | .remote operation source => operation ++ " failed: " ++ source.message
  | .validation field message => field ++ ": " ++ message
  | .account ns message => "account resolution failed for namespace " ++ ns ++ ": " ++ message
  | .resolution resource message => "cannot resolve " ++ resource ++ ": " ++ message
  | .serialization message _ => "serialization error: " ++ message
  | .internal message context => "internal error [" ++ context ++ "]: " ++ message

/-- What the wrapped error says, if there is one. -/
def sourceMessage? : Error → Option String
  | .cluster source => some source.message
  | .remote _ source => some source.message
  | _ => none

/-- The name of the class of an error. -/
def className : Error → String
  | .cluster _ => "Kube"
  | .remote .. => "Remote"
  | .validation .. => "Validation"
  | .account .. => "Account"
  | .resolution .. => "Resolution"
  | .serialization .. => "Serialization"
  | .internal .. => "Internal"

/-- The error says that an object or an entity does not exist. -/
def isNotFound : Error → Bool
  | .cluster source => source.code? = some 404
  | .remote _ source => source.isNotFound
  | _ => false

/-- A later attempt may succeed without a change of the spec. -/
def isRetryable : Error → Bool
  | .cluster source =>
    match source.code? with
    | some code => !(400 ≤ code && code < 500)
    | none => true
  | .remote _ source => source.isRetryable
  | .validation .. => false
  | .account .. => true
  | .resolution .. => true
  | .serialization .. => false
  | .internal .. => true

end Error

end IamReconciler
