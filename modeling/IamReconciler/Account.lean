import IamReconciler.Credentials
import IamReconciler.Program

/-!
# Accounts

A session with the remote service is opened for the namespace of a resource.  Its credentials and
its context are looked up independently of each other: first in the namespace itself and, when the
object does not exist there, in the management namespace.  The management namespace is named by a
config map in the operator's namespace; when that config map is missing, cannot be read, or names
nothing, the default namespace takes its place.
-/

namespace IamReconciler

/-- A session with the remote service, bound to an account. -/
structure Session where
  accountId : String
  deriving DecidableEq, Repr, Inhabited

/-- A session as messages show it. -/
def Session.shown (s : Session) : String :=
  "IamSession \x7b account: AccountInfo \x7b guid: " ++ Text.quote s.accountId ++ " \x7d, .. \x7d"

namespace Account

/-- The calls that finding an account makes. -/
inductive Call where
  /-- The data of a secret, none when it does not exist. -/
  | secretData (ns name : String)
  /-- The data of a config map, none when it does not exist. -/
  | configMapData (ns name : String)
  /-- A session for credentials in a context. -/
  | openSession (credentials : Credentials) (context : AccountContext)
  deriving DecidableEq

/-- The answer to a call. -/
@[reducible] def Call.Answer : Call → Type
  | .secretData .. => Except Error (Option (NameMap String))
  | .configMapData .. => Except Error (Option (NameMap String))
  | .openSession .. => Except RemoteError Session

/-- The interface of finding an account. -/
def interface : Interface := ⟨Call, Call.Answer⟩

/-- A search for an account, which may fail. -/
abbrev Search := ExceptT Error (Program interface)

/-- The data of a secret. -/
def secretData (ns name : String) : Search (Option (NameMap String)) :=
  Program.call (I := interface) (.secretData ns name)

/-- The data of a config map. -/
def configMapData (ns name : String) : Search (Option (NameMap String)) :=
  Program.call (I := interface) (.configMapData ns name)

/-- The management namespace. -/
def managementNamespace (controllerNamespace : String) : Program interface String := do
  match ← (configMapData controllerNamespace managementConfigMap).run with
  | .ok (some data) => pure (managementNamespaceOf data)
  | .ok none => pure defaultNamespace
  | .error _ => pure defaultNamespace

/-- The data of an object that a read finds in a namespace, or else in the management namespace. -/
def lookUp (read : String → String → Search (Option (NameMap String))) (what : String)
    (controllerNamespace ns objectName : String) : Search (NameMap String) := do
  match ← read ns objectName with
  | some data => pure data
  | none =>
    let management ← (managementNamespace controllerNamespace : Program interface String)
    let name := managementName management ns objectName
    match ← read management name with
    | some data => pure data
    | none =>
      throw (.account ns (what ++ " " ++ name ++ " not found in namespace " ++ management))

/-- The credentials for a namespace. -/
def credentials (controllerNamespace ns : String) : Search Credentials := do
  let data ← lookUp secretData "secret" controllerNamespace ns credentialsSecret
  Credentials.ofSecret data

/-- The context for a namespace. -/
def context (controllerNamespace ns : String) : Search AccountContext := do
  let data ← lookUp configMapData "config map" controllerNamespace ns contextConfigMap
  pure (AccountContext.ofConfigMap data)

/-- The session for a namespace. -/
def resolve (controllerNamespace ns : String) : Search Session := do
  let credentials ← credentials controllerNamespace ns
  let context ← context controllerNamespace ns
  match ← (Program.call (I := interface) (.openSession credentials context)) with
  | .ok session => pure session
  | .error e => throw (.account ns e.message)

end Account

end IamReconciler
