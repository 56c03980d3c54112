import IamReconciler.Error
import IamReconciler.NameMap
import IamReconciler.Text.Blank

/-!
# Credentials and context

The account of a namespace is described by two objects: a secret with an API key and a region, and a
config map with the organization, space, region and resource group.  When the resource's own
namespace has no such object, it is looked up in a management namespace, where its name carries the
resource's namespace unless the management namespace is the default one.
-/

namespace IamReconciler

/-- The name of the secret with the API key. -/
def credentialsSecret : String := "secret-ibmcloud-iam-operator"

/-- The name of the config map with the account context. -/
def contextConfigMap : String := "config-ibmcloud-iam-operator"

/-- The name of the config map that names the management namespace. -/
def managementConfigMap : String := "ibmcloud-iam-operator"

/-- The management namespace when none is named. -/
def defaultNamespace : String := "default"

/-- The trimmed value of a key, or the default when it is missing or blank. -/
def valueOr (data : NameMap String) (key default : String) : String :=
  ((data.get? key).bind Text.nonBlank?).getD default

/-- The region when none is named. -/
def defaultRegion : String := "us-south"

/-- What a session is opened with. -/
structure Credentials where
  apiKey : String
  region : String
  deriving DecidableEq, Repr, Inhabited

namespace Credentials

/-- The credentials that a secret holds. -/
def ofSecret (data : NameMap String) : Except Error Credentials :=
  match (data.get? "api-key").bind Text.nonBlank? with
  | none => .error (.validation (credentialsSecret ++ ".api-key") "api key is missing")
  | some apiKey => .ok ⟨apiKey, valueOr data "region" defaultRegion⟩

/-- The credentials as messages show them, without the key. -/
def redacted (c : Credentials) : String :=
  "IamCredentials \x7b api_key: \"<redacted>\", region: " ++ Text.quote c.region ++ " \x7d"

end Credentials

/-- Where in the account remote entities live. -/
structure AccountContext where
  org : String
  space : String
  region : String
  resourceGroup : String
  deriving DecidableEq, Repr, Inhabited

/-- The context that a config map holds. -/
def AccountContext.ofConfigMap (data : NameMap String) : AccountContext where
  org := valueOr data "org" ""
  space := valueOr data "space" ""
  region := valueOr data "region" defaultRegion
  resourceGroup := valueOr data "resourceGroup" "default"

/-- The name under which a management namespace keeps an object for a resource's namespace. -/
def managementName (management resourceNamespace name : String) : String :=
  if management = defaultNamespace then name else resourceNamespace ++ "-" ++ name

/-- The management namespace that a config map names. -/
def managementNamespaceOf (data : NameMap String) : String :=
  valueOr data "namespace" defaultNamespace

end IamReconciler
