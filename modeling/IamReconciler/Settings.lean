import IamReconciler.Error
import IamReconciler.Text.Blank
import IamReconciler.Text.Count

/-!
# Settings

The operator's settings come from four environment variables.  A variable that is unset or blank
leaves its setting at the default; an interval must be a positive count of seconds.  The variables
are read in a fixed order, and the first bad one is reported.
-/

namespace IamReconciler

/-- Where variables are looked up. -/
abbrev Environment := String → Option String

/-- Settings shared by all controllers. -/
structure Settings where
  /-- Seconds until the next pass after one without error. -/
  syncPeriod : Nat := 150
  /-- Seconds until the next pass after one with an error. -/
  errorRequeue : Nat := 5
  /-- The namespace of the operator, which holds the management config map. -/
  controllerNamespace : String := "default"
  /-- The name under which status patches are made. -/
  fieldManager : String := "ibmcloud-iam-operator"
  deriving DecidableEq, Repr, Inhabited

namespace Settings

/-- The variable of the sync period. -/
def syncPeriodVariable : String := "IAM_SYNC_PERIOD_SECS"

/-- The variable of the interval after an error. -/
def errorRequeueVariable : String := "IAM_ERROR_REQUEUE_SECS"

/-- The variable of the operator's namespace. -/
def controllerNamespaceVariable : String := "CONTROLLER_NAMESPACE"

/-- The variable of the field manager. -/
def fieldManagerVariable : String := "IAM_FIELD_MANAGER"

/-- The trimmed value of a variable that is set and not blank. -/
def trimmed? (env : Environment) (variableName : String) : Option String :=
  (env variableName).bind Text.nonBlank?

/-- The interval that a variable gives, or the default. -/
def interval (env : Environment) (variableName : String) (default : Nat) : Except Error Nat :=
  match trimmed? env variableName with
  | none => .ok default
  | some text =>
    match Text.readCount text with
    | .ok 0 => .error (.validation variableName "must be greater than zero")
    | .ok seconds => .ok seconds
    | .error fault =>
      .error (.validation variableName ("invalid seconds '" ++ text ++ "': " ++ fault.message))

/-- The settings that an environment gives. -/
def ofEnvironment (env : Environment) : Except Error Settings := do
  let defaults : Settings := {}
  let syncPeriod ← interval env syncPeriodVariable defaults.syncPeriod
  let errorRequeue ← interval env errorRequeueVariable defaults.errorRequeue
  pure {
    syncPeriod
    errorRequeue
    controllerNamespace :=
      (trimmed? env controllerNamespaceVariable).getD defaults.controllerNamespace
    fieldManager := (trimmed? env fieldManagerVariable).getD defaults.fieldManager }

end Settings

end IamReconciler
