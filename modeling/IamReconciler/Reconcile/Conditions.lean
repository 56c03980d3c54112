import IamReconciler.Resource.Basic

/-!
# Conditions that passes write

Each condition that a pass writes has its own text: one when a resource is first seen, one for each
thing that can be done to the remote entity, and one for each step that can fail, in which the error
follows the step.
-/

namespace IamReconciler

/-- A step of a pass whose failure is written to the status. -/
inductive Step where
  /-- Finding the account of the namespace. -/
  | account
  /-- Turning the spec into a request. -/
  | resolve
  /-- Creating the remote entity. -/
  | create
  /-- Reading the remote entity. -/
  | retrieve
  /-- Updating the remote entity. -/
  | update
  /-- Deleting the remote entity. -/
  | delete
  deriving DecidableEq, Repr

/-- The failure of a step in a kind as messages name it. -/
def Step.text (k : Kind) : Step → String
  | .account => "Error getting IAM account information"
  | .resolve => "Error resolving " ++ k.noun ++ " request"
  | .create => "Error creating " ++ k.noun
  | .retrieve => "Error retrieving " ++ k.noun
  | .update => "Error updating " ++ k.noun
  | .delete => "Error deleting " ++ k.noun

/-- A failed step with its error. -/
def failureText (step : String) (e : Error) : String :=
  step ++ ": " ++ e.message

namespace Kind

/-- What a status says after the remote entity was created. -/
def createdText (k : Kind) : String := "New IAM " ++ k.noun ++ " created"

/-- What a status says after the remote entity was updated. -/
def updatedText (k : Kind) : String := "IAM " ++ k.noun ++ " updated"

/-- What a status says after the remote entity was deleted. -/
def deletedText (k : Kind) : String := "IAM " ++ k.noun ++ " deleted"

/-- What a status says when the remote entity was found in step again. -/
def synchronizedText (k : Kind) : String := "IAM " ++ k.noun ++ " synchronized"

end Kind

namespace Condition

/-- A resource is seen for the first time. -/
def processing : Condition := ⟨.pending, "Processing Resource"⟩

/-- The remote entity was created. -/
def created (k : Kind) : Condition := ⟨.online, k.createdText⟩

/-- The remote entity was updated. -/
def updated (k : Kind) : Condition := ⟨.online, k.updatedText⟩

/-- The remote entity agrees with the spec again. -/
def synchronized (k : Kind) : Condition := ⟨.online, k.synchronizedText⟩

/-- The remote entity was deleted. -/
def deleted (k : Kind) : Condition := ⟨.deleted, k.deletedText⟩

/-- A step failed. -/
def failure (k : Kind) (step : Step) (e : Error) : Condition :=
  ⟨.failed, failureText (step.text k) e⟩

/-- The spec breaks a rule. -/
def malformed (e : Error) : Condition := ⟨.failed, "spec is not well-formed: " ++ e.message⟩

end Condition

end IamReconciler
