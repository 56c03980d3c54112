import IamReconciler.Json.Record
import IamReconciler.Resource.Timestamp

/-!
# Owners and managers

Metadata may say which other objects own an object and which programs manage its fields.  The
operator keeps both and looks at neither.
-/

namespace IamReconciler

/-- An object that owns another one. -/
structure OwnerReference where
  apiVersion : String := ""
  blocksDeletion : Option Bool := none
  isController : Option Bool := none
  kind : String := ""
  name : String := ""
  uid : String := ""
  deriving DecidableEq, Repr, Inhabited

namespace OwnerReference

/-- The slot of the version of the owner's kind. -/
def apiVersionSlot : Slot OwnerReference String :=
  .text "apiVersion" (·.apiVersion) fun v o => { o with apiVersion := v }

/-- The slot of the owner's kind. -/
def kindSlot : Slot OwnerReference String := .text "kind" (·.kind) fun v o => { o with kind := v }

/-- The slot of the owner's name. -/
def nameSlot : Slot OwnerReference String := .text "name" (·.name) fun v o => { o with name := v }

/-- The slot of the owner's unique identifier. -/
def uidSlot : Slot OwnerReference String := .text "uid" (·.uid) fun v o => { o with uid := v }

/-- The format of references to owners. -/
def record : Record OwnerReference where
  expected := "OwnerReference"
  doc := "An object that owns another one"
  blank := {}
  fields :=
    [ apiVersionSlot.lenient "",
      .absentable "blockOwnerDeletion" "" .bool (·.blocksDeletion)
        fun v o => { o with blocksDeletion := v },
      .absentable "controller" "" .bool (·.isController) fun v o => { o with isController := v },
      kindSlot.lenient "",
      nameSlot.lenient "",
      uidSlot.lenient "" ]
  layout := .tolerant

end OwnerReference

/-- What a program has written of an object, and when. -/
structure ManagedFields where
  apiVersion : Option String := none
  fieldsType : Option String := none
  /-- The fields, in a form of their own. -/
  fields : Option Json := none
  manager : Option String := none
  operation : Option String := none
  subresource : Option String := none
  time : Option Timestamp := none
  deriving Inhabited

namespace ManagedFields

/-- The format of entries about managed fields. -/
def record : Record ManagedFields where
  expected := "ManagedFieldsEntry"
  doc := "What a program has written of an object"
  blank := {}
  fields :=
    [ .absentable "apiVersion" "" .text (·.apiVersion) fun v m => { m with apiVersion := v },
      .absentable "fieldsType" "" .text (·.fieldsType) fun v m => { m with fieldsType := v },
      .absentable "fieldsV1" "" .any (·.fields) fun v m => { m with fields := v },
      .absentable "manager" "" .text (·.manager) fun v m => { m with manager := v },
      .absentable "operation" "" .text (·.operation) fun v m => { m with operation := v },
      .absentable "subresource" "" .text (·.subresource) fun v m => { m with subresource := v },
      .absentable "time" "" Timestamp.format (·.time) fun v m => { m with time := v } ]
  layout := .tolerant

end ManagedFields

end IamReconciler
