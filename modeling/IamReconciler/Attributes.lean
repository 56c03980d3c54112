import IamReconciler.NameMap

/-!
# Attributes

The subject and the resource of a policy are described by attributes: a map from names to values in
which no value is empty.  Setting a name to an empty value changes nothing.
-/

namespace IamReconciler

/-- A map from attribute names to values that are not empty. -/
structure Attributes where
  map : NameMap String
  nonempty : ∀ entry ∈ map.entries, entry.2 ≠ ""
  deriving DecidableEq

namespace Attributes

/-- No attribute. -/
def empty : Attributes := ⟨NameMap.empty, by simp [NameMap.empty]⟩

instance : Inhabited Attributes := ⟨empty⟩

/-- The attributes with a name set to a value, unless the value is empty. -/
def set (a : Attributes) (name value : String) : Attributes :=
  if h : value = "" then a
  else ⟨a.map.insert name value, fun entry hMem => by
    rcases Entries.eq_or_mem_of_mem_insert hMem with rfl | hMem
    · exact h
    · exact a.nonempty entry hMem⟩

/-- The value of a name. -/
def get? (a : Attributes) (name : String) : Option String :=
  a.map.get? name

/-- The attributes that bindings give when they are set in order. -/
def ofList (bindings : List (String × String)) : Attributes :=
  bindings.foldl (fun a binding => a.set binding.1 binding.2) empty

/-- The names with their values, in the order of names. -/
def toList (a : Attributes) : List (String × String) :=
  a.map.entries

/-! ## Names -/

/-- The attribute that names the account. -/
def accountId : String := "accountId"

/-- The attribute that names a subject's identity. -/
def iamId : String := "iam_id"

/-- The attribute that names a subject's access group. -/
def accessGroupId : String := "access_group_id"

/-- The attribute that names the service. -/
def serviceName : String := "serviceName"

/-- The attribute that names the service instance. -/
def serviceInstance : String := "serviceInstance"

/-- The attribute that names the type of a resource. -/
def resourceType : String := "resourceType"

/-- The attribute that names a resource. -/
def resource : String := "resource"

/-- The attribute that names the resource group. -/
def resourceGroupId : String := "resourceGroupId"

/-- The attribute that names the region. -/
def region : String := "region"

end Attributes

end IamReconciler
