/-!
# Finalizers

The finalizers of an object are a list of tokens without repetition, in the order in which they were
first added.  Object metadata keeps them as an optional list; the empty list is written as no list
at all.
-/

namespace IamReconciler

/-- A list of tokens without repetition. -/
structure Finalizers where
  tokens : List String
  nodup : tokens.Nodup
  deriving DecidableEq

namespace Finalizers

/-- No finalizer. -/
def empty : Finalizers := ⟨[], List.nodup_nil⟩

instance : Inhabited Finalizers := ⟨empty⟩

/-- Whether a token is present. -/
def has (f : Finalizers) (token : String) : Bool :=
  f.tokens.contains token

/-- The finalizers with a token, added at the end unless it is present. -/
def add (f : Finalizers) (token : String) : Finalizers :=
  if h : token ∈ f.tokens then f
  else ⟨f.tokens ++ [token], by
    refine List.nodup_append.2 ⟨f.nodup, by simp, ?_⟩
    intro a ha b hb
    rw [List.mem_singleton.1 hb]
    exact fun hab => h (hab ▸ ha)⟩

/-- The finalizers without a token. -/
def erase (f : Finalizers) (token : String) : Finalizers :=
  ⟨f.tokens.filter (· ≠ token), f.nodup.filter _⟩

/-- Whether a token is present, and the finalizers with it. -/
def hasThenAdd (f : Finalizers) (token : String) : Bool × Finalizers :=
  (f.has token, f.add token)

/-- The number of tokens. -/
def size (f : Finalizers) : Nat :=
  f.tokens.length

/-- Whether a token is present, which shows in the number of tokens that are left, and the
finalizers without it. -/
def hasThenErase (f : Finalizers) (token : String) : Bool × Finalizers :=
  let rest := f.erase token
  (rest.size != f.size, rest)

/-- Whether there is no token. -/
def isEmpty (f : Finalizers) : Bool :=
  f.tokens.isEmpty

/-- The finalizers that metadata lists, each at its first occurrence. -/
def ofList? (listed : Option (List String)) : Finalizers :=
  (listed.getD []).foldl add empty

/-- The finalizers as metadata lists them. -/
def toList? (f : Finalizers) : Option (List String) :=
  if f.isEmpty then none else some f.tokens

end Finalizers

end IamReconciler
