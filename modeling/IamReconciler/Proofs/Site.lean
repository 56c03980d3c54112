import IamReconciler.Proofs.Passes
import IamReconciler.Proofs.Resource.Changes
import IamReconciler.Reconcile.Lifecycle

/-!
# Sites

A site is one resource in its store together with the remote service.  The store keeps what it has
acknowledged: a write of metadata and spec keeps the status, a write of the status keeps the rest,
and the resource is removed when it is being deleted and its last finalizer goes.  A write that
fails may have been refused or may have been carried out unnoticed.  How accounts are opened, what
references show and how the service answers is left to the circumstances.

A run of a site interleaves passes with what happens from outside: the spec is edited, deletion is
requested, the remote service changes by itself.  It keeps a record of its passes.
-/

namespace IamReconciler

/-- One resource with the remote service, of which `δ` is what matters. -/
structure Site (k : Kind) (δ : Type) where
  /-- The resource as it was stored last. -/
  resource : Resource k
  /-- The resource is still stored. -/
  isStored : Bool
  remote : δ

namespace Site

variable {k : Kind} {δ : Type}

/-! ## The store -/

/-- The site after a write of metadata and spec; a released resource is not stored any more. -/
def written (s : Site k δ) (w : Resource k) : Site k δ where
  resource := { w with status := s.resource.status }
  isStored := !(w.metadata.isDeleting && w.metadata.finalizerSet.isEmpty)
  remote := s.remote

/-- The site after a write of the status. -/
def stated (s : Site k δ) (w : Resource k) : Site k δ :=
  { s with resource := { s.resource with status := w.status } }

/-- While a resource is not being deleted, a write of its metadata and spec leaves it stored. -/
lemma isStored_written {s : Site k δ} {w : Resource k} (hLiving : w.metadata.isDeleting = false) :
    (s.written w).isStored := by
  rw [written, hLiving]
  rfl

/-- The answers of the store to calls about the resource of a key.  Calls that could succeed fail
only where that is allowed. -/
inductive StoreAnswers (key : Key) (mayFail : Prop) : (c : StoreCall) → c.Answer → Site k δ →
    Site k δ → Prop where
  | found {s : Site k δ} (hStored : s.isStored) :
      StoreAnswers key mayFail (.get k key) (.ok (some s.resource)) s s
  | absent {s : Site k δ} (hGone : s.isStored = false) :
      StoreAnswers key mayFail (.get k key) (.ok none) s s
  | unread {s : Site k δ} (e : Error) (hMay : mayFail) :
      StoreAnswers key mayFail (.get k key) (.error e) s s
  | written {s : Site k δ} (w : Resource k) (hStored : s.isStored) :
      StoreAnswers key mayFail (.update k w) (.ok (s.written w).resource) s (s.written w)
  | writeRefused {s : Site k δ} (w : Resource k) (e : Error) (hMay : s.isStored → mayFail) :
      StoreAnswers key mayFail (.update k w) (.error e) s s
  | writeUnnoticed {s : Site k δ} (w : Resource k) (e : Error) (hStored : s.isStored)
      (hMay : mayFail) : StoreAnswers key mayFail (.update k w) (.error e) s (s.written w)
  | stated {s : Site k δ} (w : Resource k) (hStored : s.isStored) :
      StoreAnswers key mayFail (.updateStatus k w) (.ok (s.stated w).resource) s (s.stated w)
  | statementRefused {s : Site k δ} (w : Resource k) (e : Error) (hMay : s.isStored → mayFail) :
      StoreAnswers key mayFail (.updateStatus k w) (.error e) s s
  | statementUnnoticed {s : Site k δ} (w : Resource k) (e : Error) (hStored : s.isStored)
      (hMay : mayFail) : StoreAnswers key mayFail (.updateStatus k w) (.error e) s (s.stated w)

end Site

/-! ## Circumstances -/

/-- In what circumstances passes over a resource take place. -/
structure Circumstances (k : Kind) (δ : Type) where
  /-- Calls of the store that could succeed may fail. -/
  storeMayFail : Prop
  /-- How the account of a namespace may be opened. -/
  opens : String → Except Error Session → Prop
  /-- What references may show. -/
  refers : (c : ReferenceCall) → c.Answer → Prop
  /-- How the remote service may answer, and what it may be after that. -/
  serves : (c : Directory.Call) → c.Answer → Site k δ → δ → Prop

namespace Circumstances

variable {k : Kind} {δ : Type} (C : Circumstances k δ) {key : Key} {s : Site k δ}

/-- The surroundings of passes over the resource of a key. -/
def surroundings (key : Key) : Surroundings Pass.interface (Site k δ)
  | .store c, answer, s, t => Site.StoreAnswers key C.storeMayFail c answer s t
  | .openAccount ns, answer, s, t => t = s ∧ C.opens ns answer
  | .reference c, answer, s, t => t = s ∧ C.refers c answer
  | .directory c, answer, s, t => ∃ d, C.serves c answer s d ∧ t = { s with remote := d }

variable {C}

/-- An account is opened. -/
lemma surroundings_openAccount {ns : String} {answer : Except Error Session}
    (h : C.opens ns answer) : C.surroundings key (.openAccount ns) answer s s :=
  ⟨rfl, h⟩

/-- The service answers. -/
lemma surroundings_directory {c : Directory.Call} {answer : c.Answer} {d : δ}
    (h : C.serves c answer s d) : C.surroundings key (.directory c) answer s
    { s with remote := d } :=
  ⟨d, h, rfl⟩

/-! ## Calls of the store -/

/-- A write of the status takes effect, or it fails without one. -/
lemma stated_or_left {w : Resource k} {answer : Except Error (Resource k)} {t : Site k δ}
    (hStep : C.surroundings key (.store (.updateStatus k w)) answer s t) :
    t = s.stated w ∨ t = s ∧ ∃ e, answer = .error e := by
  cases hStep with
  | stated => exact .inl rfl
  | statementRefused _ e => exact .inr ⟨rfl, e, rfl⟩
  | statementUnnoticed => exact .inl rfl

/-- A write of metadata and spec takes effect, or it fails without one. -/
lemma written_or_left {w : Resource k} {answer : Except Error (Resource k)} {t : Site k δ}
    (hStep : C.surroundings key (.store (.update k w)) answer s t) :
    t = s.written w ∨ t = s ∧ ∃ e, answer = .error e := by
  cases hStep with
  | written => exact .inl rfl
  | writeRefused _ e => exact .inr ⟨rfl, e, rfl⟩
  | writeUnnoticed => exact .inl rfl

end Circumstances

/-! ## Runs -/

/-- What is kept of a pass: the site before it, its trace, its outcome, and the site after it. -/
structure PassRecord (k : Kind) (δ : Type) where
  before : Site k δ
  trace : List (Exchange Pass.interface)
  outcome : Outcome
  after : Site k δ

namespace Site

variable {k : Kind} {δ : Type}

/-- The stored resource has the finalizer of its kind. -/
def isHeld (s : Site k δ) : Bool :=
  s.resource.metadata.finalizerSet.has k.finalizer

/-- The stored resource is being deleted. -/
def isDeleting (s : Site k δ) : Bool :=
  s.resource.metadata.isDeleting

/-- The site after its spec was edited. -/
def edited (s : Site k δ) (spec : k.Spec) : Site k δ :=
  { s with resource := { s.resource with spec } }

/-- The site after deletion was requested; without a finalizer the resource is removed at once. -/
def condemned (s : Site k δ) (time : Timestamp) : Site k δ :=
  s.written
    { s.resource with metadata := { s.resource.metadata with deletionTimestamp := some time } }

/-- The runs of a site in given circumstances, with the records of their passes in order.  The
remote service may change by itself as `drifts` allows. -/
inductive Run (C : Circumstances k δ) (drifts : δ → δ → Prop) (settings : Settings) (key : Key) :
    Site k δ → List (PassRecord k δ) → Site k δ → Prop where
  | start (s : Site k δ) : Run C drifts settings key s [] s
  | pass {s t u : Site k δ} {records : List (PassRecord k δ)}
      {trace : List (Exchange Pass.interface)}
      {outcome : Outcome} (hRun : Run C drifts settings key s records t)
      (hPass : (reconcile settings k key).Runs (C.surroundings key) t trace outcome u) :
      Run C drifts settings key s (records ++ [⟨t, trace, outcome, u⟩]) u
  | edit {s t : Site k δ} {records : List (PassRecord k δ)}
      (hRun : Run C drifts settings key s records t) (spec : k.Spec) (hStored : t.isStored) :
      Run C drifts settings key s records (t.edited spec)
  | condemn {s t : Site k δ} {records : List (PassRecord k δ)}
      (hRun : Run C drifts settings key s records t) (time : Timestamp) (hStored : t.isStored) :
      Run C drifts settings key s records (t.condemned time)
  | drift {s t : Site k δ} {records : List (PassRecord k δ)}
      (hRun : Run C drifts settings key s records t)
      {d : δ} (hDrift : drifts t.remote d) : Run C drifts settings key s records
      { t with remote := d }

end Site

namespace PassRecord

variable {k : Kind} {δ : Type}

/-- The account could not be opened in a pass. -/
def AccountFailed (p : PassRecord k δ) : Prop :=
  ∃ ns e, ⟨.openAccount ns, .error e⟩ ∈ p.trace

/-- A pass removed the finalizer. -/
def RemovesFinalizer (p : PassRecord k δ) : Prop :=
  p.before.isHeld ∧ ¬p.after.isHeld

end PassRecord

end IamReconciler
