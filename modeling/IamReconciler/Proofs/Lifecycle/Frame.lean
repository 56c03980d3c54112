import IamReconciler.Proofs.Lifecycle.Exchanges
import IamReconciler.Proofs.Strategy.Courses

/-!
# What strategies leave alone

Most of what a strategy calls concerns neither the store nor the entities that the service keeps: it
looks things up, or it invites and removes users.  The store is called by no strategy at all.
Entities are spared by a call that neither creates nor changes one (`Pass.Call.Spares`), and by a
part of a pass all of whose calls do so (`Sparing`): reading an entity, and resolving what is to be
created or what is desired.
-/

namespace IamReconciler

open Directory (Call Entity)

variable {k : Kind} {scope : Scope} {spec : k.Spec} {h : List (Exchange Pass.interface)}
  {y : Exchange Pass.interface} {accountId : String} {emails : List String}

/-! ## Looking up -/

/-- A call that reads an entity looks it up. -/
lemma Pass.Call.isRead_of_reads? {c : Pass.Call} {entity : Entity}
    (hReads : c.reads? = some entity) : c.isRead := by
  cases c with
  | store => cases hReads
  | openAccount => cases hReads
  | reference => cases hReads
  | directory => exact Directory.Call.isRead_of_reads? hReads

/-- An entity is read by looking it up. -/
lemma isRead_of_fetch {id : String} {x : Except Error (k.Remote × Etag)}
    (hFetch : Pass.Traces (k.strategy.fetch id) h x) : ∀ z ∈ h, z.call.isRead :=
  fun z hMem => Pass.Call.isRead_of_reads? (Kind.reads_of_traces hFetch z hMem)

/-! ## Entities -/

/-- A call neither creates nor changes an entity. -/
def Pass.Call.Spares (c : Pass.Call) : Prop :=
  ∀ d, c = .directory d → d.touches? = none ∧ d.creates? = none

/-- No call of a part of a pass creates or changes an entity. -/
def Sparing (h : List (Exchange Pass.interface)) : Prop :=
  ∀ z ∈ h, z.call.Spares

/-- A call of another party than the service spares all entities. -/
lemma spares_of_quiet (hQuiet : ¬y.call.isRemote) : y.call.Spares := by
  intro d hCall
  rw [hCall] at hQuiet
  exact absurd rfl hQuiet

/-- A look-up spares all entities. -/
lemma spares_of_isRead (hRead : y.call.isRead) : y.call.Spares := by
  intro d hCall
  rw [hCall] at hRead
  exact ⟨Call.touches?_of_isRead hRead, Call.creates?_of_isRead hRead⟩

/-- What may follow while a spec is resolved spares all entities. -/
lemma MayResolve.spares {kind : Directory.EntityKind}
    (hMay : MayResolve kind accountId emails h y) : y.call.Spares := by
  cases hMay with
  | referred => exact spares_of_quiet Bool.false_ne_true
  | read hRead => exact spares_of_isRead hRead
  | invited =>
    rintro _ ⟨⟩
    exact ⟨rfl, rfl⟩
  | removed =>
    rintro _ ⟨⟩
    exact ⟨rfl, rfl⟩

/-- What calls no remote service spares all entities. -/
lemma sparing_of_quiet (hQuiet : ∀ z ∈ h, ¬z.call.isRemote) : Sparing h :=
  fun z hMem => spares_of_quiet (hQuiet z hMem)

/-- Looking things up spares all entities. -/
lemma sparing_of_isRead (hRead : ∀ z ∈ h, z.call.isRead) : Sparing h :=
  fun z hMem => spares_of_isRead (hRead z hMem)

/-- Resolving what is to be created spares all entities. -/
lemma sparing_of_createRequest {x : Except Error k.CreateRequest}
    (hResolve : Pass.Traces (k.strategy.createRequest scope spec) h x) : Sparing h :=
  (k.heeds_createRequest scope spec h x hResolve).forall_mem fun _ _ hMay => hMay.spares

/-- Resolving what is desired spares all entities. -/
lemma sparing_of_updateRequest {x : Except Error k.UpdateRequest}
    (hResolve : Pass.Traces (k.strategy.updateRequest scope spec) h x) : Sparing h :=
  (k.heeds_updateRequest scope spec h x hResolve).forall_mem fun _ _ hMay => hMay.spares

/-! ## Calls in an account -/

/-- A look-up is made in an account. -/
lemma Pass.Call.needsAccount_of_isRead {c : Pass.Call} (hRead : c.isRead) : c.needsAccount := by
  cases c with
  | store => exact absurd hRead Bool.false_ne_true
  | openAccount => exact absurd hRead Bool.false_ne_true
  | reference => exact absurd hRead Bool.false_ne_true
  | directory => rfl

/-- A spec is resolved in an account. -/
lemma MayResolve.needsAccount {kind : Directory.EntityKind}
    (hMay : MayResolve kind accountId emails h y) : y.call.needsAccount := by
  cases hMay <;> rfl

/-- An entity is given what its spec lists in an account. -/
lemma MaySettle.needsAccount {entity : Entity} (hMay : MaySettle accountId emails entity h y) :
    y.call.needsAccount := by
  cases hMay with
  | resolved hMay => exact hMay.needsAccount
  | regrouped => rfl

/-- Things are looked up in an account. -/
lemma needsAccount_of_search (hSearch : ∀ z ∈ h, z.call.isRead) : ∀ z ∈ h, z.call.needsAccount :=
  fun z hMem => Pass.Call.needsAccount_of_isRead (hSearch z hMem)

/-- An entity is read in an account. -/
lemma needsAccount_of_fetch {id : String} {x : Except Error (k.Remote × Etag)}
    (hFetch : Pass.Traces (k.strategy.fetch id) h x) : ∀ z ∈ h, z.call.needsAccount :=
  needsAccount_of_search (isRead_of_fetch hFetch)

/-- What is to be created is resolved in an account. -/
lemma needsAccount_of_createRequest {x : Except Error k.CreateRequest}
    (hResolve : Pass.Traces (k.strategy.createRequest scope spec) h x) :
    ∀ z ∈ h, z.call.needsAccount :=
  (k.heeds_createRequest scope spec h x hResolve).forall_mem fun _ _ hMay => hMay.needsAccount

/-- What is desired is resolved in an account. -/
lemma needsAccount_of_updateRequest {x : Except Error k.UpdateRequest}
    (hResolve : Pass.Traces (k.strategy.updateRequest scope spec) h x) :
    ∀ z ∈ h, z.call.needsAccount :=
  (k.heeds_updateRequest scope spec h x hResolve).forall_mem fun _ _ hMay => hMay.needsAccount

/-- An entity that was created is given what its spec lists in an account. -/
lemma needsAccount_of_settle {id : String} {x : Except Error Unit}
    (hSettle : Pass.Traces (k.settle scope spec id) h x) : ∀ z ∈ h, z.call.needsAccount :=
  (k.heeds_settle scope spec id h x hSettle).forall_mem fun _ _ hMay => hMay.needsAccount

/-- An entity is created in an account. -/
lemma Creation.needsAccount {x : Except Error RemoteRef} (hCreation : Creation k scope spec h x) :
    ∀ y ∈ h, y.call.needsAccount := by
  cases hCreation with
  | unasked hSearch => exact needsAccount_of_search hSearch
  | refused hSearch => exact forall_mem_concat_iff.2 ⟨needsAccount_of_search hSearch, rfl⟩
  | made hSearch _ _ hSettle =>
    exact List.forall_mem_append.2 ⟨needsAccount_of_search hSearch,
      List.forall_mem_cons.2 ⟨rfl, needsAccount_of_settle hSettle⟩⟩
  | takenBack _ hSearch _ _ hSettle _ =>
    exact List.forall_mem_append.2 ⟨needsAccount_of_search hSearch,
      List.forall_mem_cons.2 ⟨rfl, forall_mem_concat_iff.2 ⟨needsAccount_of_settle hSettle, rfl⟩⟩⟩

/-- An entity is updated in an account. -/
lemma Updating.needsAccount {id : String} {etag : Etag} {x : Except Error RemoteRef}
    (hUpdating : Updating k scope spec id etag h x) : ∀ y ∈ h, y.call.needsAccount := by
  cases hUpdating with
  | refused => exact List.forall_mem_singleton.2 rfl
  | accepted _ _ hRest =>
    exact List.forall_mem_cons.2 ⟨rfl, hRest.forall_mem fun _ _ hMay => hMay.needsAccount⟩

/-- A strategy creates an entity in an account. -/
lemma needsAccount_of_create {request : k.CreateRequest} {x : Except Error RemoteRef}
    (hCreate : Pass.Traces (k.strategy.create scope spec request) h x) :
    ∀ z ∈ h, z.call.needsAccount :=
  (Kind.creation_of_traces hCreate).needsAccount

/-- A strategy updates an entity in an account. -/
lemma needsAccount_of_update {id : String} {desired : k.UpdateRequest} {remote : k.Remote}
    {etag : Etag} {x : Except Error RemoteRef}
    (hUpdate : Pass.Traces (k.strategy.update scope spec id desired remote etag) h x) :
    ∀ z ∈ h, z.call.needsAccount :=
  (Kind.updating_of_traces hUpdate).needsAccount

/-! ## The store -/

/-- What is done in an account does not call the store. -/
lemma isStore_of_needsAccount (hNeeds : ∀ z ∈ h, z.call.needsAccount) :
    ∀ z ∈ h, z.call.isStore = false :=
  fun z hMem => Pass.Call.isStore_of_needsAccount (hNeeds z hMem)

/-- Looking things up does not call the store. -/
lemma isStore_of_search (hSearch : ∀ z ∈ h, z.call.isRead) : ∀ z ∈ h, z.call.isStore = false :=
  isStore_of_needsAccount (needsAccount_of_search hSearch)

/-- An entity is read without the store. -/
lemma isStore_of_fetch {id : String} {x : Except Error (k.Remote × Etag)}
    (hFetch : Pass.Traces (k.strategy.fetch id) h x) : ∀ z ∈ h, z.call.isStore = false :=
  isStore_of_needsAccount (needsAccount_of_fetch hFetch)

/-- What is to be created is resolved without the store. -/
lemma isStore_of_createRequest {x : Except Error k.CreateRequest}
    (hResolve : Pass.Traces (k.strategy.createRequest scope spec) h x) :
    ∀ z ∈ h, z.call.isStore = false :=
  isStore_of_needsAccount (needsAccount_of_createRequest hResolve)

/-- What is desired is resolved without the store. -/
lemma isStore_of_updateRequest {x : Except Error k.UpdateRequest}
    (hResolve : Pass.Traces (k.strategy.updateRequest scope spec) h x) :
    ∀ z ∈ h, z.call.isStore = false :=
  isStore_of_needsAccount (needsAccount_of_updateRequest hResolve)

/-- What is found and what is desired are known without the store. -/
lemma isStore_of_desired {id : String} {rest : List (Exchange Pass.interface)}
    {x : Except Error (k.Remote × Etag)} {y : Except Error k.UpdateRequest}
    (hFetch : Pass.Traces (k.strategy.fetch id) h x)
    (hResolve : Pass.Traces (k.strategy.updateRequest scope spec) rest y) :
    ∀ z ∈ h ++ rest, z.call.isStore = false :=
  List.forall_mem_append.2 ⟨isStore_of_fetch hFetch, isStore_of_updateRequest hResolve⟩

/-- A strategy creates an entity without the store. -/
lemma isStore_of_create {request : k.CreateRequest} {x : Except Error RemoteRef}
    (hCreate : Pass.Traces (k.strategy.create scope spec request) h x) :
    ∀ z ∈ h, z.call.isStore = false :=
  isStore_of_needsAccount (needsAccount_of_create hCreate)

/-- A strategy updates an entity without the store. -/
lemma isStore_of_update {id : String} {desired : k.UpdateRequest} {remote : k.Remote} {etag : Etag}
    {x : Except Error RemoteRef}
    (hUpdate : Pass.Traces (k.strategy.update scope spec id desired remote etag) h x) :
    ∀ z ∈ h, z.call.isStore = false :=
  isStore_of_needsAccount (needsAccount_of_update hUpdate)

end IamReconciler
