import IamReconciler.Proofs.Directory.Holdings
import IamReconciler.Proofs.Lifecycle.Records
import IamReconciler.Proofs.Lifecycle.Statuses

/-!
# Creation is all or nothing

An entity that was created must be recorded, or nobody would find it again.  Two layers see to it: a
group whose members cannot be added is deleted again by the strategy that has created it, and an
entity that cannot be recorded is deleted again by the pass.  Either way the error that is reported
is the one that made the deletion necessary, whatever becomes of the deletion.

What a pass creates and deletes is kept in a ledger.  The ledger of a pass over a resource without
an entity is empty, or it has one entity, or it has one entity twice, and each time the outcome says
which (`Balanced.ledger_eq`).  Where calls that fail have no effect, this is what the service holds:
one entity more, which is recorded, or the same as before, if the deletion succeeds
(`createsOrRestores_of_run`).
-/

namespace IamReconciler

open Directory (Call Entity Holdings Effects)

variable {k : Kind} {key : Key} {settings : Settings} {scope : Scope} {r : Resource k}
  {spec : k.Spec} {h rest : List (Exchange Pass.interface)} {y : Exchange Pass.interface}

/-! ## The ledger -/

/-- What is noted of a call: it has created an entity, or the service was asked to delete one. -/
inductive Entry where
  | created (entity : Entity)
  | deleted (entity : Entity)
  deriving DecidableEq, Repr

/-- What is noted of a call of the service. -/
def Directory.Call.posting? (c : Call) : Except RemoteError c.Value → Option Entry
  | .ok v => ((c.created? v).map .created).or (c.deletes?.map .deleted)
  | .error _ => c.deletes?.map .deleted

/-- What is noted of an exchange. -/
def posting? : Exchange Pass.interface → Option Entry
  | ⟨.directory c, answer⟩ => c.posting? answer
  | _ => none

/-- What is noted of a pass, in order. -/
def ledger (h : List (Exchange Pass.interface)) : List Entry :=
  h.filterMap posting?

/-- The ledger of one part after another. -/
lemma ledger_append : ledger (h ++ rest) = ledger h ++ ledger rest :=
  List.filterMap_append

/-- The ledger of two parts is empty when both are. -/
lemma ledger_append_eq_nil (hFirst : ledger h = []) (hRest : ledger rest = []) :
    ledger (h ++ rest) = [] := by
  rw [ledger_append, hFirst, hRest, List.nil_append]

/-- The ledger of one exchange more. -/
lemma ledger_cons : ledger (y :: h) = (posting? y).toList ++ ledger h := by
  unfold ledger
  cases hEntry : posting? y with
  | none => rw [List.filterMap_cons_none hEntry, Option.toList_none, List.nil_append]
  | some => rw [List.filterMap_cons_some hEntry, Option.toList_some, List.singleton_append]

/-- A creation is noted. -/
lemma posting?_of_created {c : Call} {v : c.Value} {entity : Entity}
    (hCreated : c.created? v = some entity) :
    posting? ⟨.directory c, .ok v⟩ = some (.created entity) := by
  simp only [posting?, Call.posting?, hCreated, Option.map_some, Option.some_or]

/-- A deletion is noted, whatever is answered. -/
lemma posting?_of_deletes {c : Call} {entity : Entity} (hDeletes : c.deletes? = some entity)
    (answer : c.Answer) : posting? ⟨.directory c, answer⟩ = some (.deleted entity) := by
  cases answer with
  | error => simp only [posting?, Call.posting?, hDeletes, Option.map_some]
  | ok v =>
    have hCreated := Call.created?_eq_none_of_creates? (Call.creates?_of_deletes? hDeletes) v
    simp only [posting?, Call.posting?, hCreated, hDeletes, Option.map_none,
      Option.map_some, Option.none_or]

/-- Nothing is noted of a call that creates and deletes nothing. -/
lemma posting?_of_spares {c : Call} (hCreates : c.creates? = none) (hDeletes : c.deletes? = none)
    (answer : c.Answer) : posting? ⟨.directory c, answer⟩ = none := by
  cases answer with
  | error => simp only [posting?, Call.posting?, hDeletes, Option.map_none]
  | ok v =>
    have hCreated := Call.created?_eq_none_of_creates? hCreates v
    simp only [posting?, Call.posting?, hCreated, hDeletes, Option.map_none, Option.none_or]

/-- Nothing is noted of a creation that failed. -/
lemma posting?_of_refused {c : Call} {kind : Directory.EntityKind}
    (hCreates : c.creates? = some kind) (e : RemoteError) :
    posting? ⟨.directory c, .error e⟩ = none := by
  have hDeletes := Call.deletes?_of_touches? (Call.touches?_of_creates? hCreates)
  simp only [posting?, Call.posting?, hDeletes, Option.map_none]

/-- Nothing is noted of what spares all entities. -/
lemma Pass.Call.Spares.posting? (hSpares : y.call.Spares) : posting? y = none := by
  obtain ⟨c, answer⟩ := y
  cases c with
  | directory d =>
    obtain ⟨hTouches, hCreates⟩ := hSpares d rfl
    exact posting?_of_spares hCreates (Call.deletes?_of_touches? hTouches) answer
  | store => rfl
  | openAccount => rfl
  | reference => rfl

/-- Nothing is noted of a part of a pass that spares all entities. -/
lemma Sparing.ledger_eq_nil (hSparing : Sparing h) : ledger h = [] :=
  List.filterMap_eq_nil_iff.2 fun z hMem => (hSparing z hMem).posting?

/-- Nothing is noted of what may follow while an entity is given what its spec lists. -/
lemma MaySettle.posting? {accountId : String} {emails : List String} {entity : Entity}
    (hMay : MaySettle accountId emails entity h y) : posting? y = none := by
  cases hMay with
  | resolved hMay => exact hMay.spares.posting?
  | regrouped hRegroups answer =>
    exact posting?_of_spares (Call.creates?_of_touches? (Call.touches?_of_regroups? hRegroups))
      (Call.deletes?_of_regroups? hRegroups) answer

/-! ## What a pass creates and deletes -/

/-- Why an entity is deleted again that was created after given exchanges: what its spec lists could
not be added, or it could not be recorded.  The error is that of what failed. -/
inductive Fault (k : Kind) (key : Key) (before : List (Exchange Pass.interface)) (id : String) :
    List (Exchange Pass.interface) → Error → Prop where
  | unsettled {r : Resource k} {session : Session} {settling : List (Exchange Pass.interface)}
      {e : Error} (hLast : LastWord (Returns r) before)
      (hSettle : Pass.Traces (k.settle ⟨session, key.ns⟩ r.spec id) settling (.error e)) :
      Fault k key before id settling e
  | unrecorded {r w : Resource k} {session : Session} {settling : List (Exchange Pass.interface)}
      {e : Error} (hLast : LastWord (Returns r) before)
      (hSettle : Pass.Traces (k.settle ⟨session, key.ns⟩ r.spec id) settling (.ok ()))
      (hId : w.remoteId = id) :
      Fault k key before id (settling ++ [⟨.store (.updateStatus k w), .error e⟩]) e

/-- The trace of a pass and the error that it reports, if any: nothing was created and the pass has
failed, or one entity was created and the pass has not failed, or it was created and deleted again,
and the error is that of the fault. -/
inductive Balanced (k : Kind) (key : Key) : List (Exchange Pass.interface) →
    Option Error → Prop where
  | idle {h : List (Exchange Pass.interface)} {e : Error} (hNone : ledger h = []) :
      Balanced k key h (some e)
  | kept {h : List (Exchange Pass.interface)} (id : String)
      (hOnly : ledger h = [.created (k.entity id)]) : Balanced k key h none
  | takenBack {before between after : List (Exchange Pass.interface)} {c d : Call}
      {v : c.Value} {id : String}
      {e : Error} (hBefore : ledger before = []) (hCreated : c.created? v = some (k.entity id))
      (hFault : Fault k key before id between e) (hBetween : ledger between = [])
      (hDeletes : d.deletes? = some (k.entity id)) (answer : d.Answer)
      (hAfter : ledger after = []) :
      Balanced k key
        (before ++ ⟨.directory c, .ok v⟩ :: (between ++ ⟨.directory d, answer⟩ :: after)) (some e)

/-- What is balanced has an empty ledger, or one entity in it, or one entity twice, and the error
says which. -/
theorem Balanced.ledger_eq {e? : Option Error} (hBalanced : Balanced k key h e?) :
    (ledger h = [] ∧ e?.isSome) ∨ ∃ id, (ledger h = [.created (k.entity id)] ∧ e? = none) ∨
      ledger h = [.created (k.entity id), .deleted (k.entity id)] ∧ e?.isSome := by
  cases hBalanced with
  | idle hNone => exact .inl ⟨hNone, rfl⟩
  | kept id hOnly => exact .inr ⟨id, .inl ⟨hOnly, rfl⟩⟩
  | @takenBack before between after c d v id e hBefore hCreated _ hBetween hDeletes answer hAfter =>
    refine .inr ⟨id, .inr ⟨?_, rfl⟩⟩
    simp only [ledger_append, ledger_cons, hBefore, posting?_of_created hCreated, hBetween,
      posting?_of_deletes hDeletes answer, hAfter]
    rfl

section

variable {session : Session}

/-- Nothing is noted while an entity is given what its spec lists. -/
lemma ledger_of_settle {id : String} {x : Except Error Unit}
    (hSettle : Pass.Traces (k.settle scope spec id) h x) : ledger h = [] :=
  List.filterMap_eq_nil_iff.2
    ((k.heeds_settle scope spec id h x hSettle).forall_mem fun _ _ hMay => hMay.posting?)

/-- A creation that fails leaves nothing, or what it has made is taken back. -/
lemma Creation.balanced {seg : List (Exchange Pass.interface)} {e : Error} (hNone : ledger h = [])
    (hLast : LastWord (Returns r) h)
    (hCreation : Creation k ⟨session, key.ns⟩ r.spec seg (.error e)) (hRest : ledger rest = []) :
    Balanced k key (h ++ seg ++ rest) (some e) := by
  have hSearched {s : List (Exchange Pass.interface)} (hSearch : ∀ z ∈ s, z.call.isRead) :
      ledger (h ++ s) = [] :=
    ledger_append_eq_nil hNone (sparing_of_isRead hSearch).ledger_eq_nil
  cases hCreation with
  | unasked hSearch => exact .idle (ledger_append_eq_nil (hSearched hSearch) hRest)
  | @refused s c failure _ hSearch _ hCreates =>
    have hRefused : ledger [⟨.directory c, .error failure⟩] = [] :=
      List.filterMap_eq_nil_iff.2
        (List.forall_mem_singleton.2 (posting?_of_refused hCreates failure))
    rw [← List.append_assoc h]
    exact .idle (ledger_append_eq_nil (ledger_append_eq_nil (hSearched hSearch) hRefused) hRest)
  | @takenBack s settling c d v id _ answer hSearch _ hCreated hSettle hDeletes =>
    have hLast : LastWord (Returns r) (h ++ s) := hLast.append (isStore_of_search hSearch)
    have hBalanced : Balanced k key
        (h ++ s ++ ⟨.directory c, .ok v⟩ :: (settling ++ ⟨.directory d, answer⟩ :: rest))
        (some e) :=
      .takenBack (hSearched hSearch) hCreated (.unsettled hLast hSettle)
        (ledger_of_settle hSettle) hDeletes answer hRest
    simpa only [List.append_assoc, List.cons_append, List.nil_append] using hBalanced

/-- A creation that succeeds, but whose entity cannot be recorded, is taken back. -/
lemma Creation.unrecorded {seg : List (Exchange Pass.interface)} {ref : RemoteRef}
    {w : Resource k} {e : Error}
    {d : Call} (hNone : ledger h = []) (hLast : LastWord (Returns r) h)
    (hCreation : Creation k ⟨session, key.ns⟩ r.spec seg (.ok ref)) (hId : w.remoteId = ref.id)
    (hDeletes : d.deletes? = some (k.entity ref.id)) (answer : d.Answer) :
    Balanced k key (h ++ (seg ++ [⟨.store (.updateStatus k w), .error e⟩, ⟨.directory d, answer⟩]))
      (some e) := by
  cases hCreation with
  | @made s settling c v _ hSearch _ hCreated hSettle =>
    have hBefore : ledger (h ++ s) = [] :=
      ledger_append_eq_nil hNone (sparing_of_isRead hSearch).ledger_eq_nil
    have hLast : LastWord (Returns r) (h ++ s) := hLast.append (isStore_of_search hSearch)
    have hBetween : ledger (settling ++ [⟨.store (.updateStatus k w), .error e⟩]) = [] :=
      ledger_append_eq_nil (ledger_of_settle hSettle) rfl
    have hBalanced : Balanced k key (h ++ s ++ ⟨.directory c, .ok v⟩ ::
        (settling ++ [⟨.store (.updateStatus k w), .error e⟩] ++ [⟨.directory d, answer⟩]))
        (some e) :=
      .takenBack hBefore hCreated (.unrecorded hLast hSettle hId) hBetween hDeletes answer rfl
    simpa only [List.append_assoc, List.cons_append, List.nil_append] using hBalanced

/-- A pass that comes to a creation has its ledger balanced when it ends. -/
lemma Reached.balanced (hR : Reached r h) {x : Except Error Outcome}
    (hCreating : Lifecycle.Creating settings ⟨session, key.ns⟩ r rest x) :
    Balanced k key (h ++ rest) (Lifecycle.outcomeOf x).error := by
  have hResolved {first : List (Exchange Pass.interface)} {z : Except Error k.CreateRequest}
      (hResolve : Pass.Traces (k.strategy.createRequest ⟨session, key.ns⟩ r.spec) first z) :
      ledger (h ++ first) = [] ∧ LastWord (Returns r) (h ++ first) :=
    ⟨ledger_append_eq_nil (sparing_of_quiet hR.quiet).ledger_eq_nil
      (sparing_of_createRequest hResolve).ledger_eq_nil,
      hR.last.append (isStore_of_createRequest hResolve)⟩
  cases hCreating with
  | unresolved hResolve hTold =>
    rw [← List.append_assoc]
    exact .idle (ledger_append_eq_nil (hResolved hResolve).1
      (sparing_of_quiet hTold.quiet).ledger_eq_nil)
  | uncreated hResolve hCreate hTold =>
    obtain ⟨hNone, hLast⟩ := hResolved hResolve
    rw [← List.append_assoc, ← List.append_assoc]
    exact (Kind.creation_of_traces hCreate).balanced hNone hLast
      (sparing_of_quiet hTold.quiet).ledger_eq_nil
  | @recorded first _ _ ref hResolve hCreate stored =>
    -- the creation is the only entry of the ledger
    cases Kind.creation_of_traces hCreate with
    | made hSearch _ hCreated hSettle =>
      refine .kept ref.id ?_
      rw [← List.append_assoc, ledger_append, (hResolved hResolve).1]
      simp only [ledger_append, ledger_cons, (sparing_of_isRead hSearch).ledger_eq_nil,
        posting?_of_created hCreated, ledger_of_settle hSettle]
      rfl
  | @unrecorded first second _ ref e d hResolve hCreate hDeletes answer =>
    obtain ⟨hNone, hLast⟩ := hResolved hResolve
    have hId : ((r.recordApplied ref).moveTo (.created k)).remoteId = ref.id := by
      rw [Resource.remoteId_moveTo, Resource.remoteId_recordApplied]
    rw [← List.append_assoc]
    exact (Kind.creation_of_traces hCreate).unrecorded hNone hLast hId hDeletes answer

end

/-! ## What the service holds -/

/-- Every call has the effect that its answer says. -/
def Circumstances.IsHonest {κ : Type} (C : Circumstances k (Holdings κ)) : Prop :=
  ∀ (c : Call) (answer : c.Answer) s H, C.serves c answer s H → Effects c answer s.remote H

/-- All deletions succeed. -/
def DeletesSucceed (h : List (Exchange Pass.interface)) : Prop :=
  ∀ (c : Call) (answer : c.Answer), ⟨.directory c, answer⟩ ∈ h → c.deletes?.isSome →
    ∃ v, answer = .ok v

/-- All deletions of a part succeed when all do. -/
lemma DeletesSucceed.mono (hSucceed : DeletesSucceed h) (hPart : ∀ z ∈ rest, z ∈ h) :
    DeletesSucceed rest :=
  fun c answer hMem hDeletes => hSucceed c answer (hPart _ hMem) hDeletes

section

variable {κ : Type} {C : Circumstances k (Holdings κ)} {s t u v : Site k (Holdings κ)}
    {entity : Entity}

/-- A call of an honest service has its effect. -/
lemma effects_of_step {c : Call} {answer : c.Answer} (hHonest : C.IsHonest)
    (hStep : C.surroundings key (.directory c) answer u v) :
    Effects c answer u.remote v.remote := by
  obtain ⟨H, hServes, rfl⟩ := hStep
  exact hHonest c answer u H hServes

/-- A call that spares all entities changes nothing. -/
lemma remote_of_spares (hHonest : C.IsHonest) (hSpares : y.call.Spares)
    (hStep : C.surroundings key y.call y.answer u v) : v.remote = u.remote := by
  obtain ⟨c, answer⟩ := y
  cases c with
  | directory d =>
    obtain ⟨hTouches, hCreates⟩ := hSpares d rfl
    exact (effects_of_step hHonest hStep).eq_of_spares hTouches hCreates
  | store => exact remote_of_step hStep Bool.false_ne_true
  | openAccount => exact remote_of_step hStep Bool.false_ne_true
  | reference => exact remote_of_step hStep Bool.false_ne_true

/-- A part of a pass that spares all entities changes nothing. -/
lemma Sparing.remote_eq (hSparing : Sparing h) (hHonest : C.IsHonest)
    (hPath : (C.surroundings key).Path s h t) : t.remote = s.remote := by
  refine hPath.keeps (J := fun u => u.remote = s.remote) (fun y hMem u v hStep hSame => ?_) rfl
  exact (remote_of_spares hHonest (hSparing y hMem) hStep).trans hSame

/-- While an entity that the service holds is given what its spec lists, nothing else changes. -/
lemma remote_of_settle (hHonest : C.IsHonest) {id : String} {x : Except Error Unit}
    {H : Holdings κ} {a : κ} (hSettle : Pass.Traces (k.settle scope spec id) h x)
    (hPath : (C.surroundings key).Path s h t)
    (hHeld : s.remote = Function.update H (k.entity id) (some a)) :
    ∃ b, t.remote = Function.update H (k.entity id) (some b) := by
  have hMay := (k.heeds_settle scope spec id h x hSettle).forall_mem
    (P := fun z => z.call.Spares ∨ ∃ (c : Call) (answer : c.Answer), z = ⟨.directory c, answer⟩ ∧
      c.regroups? = some (k.entity id)) fun _ _ hMay => by
    cases hMay with
    | resolved hMay => exact .inl hMay.spares
    | regrouped hRegroups answer => exact .inr ⟨_, answer, rfl, hRegroups⟩
  refine hPath.keeps (J := fun u => ∃ b, u.remote = Function.update H (k.entity id) (some b)) ?_
    ⟨a, hHeld⟩
  rintro y hMem u v hStep ⟨b, hSame⟩
  rcases hMay y hMem with hSpares | ⟨c, answer, rfl, hRegroups⟩
  · exact ⟨b, (remote_of_spares hHonest hSpares hStep).trans hSame⟩
  · have hEffects := effects_of_step hHonest hStep
    rw [hSame] at hEffects
    exact hEffects.eq_of_regroups hRegroups

/-- After look-ups, a creation, and what its spec lists, the service holds one entity more. -/
lemma remote_of_created (hHonest : C.IsHonest) {search settling : List (Exchange Pass.interface)}
    {c : Call}
    {w : c.Value} {id : String} {x : Except Error Unit} (hSearch : ∀ z ∈ search, z.call.isRead)
    (hCreated : c.created? w = some (k.entity id))
    (hSettle : Pass.Traces (k.settle scope spec id) settling x)
    (hPath : (C.surroundings key).Path s (search ++ ⟨.directory c, .ok w⟩ :: settling) t) :
    s.remote (k.entity id) = none ∧
      ∃ a, t.remote = Function.update s.remote (k.entity id) (some a) := by
  obtain ⟨u, hFirst, hRest⟩ := Surroundings.path_append_iff.1 hPath
  obtain ⟨v, hCreate, hLast⟩ := Surroundings.path_cons_iff.1 hRest
  obtain ⟨hFresh, a, hAdded⟩ := (effects_of_step hHonest hCreate).eq_of_created hCreated
  rw [(sparing_of_isRead hSearch).remote_eq hHonest hFirst] at hFresh hAdded
  exact ⟨hFresh, remote_of_settle hHonest hSettle hLast hAdded⟩

/-- When an entity that was added is deleted, the service holds what it held before. -/
lemma remote_of_deleted (hHonest : C.IsHonest) {c : Call} {value : c.Value} {H : Holdings κ} {a : κ}
    (hStep : C.surroundings key (.directory c) (.ok value) u v)
    (hDeletes : c.deletes? = some entity) (hFresh : H entity = none)
    (hAdded : u.remote = Function.update H entity (some a)) : v.remote = H := by
  rw [(effects_of_step hHonest hStep).eq_of_deletes hDeletes, hAdded,
    Function.update_idem, ← hFresh, Function.update_eq_self]

/-- A creation adds an entity, or it leaves everything as it was if what it deletes again is
deleted. -/
lemma Creation.remote (hHonest : C.IsHonest) {x : Except Error RemoteRef}
    (hCreation : Creation k scope spec h x) (hPath : (C.surroundings key).Path s h t) :
    (∀ ref, x = .ok ref → s.remote (k.entity ref.id) = none ∧
      ∃ a, t.remote = Function.update s.remote (k.entity ref.id) (some a)) ∧
      ∀ e, x = .error e → DeletesSucceed h → t.remote = s.remote := by
  cases hCreation with
  | unasked hSearch =>
      exact ⟨nofun, fun _ _ _ => (sparing_of_isRead hSearch).remote_eq hHonest hPath⟩
  | refused hSearch _ _ =>
    obtain ⟨u, hFirst, hRefused⟩ := Surroundings.path_concat_iff.1 hPath
    have hSame := (sparing_of_isRead hSearch).remote_eq hHonest hFirst
    exact ⟨nofun, fun _ _ _ => (effects_of_step hHonest hRefused).eq_of_error.trans hSame⟩
  | made hSearch _ hCreated hSettle =>
    refine ⟨?_, nofun⟩
    rintro _ ⟨⟩
    exact remote_of_created hHonest hSearch hCreated hSettle hPath
  | @takenBack search settling c d w id e answer hSearch _ hCreated hSettle hDeletes =>
    refine ⟨nofun, fun _ _ hSucceed => ?_⟩
    have hMem : ⟨.directory d, answer⟩ ∈ search ++ ⟨.directory c, .ok w⟩ ::
        (settling ++ [⟨.directory d, answer⟩]) :=
      List.mem_append_right _ (List.mem_cons_of_mem _ List.mem_concat_self)
    obtain ⟨v, rfl⟩ := hSucceed d answer hMem (Option.isSome_iff_exists.2 ⟨_, hDeletes⟩)
    rw [← List.cons_append, ← List.append_assoc] at hPath
    obtain ⟨u, hFirst, hDelete⟩ := Surroundings.path_concat_iff.1 hPath
    obtain ⟨hFresh, a, hAdded⟩ := remote_of_created hHonest hSearch hCreated hSettle hFirst
    exact remote_of_deleted hHonest hDelete hDeletes hFresh hAdded

/-- A creation adds an entity that is recorded, or it leaves everything as it was if what it deletes
is deleted. -/
lemma Lifecycle.Creating.remote (hHonest : C.IsHonest) {x : Except Error Outcome}
    (hCreating : Creating settings scope r h x) (hPath : (C.surroundings key).Path s h t) :
    (∀ outcome, x = .ok outcome → ∃ id a, s.remote (k.entity id) = none ∧
      t.remote = Function.update s.remote (k.entity id) (some a) ∧ t.resource.remoteId = id ∧
        t.resource.state = .online) ∧
      ∀ e, x = .error e → DeletesSucceed h → t.remote = s.remote := by
  cases hCreating with
  | unresolved hResolve hTold =>
    obtain ⟨u, hFirst, hRest⟩ := Surroundings.path_append_iff.1 hPath
    have hResolved := (sparing_of_createRequest hResolve).remote_eq hHonest hFirst
    exact ⟨nofun, fun _ _ _ =>
      ((sparing_of_quiet hTold.quiet).remote_eq hHonest hRest).trans hResolved⟩
  | @uncreated first second told _ e hResolve hCreate hTold =>
    obtain ⟨u, hFirst, hRest⟩ := Surroundings.path_append_iff.1 hPath
    obtain ⟨v, hSecond, hLast⟩ := Surroundings.path_append_iff.1 hRest
    refine ⟨nofun, fun _ _ hSucceed => ?_⟩
    have hSecondSucceeds := hSucceed.mono fun z hMem =>
      List.mem_append_right first (List.mem_append_left told hMem)
    calc
      t.remote = v.remote := (sparing_of_quiet hTold.quiet).remote_eq hHonest hLast
      _ = u.remote :=
        ((Kind.creation_of_traces hCreate).remote hHonest hSecond).2 e rfl hSecondSucceeds
      _ = s.remote := (sparing_of_createRequest hResolve).remote_eq hHonest hFirst
  | @recorded first second _ ref hResolve hCreate stored =>
    obtain ⟨u, hFirst, hRest⟩ := Surroundings.path_append_iff.1 hPath
    obtain ⟨v, hSecond, hWrite⟩ := Surroundings.path_concat_iff.1 hRest
    obtain ⟨hFresh, a, hAdded⟩ :=
      ((Kind.creation_of_traces hCreate).remote hHonest hSecond).1 ref rfl
    rw [(sparing_of_createRequest hResolve).remote_eq hHonest hFirst] at hFresh hAdded
    refine ⟨fun _ _ => ⟨ref.id, a, hFresh, ?_⟩, nofun⟩
    cases hWrite with
    | stated =>
      refine ⟨hAdded, ?_, rfl⟩
      exact (Resource.remoteId_moveTo _ _).trans (Resource.remoteId_recordApplied r ref)
  | @unrecorded first second _ ref e d hResolve hCreate hDeletes answer =>
    obtain ⟨u, hFirst, hRest⟩ := Surroundings.path_append_iff.1 hPath
    obtain ⟨v, hSecond, hLast⟩ := Surroundings.path_append_iff.1 hRest
    obtain ⟨w, hWrite, hEnd⟩ := Surroundings.path_cons_iff.1 hLast
    obtain ⟨w', hDelete, hNone⟩ := Surroundings.path_cons_iff.1 hEnd
    obtain rfl := Surroundings.path_nil_iff.1 hNone
    obtain ⟨hFresh, a, hAdded⟩ :=
      ((Kind.creation_of_traces hCreate).remote hHonest hSecond).1 ref rfl
    rw [(sparing_of_createRequest hResolve).remote_eq hHonest hFirst] at hFresh hAdded
    rw [← remote_of_step hWrite Bool.false_ne_true] at hAdded
    refine ⟨nofun, fun _ _ hSucceed => ?_⟩
    -- the deletion is one of those that succeed, and it takes away what was added
    obtain ⟨value, rfl⟩ := hSucceed d answer (List.mem_append_right _ (List.mem_append_right _
      (List.mem_cons_of_mem _ List.mem_cons_self))) (Option.isSome_iff_exists.2 ⟨_, hDeletes⟩)
    exact remote_of_deleted hHonest hDelete hDeletes hFresh hAdded

end

/-! ## What is stored -/

/-- In a pass that comes to a creation and fails, a write of the status fails too, or it only
rewords the status. -/
lemma Reached.rewords_creating {session : Session} {e : Error} (hR : Reached r h)
    (hCreating : Lifecycle.Creating settings ⟨session, key.ns⟩ r rest (.error e)) :
    InTurn (fun before y => WriteFailed y ∨ Rewords k before y) (h ++ rest) := by
  -- calls of other parties than the store come first, and then the error is told
  have hTelling {first told : List (Exchange Pass.interface)} {c : Condition}
      (hOther : ∀ y ∈ first, y.call.isStore = false) (hTold : Lifecycle.Telling r c told) :
      InTurn (fun before y => WriteFailed y ∨ Rewords k before y) (h ++ first ++ told) := by
    have hTurn := inTurn_append_iff.2 ⟨inTurn_rewords_append hR.rewords hOther,
      hTold.rewords (hR.last.append hOther)⟩
    exact hTurn.imp fun _ _ hReword => .inr hReword
  cases hCreating with
  | unresolved hResolve hTold =>
    rw [← List.append_assoc]
    exact hTelling (isStore_of_createRequest hResolve) hTold
  | uncreated hResolve hCreate hTold =>
    rw [← List.append_assoc, ← List.append_assoc, List.append_assoc h]
    refine hTelling (List.forall_mem_append.2 ⟨isStore_of_createRequest hResolve, ?_⟩) hTold
    exact isStore_of_create hCreate
  | unrecorded hResolve hCreate hDeletes answer =>
    have hBefore := inTurn_rewords_append hR.rewords
      (List.forall_mem_append.2 ⟨isStore_of_createRequest hResolve, isStore_of_create hCreate⟩)
    rw [← List.append_assoc, ← List.append_assoc, List.append_assoc h]
    refine inTurn_append_iff.2 ⟨hBefore.imp fun _ _ hReword => .inr hReword, ?_⟩
    exact inTurn_cons_iff.2 ⟨.inl (.updateStatus _ _), inTurn_singleton_iff.2
      (.inr (rewords_of_other rfl))⟩

/-! ## The pass -/

section

variable {δ : Type} {C : Circumstances k δ} {s t : Site k δ}

/-- What a pass gets when it greets the stored resource has its spec. -/
lemma spec_of_greet {greeted : Resource k} (hPath : (C.surroundings key).Path s h t)
    (hGreet : Pass.Traces (Lifecycle.greet s.resource) h (.ok greeted)) :
    greeted.spec = s.resource.spec := by
  rcases Lifecycle.traces_greet_iff.1 hGreet with ⟨-, rfl⟩ | ⟨-, -, hSame⟩
  · obtain ⟨u, hStep, -⟩ := Surroundings.path_cons_iff.1 hPath
    cases hStep with
    | stated => rfl
  · cases hSame
    rfl

/-- A pass over a stored, well-formed resource that records no entity and is not being deleted stays
calm and fails, or it comes to a creation. -/
lemma Lifecycle.Passing.creating {x : Except Error Outcome} (hPassing : Passing settings k key h x)
    (hPath : (C.surroundings key).Path s h t) (hStored : s.isStored) (hLiving : ¬s.isDeleting)
    (hValid : s.resource.validate = .ok ()) (hUnrecorded : ¬s.resource.isRecorded) :
    Calm k h ∧ (∃ e, x = .error e) ∨
      ∃ (first last : List (Exchange Pass.interface)) (session : Session) (held : Resource k),
        h = first ++ last ∧ Reached held first ∧
        Creating settings ⟨session, key.ns⟩ held last x := by
  cases hPassing.attending hPath hStored hLiving with
  | unread e => exact .inl ⟨calm_get key _, e, rfl⟩
  | ungreeted hGreet => exact .inl ⟨((reached_get key _).greet hGreet).1, _, rfl⟩
  | @living greeted first rest _ hGreet hRest =>
    obtain ⟨u, hFirst, -⟩ := Surroundings.path_append_iff.1 (found_of_path hPath).2
    have hGreeted := ((reached_get key _).greet hGreet).2 greeted rfl
    rcases hGreeted.living hRest with
      ⟨hCalm, hFails⟩ | ⟨first', last, session, held, rfl, hReached,
        ⟨hRecorded, -⟩ | ⟨-, hCreating⟩⟩
    · refine .inl ⟨hCalm, hFails ?_⟩
      rw [Resource.validate, spec_of_greet hFirst hGreet]
      exact hValid
    · -- what is held is stored, and a calm pass has kept the record
      rw [← List.cons_append, ← List.singleton_append, ← List.append_assoc] at hPath
      obtain ⟨v, hBefore, -⟩ := Surroundings.path_append_iff.1 hPath
      have hSame := sameRecord_of_rewords hBefore hReached.rewords
      rw [resource_of_path hBefore hReached.last] at hSame
      rw [Resource.isRecorded_iff, hSame.remoteId, ← Resource.isRecorded_iff] at hRecorded
      exact absurd hRecorded hUnrecorded
    · refine .inr ⟨_, last, session, held, ?_, hReached, hCreating⟩
      rw [List.singleton_append, List.cons_append, List.cons_append, List.append_assoc]

end

/-- A pass over a stored, well-formed resource that records no entity and is not being deleted
creates one or restores what was, for every kind.  Whatever is answered, the pass deletes nothing
but the entity that it has just created, at most once, and then the error that it reports is the one
for which it deletes the entity.  Suppose that a call that fails has no effect, and that a call of
the service has the effect that its answer says.  Without an error the service then holds one entity
more, and this one is recorded by the stored resource, which is online.  With an error the stored
resource records none, and if the deletions of the pass succeed the service holds the same as
before. -/
theorem createsOrRestores_of_run {κ : Type} {C : Circumstances k (Holdings κ)}
    {s t : Site k (Holdings κ)} {trace : List (Exchange Pass.interface)} {outcome : Outcome}
    (hRun : (reconcile settings k key).Runs (C.plainly key) s trace outcome t)
    (hStored : s.isStored) (hLiving : ¬s.isDeleting) (hValid : s.resource.validate = .ok ())
    (hUnrecorded : ¬s.resource.isRecorded) :
    Balanced k key trace outcome.error ∧
      (C.IsHonest →
        (outcome.error = none → ∃ id a, s.remote (k.entity id) = none ∧
          t.remote = Function.update s.remote (k.entity id) (some a) ∧
            t.resource.remoteId = id ∧ t.resource.state = .online) ∧
          ∀ e, outcome.error = some e →
            t.resource.remoteId = "" ∧ (DeletesSucceed trace → t.remote = s.remote)) := by
  obtain ⟨hTrace, hPath⟩ := Program.runs_iff.1 hRun
  obtain ⟨x, hPassing, rfl⟩ := Lifecycle.passing_of_reconcile hTrace
  have hSite : (C.surroundings key).Path s trace t := hPath.mono fun _ _ _ _ hStep => hStep.1
  have hQuiet {first : List (Exchange Pass.interface)} {u : Site k (Holdings κ)}
      (hHonest : C.IsHonest) (hCalm : Calm k first)
      (hPath : (C.surroundings key).Path s first u) : u.remote = s.remote :=
    (sparing_of_quiet hCalm.quiet).remote_eq hHonest hPath
  -- a write that fails leaves the site, since it has its ordinary meaning here
  have hKept (hTurn : InTurn (fun before y => WriteFailed y ∨ Rewords k before y) trace) :
      t.resource.remoteId = "" := by
    have hSame := sameRecord_of_path (fun _ _ _ _ hStep => hStep.1) (fun _ _ _ hFailed hStep =>
      hStep.2 hFailed) hPath hTurn
    rw [hSame.remoteId]
    exact Resource.not_isRecorded_iff.1 hUnrecorded
  rcases hPassing.creating hSite hStored hLiving hValid hUnrecorded with
    ⟨hCalm, e, rfl⟩ | ⟨first, last, session, held, rfl, hReached, hCreating⟩
  · have hNone := (sparing_of_quiet hCalm.quiet).ledger_eq_nil
    refine ⟨.idle hNone, fun hHonest => ⟨nofun, fun _ _ => ⟨hKept ?_, fun _ => ?_⟩⟩⟩
    · exact hCalm.rewords.imp fun _ _ hReword => .inr hReword
    · exact hQuiet hHonest hCalm hSite
  · refine ⟨hReached.balanced hCreating, fun hHonest => ?_⟩
    obtain ⟨u, hFirst, hLast⟩ := Surroundings.path_append_iff.1 hSite
    obtain ⟨hCreates, hRestores⟩ := hCreating.remote hHonest hLast
    rw [hQuiet hHonest hReached.toCalm hFirst] at hCreates hRestores
    cases x with
    | ok outcome =>
      refine ⟨fun _ => hCreates outcome rfl, fun e hError => ?_⟩
      cases hCreating with
      | recorded => cases hError
    | error e =>
      refine ⟨nofun, fun _ _ => ⟨hKept (hReached.rewords_creating hCreating), fun hSucceed => ?_⟩⟩
      exact hRestores e rfl (hSucceed.mono fun z hMem => List.mem_append_right _ hMem)

/-! ## A group that is created, and one that is taken back -/

namespace Creation

/-- The circumstances in which every call has the effect that its answer says. -/
def honestly (k : Kind) (κ : Type) : Circumstances k (Holdings κ) where
  storeMayFail := True
  opens _ _ := True
  refers _ _ := True
  serves c answer s H := Effects c answer s.remote H

/-- The stored resource may be read. -/
lemma honestly_found {κ : Type} {r : Resource k} {H : Holdings κ} :
    (honestly k κ).plainly key (.store (.get k key)) (.ok (some r)) ⟨r, true, H⟩ ⟨r, true, H⟩ :=
  ⟨Site.StoreAnswers.found (s := ⟨r, true, H⟩) rfl, nofun⟩

/-- The status of the stored resource may be written. -/
lemma honestly_stated {κ : Type} {r w stored : Resource k} {H : Holdings κ}
    (hStored : stored = { r with status := w.status }) :
    (honestly k κ).plainly key (.store (.updateStatus k w)) (.ok stored) ⟨r, true, H⟩
      ⟨stored, true, H⟩ := by
  subst hStored
  exact ⟨Site.StoreAnswers.stated (s := ⟨r, true, H⟩) w rfl, nofun⟩

/-- The metadata and the spec of the stored resource may be written. -/
lemma honestly_written {κ : Type} {r w stored : Resource k} {H : Holdings κ}
    (hStored : (⟨stored, true, H⟩ : Site k (Holdings κ)) = Site.written ⟨r, true, H⟩ w) :
    (honestly k κ).plainly key (.store (.update k w)) (.ok stored) ⟨r, true, H⟩
      ⟨stored, true, H⟩ := by
  obtain rfl : stored = (Site.written ⟨r, true, H⟩ w).resource := congrArg Site.resource hStored
  rw [hStored]
  exact ⟨Site.StoreAnswers.written (s := ⟨r, true, H⟩) w rfl, nofun⟩

/-- An account may be opened. -/
lemma honestly_opened {κ : Type} (ns : String) (session : Session) {site : Site k (Holdings κ)} :
    (honestly k κ).plainly key (.openAccount ns) (.ok session) site site :=
  ⟨⟨rfl, trivial⟩, nofun⟩

/-- A call of the service may be answered when its answer says what its effect is. -/
lemma honestly_directory {κ : Type} (c : Call) (answer : c.Answer) {r : Resource k}
    {isStored : Bool}
    {H H' : Holdings κ} (hEffects : Effects c answer H H') :
    (honestly k κ).plainly key (.directory c) answer ⟨r, isStored, H⟩ ⟨r, isStored, H'⟩ :=
  ⟨⟨H', hEffects, rfl⟩, nofun⟩

/-- A service that holds nothing. -/
def nothing : Holdings Unit :=
  fun _ => none

/-- A service that holds the group. -/
def holding : Holdings Unit :=
  Function.update nothing ⟨.group, "group-1"⟩ (some ())

/-- Members may be added to the group. -/
lemma effects_addMembers (members : List GroupMember) :
    Effects (.addMembers "group-1" members) (.ok ()) holding
      (Function.update holding ⟨.group, "group-1"⟩ (some ())) :=
  .changed rfl rfl (some ()) (by rw [holding, Function.update_self])

/-- The pass that creates the group. -/
lemma runs_created :
    ∃ trace, (reconcile {} .accessGroup ⟨"team", "auditors"⟩).Runs
      ((honestly .accessGroup Unit).plainly ⟨"team", "auditors"⟩) ⟨Auditors.unseen, true, nothing⟩
      trace (.requeue 150)
        ⟨Statuses.createdGroup, true, Function.update holding ⟨.group, "group-1"⟩ (some ())⟩ :=
  ⟨_, .ask honestly_found <| .ask (honestly_stated (r := Auditors.unseen) rfl) <|
    .ask (honestly_opened "team" ⟨"account"⟩) <|
    .ask (honestly_written (r := Auditors.pending) rfl) <|
    .ask (honestly_directory (.findGroups "auditors" "account") (.ok []) (.spared rfl rfl)) <|
    .ask (honestly_directory (.createGroup (AccessGroups.request Auditors.unseen.spec) "account")
      (.ok ⟨"group-1", "auditors", ownedDescription ""⟩) (.created rfl rfl ())) <|
    .ask (honestly_directory (.getServiceIdentity "ServiceId-1") (.ok ⟨"ServiceId-1", "iam-1"⟩)
      (.spared rfl rfl)) <|
    .ask (honestly_directory (.addMembers "group-1" [⟨"iam-1", .service⟩]) (.ok ())
      (effects_addMembers _)) <|
    .ask (honestly_stated (r := Auditors.held) rfl) <| .done _ _⟩

/-- The pass that creates the group, cannot record it, and deletes it again. -/
lemma runs_takenBack :
    (reconcile {} .accessGroup ⟨"team", "auditors"⟩).Runs
      ((honestly .accessGroup Unit).plainly ⟨"team", "auditors"⟩) ⟨Auditors.unseen, true, nothing⟩
      Auditors.takenBackTrace
        (.failure Auditors.storeDown) ⟨Auditors.held, true, Function.update
          (Function.update holding ⟨.group, "group-1"⟩ (some ())) ⟨.group, "group-1"⟩ none⟩ :=
  .ask honestly_found <| .ask (honestly_stated (r := Auditors.unseen) rfl) <|
    .ask (honestly_opened "team" ⟨"account"⟩) <|
    .ask (honestly_written (r := Auditors.pending) rfl) <|
    .ask (honestly_directory (.findGroups "auditors" "account") (.ok []) (.spared rfl rfl)) <|
    .ask (honestly_directory (.createGroup (AccessGroups.request Auditors.unseen.spec) "account")
      (.ok ⟨"group-1", "auditors", ownedDescription ""⟩) (.created rfl rfl ())) <|
    .ask (honestly_directory (.getServiceIdentity "ServiceId-1") (.ok ⟨"ServiceId-1", "iam-1"⟩)
      (.spared rfl rfl)) <|
    .ask (honestly_directory (.addMembers "group-1" [⟨"iam-1", .service⟩]) (.ok ())
      (effects_addMembers _)) <|
    .ask ⟨.statementRefused _ Auditors.storeDown fun _ => trivial, fun _ => rfl⟩ <|
    .ask (honestly_directory (.deleteGroup "group-1") (.ok ()) (.deleted rfl)) <| .done _ _

/-- The group is deleted when it is taken back. -/
lemma deletesSucceed_takenBack : DeletesSucceed Auditors.takenBackTrace := by
  intro c answer hMem _
  simp only [Auditors.takenBackTrace, List.mem_cons, List.not_mem_nil, or_false] at hMem
  rcases hMem with hMem | hMem | hMem | hMem | hMem | hMem | hMem | hMem | hMem | hMem
  all_goals cases hMem
  all_goals exact ⟨_, rfl⟩

end Creation

/-- The group that is created is held and recorded; the one that is taken back is neither, and its
ledger says that it was created and deleted. -/
theorem createsOrRestores_of_group :
    (∃ trace t,
      (reconcile {} .accessGroup ⟨"team", "auditors"⟩).Runs
        ((Creation.honestly .accessGroup Unit).plainly ⟨"team", "auditors"⟩)
          ⟨Auditors.unseen, true, Creation.nothing⟩ trace (.requeue 150) t ∧
      ∃ id a, t.remote = Function.update Creation.nothing (Kind.accessGroup.entity id) (some a) ∧
        t.resource.remoteId = id ∧ t.resource.state = .online) ∧
      ∃ t,
        (reconcile {} .accessGroup ⟨"team", "auditors"⟩).Runs
          ((Creation.honestly .accessGroup Unit).plainly ⟨"team", "auditors"⟩)
            ⟨Auditors.unseen, true, Creation.nothing⟩ Auditors.takenBackTrace
          (.failure Auditors.storeDown) t ∧
        Balanced .accessGroup ⟨"team", "auditors"⟩ Auditors.takenBackTrace
          (some Auditors.storeDown) ∧
        t.resource.remoteId = "" ∧ t.remote = Creation.nothing := by
  have hHonest : (Creation.honestly .accessGroup Unit).IsHonest := fun _ _ _ _ hEffects => hEffects
  obtain ⟨trace, hCreated⟩ := Creation.runs_created
  obtain ⟨-, hCreation⟩ :=
    createsOrRestores_of_run hCreated rfl Bool.false_ne_true rfl Bool.false_ne_true
  obtain ⟨id, a, -, hHeld⟩ := (hCreation hHonest).1 rfl
  obtain ⟨hBalanced, hRestoring⟩ :=
    createsOrRestores_of_run Creation.runs_takenBack rfl Bool.false_ne_true rfl Bool.false_ne_true
  obtain ⟨hUnrecorded, hRestored⟩ := (hRestoring hHonest).2 Auditors.storeDown rfl
  exact ⟨⟨trace, _, hCreated, id, a, hHeld⟩, _, Creation.runs_takenBack, hBalanced, hUnrecorded,
    hRestored Creation.deletesSucceed_takenBack⟩

end IamReconciler
