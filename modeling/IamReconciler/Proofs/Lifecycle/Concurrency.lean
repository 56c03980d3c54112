import IamReconciler.Proofs.Lifecycle.Records
import IamReconciler.Proofs.Lifecycle.Statuses

/-!
# Updates and other actors

Between the moment at which a pass reads an entity and the moment at which it updates it, another
actor may have changed the entity.  The service can tell: an entity is read with a token, an update
presents a token, and the service rejects an update whose token is out of date.  This protects the
other actor only if the pass presents the very token of the read on which it has based its decision,
and if a pass that was rejected changes nothing else.

A pass makes at most one update.  It is guarded (`Guarded`): the entity that is recorded was read,
the desired state was resolved, the two differ, and the token is that of the read.  A pass whose
update is rejected calls the service no more, ends with an error, and leaves the stored status as it
was but for its condition.  The main statement is `guarded_of_run`.
-/

namespace IamReconciler

open Directory (Call Entity)

variable {k : Kind} {key : Key} {settings : Settings} {scope : Scope} {r : Resource k}
  {x : Except Error Outcome} {h rest : List (Exchange Pass.interface)} {y : Exchange Pass.interface}

/-! ## Calls that update nothing -/

namespace Pass.Call

/-- The entity that a call updates. -/
def updates? : Pass.Call → Option Entity
  | .directory c => c.updates?
  | _ => none

/-- A call that spares all entities updates nothing. -/
lemma Spares.updates? {c : Pass.Call} (hSpares : c.Spares) : c.updates? = none := by
  cases c with
  | directory d => exact Call.updates?_of_touches? (hSpares d rfl).1
  | store => rfl
  | openAccount => rfl
  | reference => rfl

end Pass.Call

/-- Nothing is updated while an entity is given what its spec lists. -/
lemma MaySettle.updates? {accountId : String} {emails : List String} {entity : Entity}
    (hMay : MaySettle accountId emails entity h y) : y.call.updates? = none := by
  cases hMay with
  | resolved hMay => exact hMay.spares.updates?
  | regrouped hRegroups => exact Call.updates?_of_regroups? hRegroups

/-- Nothing is updated. -/
def Unchanging (h : List (Exchange Pass.interface)) : Prop :=
  ∀ y ∈ h, y.call.updates? = none

/-- One part after another updates nothing when neither does. -/
lemma unchanging_append_iff : Unchanging (h ++ rest) ↔ Unchanging h ∧ Unchanging rest :=
  List.forall_mem_append

/-- One more exchange updates nothing when it does not. -/
lemma unchanging_cons_iff : Unchanging (y :: h) ↔ y.call.updates? = none ∧ Unchanging h :=
  List.forall_mem_cons

/-- What spares all entities updates nothing. -/
lemma Sparing.unchanging (hSparing : Sparing h) : Unchanging h :=
  fun z hMem => (hSparing z hMem).updates?

/-- Creating an entity updates nothing. -/
lemma Creation.unchanging {spec : k.Spec} {y : Except Error RemoteRef}
    (hCreation : Creation k scope spec h y) : Unchanging h := by
  have hSettled {s : List (Exchange Pass.interface)} {id : String} {z : Except Error Unit}
      (hSettle : Pass.Traces (k.settle scope spec id) s z) : Unchanging s :=
    (k.heeds_settle scope spec id s z hSettle).forall_mem fun _ _ hMay => hMay.updates?
  have hCreate {c : Call} {kind : Directory.EntityKind} (hCreates : c.creates? = some kind) :
      c.updates? = none :=
    Call.updates?_of_touches? (Call.touches?_of_creates? hCreates)
  cases hCreation with
  | unasked hSearch => exact (sparing_of_isRead hSearch).unchanging
  | refused hSearch _ hCreates =>
    exact unchanging_append_iff.2
      ⟨(sparing_of_isRead hSearch).unchanging, List.forall_mem_singleton.2 (hCreate hCreates)⟩
  | made hSearch _ hCreated hSettle =>
    exact unchanging_append_iff.2 ⟨(sparing_of_isRead hSearch).unchanging,
      unchanging_cons_iff.2 ⟨hCreate (Call.creates?_of_created? hCreated), hSettled hSettle⟩⟩
  | takenBack _ hSearch _ hCreated hSettle hDeletes =>
    refine unchanging_append_iff.2 ⟨(sparing_of_isRead hSearch).unchanging,
      unchanging_cons_iff.2 ⟨hCreate (Call.creates?_of_created? hCreated), ?_⟩⟩
    exact unchanging_append_iff.2 ⟨hSettled hSettle,
      List.forall_mem_singleton.2 (Call.updates?_of_deletes? hDeletes)⟩

/-- Deletion updates nothing. -/
lemma Lifecycle.Deleting.unchanging (hDeleting : Deleting r h x) : Unchanging h := by
  have hRemoved {s : List (Exchange Pass.interface)} (hRemoving : Removing r s) : Unchanging s := by
    cases hRemoving with
    | unrecorded => exact List.forall_mem_nil _
    | removed _ hDeletes _ => exact List.forall_mem_singleton.2 (Call.updates?_of_deletes? hDeletes)
  cases hDeleting with
  | kept _ hDeletes _ hTold =>
    exact unchanging_cons_iff.2 ⟨Call.updates?_of_deletes? hDeletes,
      (sparing_of_quiet hTold.quiet).unchanging⟩
  | unstated hRemoving =>
      exact unchanging_append_iff.2 ⟨hRemoved hRemoving, List.forall_mem_singleton.2 rfl⟩
  | stated hRemoving hRelease =>
    exact unchanging_append_iff.2 ⟨hRemoved hRemoving,
      unchanging_cons_iff.2 ⟨rfl, (sparing_of_quiet (quiet_of_release hRelease)).unchanging⟩⟩

/-- Creation updates nothing. -/
lemma Lifecycle.Creating.unchanging (hCreating : Creating settings scope r h x) : Unchanging h := by
  have hResolved {s : List (Exchange Pass.interface)} {z : Except Error k.CreateRequest}
      (hResolve : Pass.Traces (k.strategy.createRequest scope r.spec) s z) : Unchanging s :=
    (sparing_of_createRequest hResolve).unchanging
  have hCreated {s : List (Exchange Pass.interface)} {request : k.CreateRequest}
      {z : Except Error RemoteRef}
      (hCreate : Pass.Traces (k.strategy.create scope r.spec request) s z) : Unchanging s :=
    (Kind.creation_of_traces hCreate).unchanging
  cases hCreating with
  | unresolved hResolve hTold =>
    exact unchanging_append_iff.2 ⟨hResolved hResolve, (sparing_of_quiet hTold.quiet).unchanging⟩
  | uncreated hResolve hCreate hTold =>
    exact unchanging_append_iff.2 ⟨hResolved hResolve,
      unchanging_append_iff.2 ⟨hCreated hCreate, (sparing_of_quiet hTold.quiet).unchanging⟩⟩
  | recorded hResolve hCreate =>
    exact unchanging_append_iff.2 ⟨hResolved hResolve,
      unchanging_append_iff.2 ⟨hCreated hCreate, List.forall_mem_singleton.2 rfl⟩⟩
  | unrecorded hResolve hCreate hDeletes =>
    refine unchanging_append_iff.2 ⟨hResolved hResolve, unchanging_append_iff.2
      ⟨hCreated hCreate, ?_⟩⟩
    exact unchanging_cons_iff.2
      ⟨rfl, List.forall_mem_singleton.2 (Call.updates?_of_deletes? hDeletes)⟩

/-! ## The update -/

/-- An update comes after the entity that is recorded was read and was seen to differ from what is
desired; it names this entity and presents the token of the read, which is the only one that the
entity was read with. -/
inductive Guarded (k : Kind) (key : Key) (c : Call) : List (Exchange Pass.interface) → Prop where
  | guarded {earlier reading resolving : List (Exchange Pass.interface)} {r : Resource k}
      {session : Session}
      {found : k.Remote × Etag} {desired : k.UpdateRequest}
      (hLast : LastWord (Returns r) (earlier ++ reading ++ resolving)) (hRecorded : r.isRecorded)
      (hRead : Pass.Traces (k.strategy.fetch r.remoteId) reading (.ok found))
      (hResolved : Pass.Traces (k.strategy.updateRequest ⟨session, key.ns⟩ r.spec) resolving
        (.ok desired))
      (hDrifted : Lifecycle.needsUpdate r desired found.1)
      (hUpdates : c.updates? = some (k.entity r.remoteId)) (hPresents : c.presents? = some found.2)
      (hToken : ∃ y ∈ reading, ReadWith (k.entity r.remoteId) found.2 y)
      (hOnly : ∀ y ∈ earlier ++ reading ++ resolving, ∀ etag,
        ReadWith (k.entity r.remoteId) etag y → etag = found.2) :
      Guarded k key c (earlier ++ reading ++ resolving)

/-- The courses with one update of a part of a pass that comes after `h`: it is accepted, or it is
rejected, and then the part ends with an error, calls the service no more, and only rewords the
status. -/
inductive Updated (k : Kind) (key : Key) (h : List (Exchange Pass.interface)) :
    List (Exchange Pass.interface) → Except Error Outcome → Prop where
  | accepted {first last : List (Exchange Pass.interface)} {c : Call} {v : c.Value}
      {x : Except Error Outcome} (hBefore : Unchanging first)
      (hGuarded : Guarded k key c (h ++ first)) (hAfter : Unchanging last) :
      Updated k key h (first ++ ⟨.directory c, .ok v⟩ :: last) x
  | rejected {first last : List (Exchange Pass.interface)} {c : Call}
      {e : RemoteError} {error : Error} (hBefore : Unchanging first)
      (hGuarded : Guarded k key c (h ++ first)) (hQuiet : ∀ y ∈ last, ¬y.call.isRemote)
      (hRewords : InTurn (Rewords k) (h ++ (first ++ ⟨.directory c, .error e⟩ :: last))) :
      Updated k key h (first ++ ⟨.directory c, .error e⟩ :: last) (.error error)

/-- While a spec is resolved, no entity of its kind is read. -/
lemma MayResolve.unread {entity : Entity} {accountId : String} {emails : List String} {etag : Etag}
    (hMay : MayResolve entity.kind accountId emails h y) : ¬ReadWith entity etag y := by
  rintro ⟨hReads, hToken⟩
  cases hMay with
  | read _ hOther => exact hOther entity hReads rfl
  | invited => cases hReads
  | removed => cases hReads

section

variable {session : Session} {first second : List (Exchange Pass.interface)}

/-- After an entity was read and was seen to differ from what is desired, an update that names it
and presents the token is guarded. -/
lemma Reached.guarded {found : k.Remote × Etag} {desired : k.UpdateRequest} {c : Call}
    (hR : Reached r h) (hRecorded : r.isRecorded)
    (hFetch : Pass.Traces (k.strategy.fetch r.remoteId) first (.ok found))
    (hResolve :
      Pass.Traces (k.strategy.updateRequest ⟨session, key.ns⟩ r.spec) second (.ok desired))
    (hDrifted : Lifecycle.needsUpdate r desired found.1)
    (hUpdates : c.updates? = some (k.entity r.remoteId)) (hPresents : c.presents? = some found.2) :
    Guarded k key c (h ++ first ++ second) := by
  have hLast := (hR.last.append (isStore_of_fetch hFetch)).append
    (isStore_of_updateRequest hResolve)
  obtain ⟨hToken, hOnly⟩ := Kind.readWith_of_traces hFetch
  refine .guarded hLast hRecorded hFetch hResolve hDrifted hUpdates hPresents hToken
    fun y hMem etag hReadWith => ?_
  rcases List.mem_append.1 hMem with hMem | hMem
  · rcases List.mem_append.1 hMem with hMem | hMem
    · obtain ⟨hReads, hToken⟩ := hReadWith
      exact absurd rfl (hR.quiet _ hMem)
    · exact hOnly y hMem _ etag hReadWith
  · have hUnread := (k.heeds_updateRequest _ r.spec second _ hResolve).forall_mem
      (P := fun z => ¬ReadWith (k.entity r.remoteId) etag z) fun _ _ hMay => hMay.unread
    exact absurd hReadWith (hUnread y hMem)

/-- Before an update, and when there is none, the recorded entity was read and what is desired was
resolved. -/
lemma unchanging_of_prepared {y : Except Error (k.Remote × Etag)} {z : Except Error k.UpdateRequest}
    (hFetch : Pass.Traces (k.strategy.fetch r.remoteId) first y)
    (hResolve : Pass.Traces (k.strategy.updateRequest scope r.spec) second z) :
    Unchanging (first ++ second) :=
  unchanging_append_iff.2
    ⟨(sparing_of_isRead (isRead_of_fetch hFetch)).unchanging,
      (sparing_of_updateRequest hResolve).unchanging⟩

/-- The update of a synchronization, with what follows it, which updates nothing and, if the update
was rejected, calls no remote service and only rewords the status. -/
lemma Reached.updated {third last : List (Exchange Pass.interface)} {found : k.Remote × Etag}
    {desired : k.UpdateRequest} {z : Except Error RemoteRef} (hR : Reached r h)
    (hRecorded : r.isRecorded)
    (hFetch : Pass.Traces (k.strategy.fetch r.remoteId) first (.ok found))
    (hResolve :
      Pass.Traces (k.strategy.updateRequest ⟨session, key.ns⟩ r.spec) second (.ok desired))
    (hDrifted : Lifecycle.needsUpdate r desired found.1)
    (hUpdating : Updating k ⟨session, key.ns⟩ r.spec r.remoteId found.2 third z)
    (hLast : Unchanging last)
    (hRejected : ∀ e, z = .error e → (∃ error, x = .error error) ∧
      (∀ y ∈ last, ¬y.call.isRemote) ∧ ∀ before, LastWord (Returns r) before →
      InTurn (fun earlier y => Rewords k (before ++ earlier) y) last) :
    Updated k key h (first ++ (second ++ (third ++ last))) x := by
  have hBefore := unchanging_of_prepared hFetch hResolve
  cases hUpdating with
  | @refused c e _ hUpdates hPresents =>
    -- what follows a refused update only rewords the status, as what came before it has done
    have hGuarded := hR.guarded hRecorded hFetch hResolve hDrifted hUpdates hPresents
    obtain ⟨⟨error, rfl⟩, hQuiet, hRewords⟩ := hRejected _ rfl
    have hOther : ∀ z ∈ first ++ second ++ [⟨.directory c, .error e⟩], z.call.isStore = false :=
      forall_mem_concat_iff.2
        ⟨List.forall_mem_append.2 ⟨isStore_of_fetch hFetch, isStore_of_updateRequest hResolve⟩, rfl⟩
    have hAll := inTurn_append_iff.2 ⟨inTurn_rewords_append hR.rewords hOther,
      hRewords _ (hR.last.append hOther)⟩
    rw [List.append_assoc] at hGuarded
    rw [List.append_assoc, List.append_assoc, List.singleton_append] at hAll
    rw [List.singleton_append, ← List.append_assoc]
    exact .rejected hBefore hGuarded hQuiet hAll
  | @accepted c v settling _ hUpdates hPresents hSettled =>
    have hGuarded := hR.guarded hRecorded hFetch hResolve hDrifted hUpdates hPresents
    rw [List.append_assoc] at hGuarded
    rw [List.cons_append, ← List.append_assoc]
    exact .accepted hBefore hGuarded
      (unchanging_append_iff.2 ⟨hSettled.forall_mem fun _ _ hMay => hMay.updates?, hLast⟩)

/-- Synchronization updates nothing, or it makes one update. -/
lemma Reached.updating (hR : Reached r h) (hRecorded : r.isRecorded)
    (hSyncing : Lifecycle.Syncing settings ⟨session, key.ns⟩ r rest x) :
    Unchanging rest ∨ Updated k key h rest x := by
  have hWritten (w : Resource k) (answer : Except Error (Resource k)) :
      Unchanging [⟨.store (.updateStatus k w), answer⟩] := List.forall_mem_singleton.2 rfl
  cases hSyncing with
  | forgotten hFetch answer =>
    have hRead := (sparing_of_isRead (isRead_of_fetch hFetch)).unchanging
    exact .inl (unchanging_append_iff.2 ⟨hRead, hWritten _ _⟩)
  | unresolved hFetch hResolve hTold =>
    rw [← List.append_assoc]
    exact .inl (unchanging_append_iff.2
      ⟨unchanging_of_prepared hFetch hResolve, (sparing_of_quiet hTold.quiet).unchanging⟩)
  | agreed hFetch hResolve _ _ => exact .inl (unchanging_of_prepared hFetch hResolve)
  | synchronized hFetch hResolve _ _ answer =>
    rw [← List.append_assoc]
    exact .inl (unchanging_append_iff.2 ⟨unchanging_of_prepared hFetch hResolve, hWritten _ _⟩)
  | unchanged hFetch hResolve hDrifted hUpdate hTold =>
    refine .inr (hR.updated hRecorded hFetch hResolve hDrifted (Kind.updating_of_traces hUpdate)
      (sparing_of_quiet hTold.quiet).unchanging fun _ _ =>
      ⟨⟨_, rfl⟩, hTold.quiet, fun _ hLast => ?_⟩)
    exact hTold.rewords hLast
  | changed hFetch hResolve hDrifted hUpdate answer =>
    exact .inr (hR.updated hRecorded hFetch hResolve hDrifted (Kind.updating_of_traces hUpdate)
      (hWritten _ answer) nofun)

end

/-! ## The pass -/

/-- In the trace of any pass, whatever the store, the accounts, the references and the service
answer: an update is the only one; it comes after the recorded entity was read and was seen to
differ from what is desired, names this entity, and presents the token of the read.  If it is
rejected, the pass fails, calls the service no more, and, in whatever circumstances it takes place,
leaves the stored status as it was but for the condition. -/
theorem guarded_of_run {trace : List (Exchange Pass.interface)} {outcome : Outcome}
    (hRun : (reconcile settings k key).Runs (.free _) () trace outcome ()) :
    ∀ before (c : Call) (answer : c.Answer) after,
      trace = before ++ ⟨.directory c, answer⟩ :: after → c.updates?.isSome →
        (∀ y ∈ before ++ after, y.call.updates? = none) ∧ Guarded k key c before ∧
          ∀ e, answer = .error e →
            (∃ error, outcome = .failure error) ∧ (∀ y ∈ after, ¬y.call.isRemote) ∧
              ∀ (δ : Type) (C : Circumstances k δ) (s t : Site k δ),
                (C.surroundings key).Path s trace t → s.resource.SameRecord t.resource := by
  intro before c answer after hSplit hUpdates
  obtain ⟨x, hPassing, rfl⟩ := Lifecycle.passing_of_reconcile hRun
  -- the update is the one of synchronization
  have hNotIdle : ¬Unchanging trace := by
    intro hIdle
    rw [hSplit] at hIdle
    have hNone := hIdle ⟨.directory c, answer⟩ (List.mem_append_right before List.mem_cons_self)
    rw [show c.updates? = none from hNone] at hUpdates
    cases hUpdates
  -- and it is the only one, so that the trace is split there in one way
  have hSole {first last : List (Exchange Pass.interface)} {y : Exchange Pass.interface}
      (hSame : trace = first ++ y :: last) (hNone : Unchanging (first ++ last)) :
      before = first ∧ (⟨.directory c, answer⟩ : Exchange Pass.interface) = y ∧ after = last := by
    refine split_eq_of_sole (P := fun z => z.call.updates?.isSome) (hSame.symm.trans hSplit)
      (fun z hMem => ?_) hUpdates
    rw [hNone z hMem]
    exact Bool.false_ne_true
  cases outline_of_passing hPassing with
  | calm hCalm => exact absurd ((sparing_of_quiet hCalm.quiet).unchanging) hNotIdle
  | deleting hReached hDeleting =>
    exact absurd (unchanging_append_iff.2 ⟨(sparing_of_quiet hReached.quiet).unchanging,
      hDeleting.unchanging⟩) hNotIdle
  | creating hReached _ hCreating =>
    exact absurd (unchanging_append_iff.2 ⟨(sparing_of_quiet hReached.quiet).unchanging,
      hCreating.unchanging⟩) hNotIdle
  | syncing hReached hRecorded hSyncing =>
    have hCalm := (sparing_of_quiet hReached.quiet).unchanging
    rcases hReached.updating hRecorded hSyncing with hIdle | hUpdated
    · exact absurd (unchanging_append_iff.2 ⟨hCalm, hIdle⟩) hNotIdle
    cases hUpdated with
    | accepted hBefore hGuarded hAfter =>
      have hNone := unchanging_append_iff.2 ⟨unchanging_append_iff.2 ⟨hCalm, hBefore⟩, hAfter⟩
      obtain ⟨rfl, hHere, rfl⟩ := hSole (List.append_assoc ..).symm hNone
      cases hHere
      exact ⟨hNone, hGuarded, nofun⟩
    | rejected hBefore hGuarded hQuiet hRewords =>
      have hAfter := (sparing_of_quiet hQuiet).unchanging
      have hNone := unchanging_append_iff.2 ⟨unchanging_append_iff.2 ⟨hCalm, hBefore⟩, hAfter⟩
      obtain ⟨rfl, hHere, rfl⟩ := hSole (List.append_assoc ..).symm hNone
      cases hHere
      exact ⟨hNone, hGuarded, fun _ _ =>
        ⟨⟨_, rfl⟩, hQuiet, fun δ C s t hPath => sameRecord_of_rewords hPath hRewords⟩⟩

/-! ## A group that somebody else has updated -/

namespace Auditors

/-- The call of a pass that updates a group with the token that it has read. -/
def lateUpdate : Call :=
  .updateGroup "group-1" (AccessGroups.request Statuses.describedSpec) ⟨"1"⟩

/-- The calls of a pass that reads the group, and whose update comes after that of somebody else. -/
def lateTrace : List (Exchange Pass.interface) :=
  [ ⟨.store (.get .accessGroup ⟨"team", "auditors"⟩), .ok (some Statuses.describedGroup)⟩,
    ⟨.openAccount "team", .ok ⟨"account"⟩⟩,
    ⟨.directory (.getGroup "group-1"), .ok ⟨⟨"group-1", "auditors", ownedDescription ""⟩, ⟨"1"⟩⟩⟩,
    ⟨.directory (.listMembers "group-1"), .ok [⟨"iam-1", .service⟩]⟩,
    ⟨.directory (.getServiceIdentity "ServiceId-1"), .ok ⟨"ServiceId-1", "iam-1"⟩⟩,
    ⟨.directory lateUpdate, .error Statuses.outdated⟩,
    ⟨.store (.updateStatus .accessGroup Statuses.failedGroup), .ok Statuses.failedGroup⟩ ]

/-- The pass whose update comes late. -/
lemma runs_late :
    (reconcile {} .accessGroup ⟨"team", "auditors"⟩).Runs (.free _) () lateTrace
      (.failure (.remote "update access group" Statuses.outdated)) () :=
  .answered _ <| .answered _ <| .answered _ <| .answered _ <| .answered _ <| .answered _ <|
  .answered _ <| .done _ _

end Auditors

/-- The update that comes late is guarded, and nothing but the status is written after it. -/
theorem guarded_of_late :
    Guarded .accessGroup ⟨"team", "auditors"⟩ Auditors.lateUpdate (Auditors.lateTrace.take 5) ∧
      (∀ y ∈ Auditors.lateTrace.drop 6, ¬y.call.isRemote) ∧
        ∀ (δ : Type) (C : Circumstances .accessGroup δ) (s t : Site .accessGroup δ),
          (C.surroundings ⟨"team", "auditors"⟩).Path s Auditors.lateTrace t →
          s.resource.SameRecord t.resource := by
  obtain ⟨-, hGuarded, hRejected⟩ :=
    guarded_of_run Auditors.runs_late (Auditors.lateTrace.take 5) Auditors.lateUpdate
      (.error Statuses.outdated) (Auditors.lateTrace.drop 6) rfl rfl
  exact ⟨hGuarded, (hRejected _ rfl).2⟩

end IamReconciler
