import IamReconciler.Proofs.Lifecycle.Records
import IamReconciler.Proofs.Lifecycle.Concurrency

/-!
# Detecting a change

A pass over a recorded resource reads the remote entity, resolves what the spec desires, and
compares the two.  It comes back again and again, so that until it finds a difference and updates
the entity it is to look only.

For three kinds it does: what their specs desire is resolved by look-ups.  An access policy that
names a user by email is the exception.  What it desires is resolved as for its creation, so that a
user whom the account does not have is invited, and one who cannot be used is removed, although
nothing is updated (`Intrusion`).  What a spec desires is resolved by look-ups but for these calls
(`Kind.discreet_of_updateRequest`), and a pass changes nothing else before an update
(`Lifecycle.Passing.detects`).  The main statement is `discreet_of_run`.
-/

namespace IamReconciler

open Directory (Call)

variable {k : Kind} {key : Key} {settings : Settings} {scope : Scope} {r : Resource k}
  {h rest : List (Exchange Pass.interface)} {y : Exchange Pass.interface}

/-! ## Calls that change something -/

/-- The call is one of the remote service that changes something: it does not only look something
up. -/
def Pass.Call.mutates : Pass.Call → Bool
  | .directory c => !c.isRead
  | _ => false

/-- A look-up changes nothing. -/
lemma Pass.Call.mutates_of_isRead {c : Pass.Call} (hRead : c.isRead) : ¬c.mutates := by
  cases c with
  | directory d =>
    have hRead : d.isRead = true := hRead
    simp [mutates, hRead]
  | store => exact Bool.false_ne_true
  | openAccount => exact Bool.false_ne_true
  | reference => exact Bool.false_ne_true

/-- A call of another party than the service changes nothing of it. -/
lemma Pass.Call.mutates_of_quiet {c : Pass.Call} (hQuiet : ¬c.isRemote) : ¬c.mutates := by
  cases c with
  | directory => exact absurd rfl hQuiet
  | store => exact Bool.false_ne_true
  | openAccount => exact Bool.false_ne_true
  | reference => exact Bool.false_ne_true

/-- Where no users are named, a spec is resolved without changing anything. -/
lemma MayResolve.not_mutates {kind : Directory.EntityKind} {accountId : String}
    (hMay : MayResolve kind accountId [] h y) : ¬y.call.mutates := by
  cases hMay with
  | referred => exact Bool.false_ne_true
  | @read c hRead hOther answer => exact Pass.Call.mutates_of_isRead (c := .directory c) hRead
  | invited hListed => exact absurd hListed List.not_mem_nil
  | removed hListed => exact absurd hListed List.not_mem_nil

/-- A call by which a spec that only has to be compared changes the account: an access policy names
a user, whom the account was seen not to have, or who was found and cannot be used. -/
inductive Intrusion : (k : Kind) → k.Spec → List (Exchange Pass.interface) →
    Exchange Pass.interface → Prop where
  | invited {spec : AccessPolicySpec} {before : List (Exchange Pass.interface)} {accountId : String}
      (hNamed : spec.subject.userEmail ≠ "")
      (hMissing : ⟨.directory (.findUser accountId spec.subject.userEmail), .ok none⟩ ∈ before)
      (answer : Except RemoteError Unit) :
      Intrusion .accessPolicy spec before
        ⟨.directory (.inviteUser accountId spec.subject.userEmail), answer⟩
  | removed {spec : AccessPolicySpec} {before : List (Exchange Pass.interface)} {accountId : String}
      {user : AccountUser} (hNamed : spec.subject.userEmail ≠ "")
      (hFound : ⟨.directory (.findUser accountId spec.subject.userEmail), .ok (some user)⟩ ∈ before)
      (hUnusable : ¬user.isUsable) (answer : Except RemoteError Unit) :
      Intrusion .accessPolicy spec before ⟨.directory (.removeUser accountId user.id), answer⟩

/-- An exchange changes nothing, unless it is an intrusion. -/
def Discreet (k : Kind) (spec : k.Spec) (before : List (Exchange Pass.interface))
    (y : Exchange Pass.interface) : Prop :=
  y.call.mutates → Intrusion k spec before y

/-- An exchange that changes nothing does so after any others. -/
lemma discreet_of_not_mutates {spec : k.Spec} (hOnly : ¬y.call.mutates) : Discreet k spec h y :=
  fun hMutates => absurd hMutates hOnly

/-- What is an intrusion after some exchanges is one after more. -/
lemma lasting_discreet (k : Kind) (spec : k.Spec) : Lasting (Discreet k spec) := by
  intro earlier before y hDiscreet hMutates
  cases hDiscreet hMutates with
  | invited hNamed hMissing answer =>
      exact .invited hNamed (List.mem_append_right earlier hMissing) answer
  | removed hNamed hFound hUnusable answer =>
    exact .removed hNamed (List.mem_append_right earlier hFound) hUnusable answer

/-! ## Resolving what is desired -/

/-- A part in which no users may be invited changes nothing. -/
lemma discreet_of_mayResolve {α : Type} {kind : Directory.EntityKind}
    {accountId : String} {spec : k.Spec}
    {p : Pass α} (hHeeds : Pass.Heeds (MayResolve kind accountId []) p) :
    Pass.Heeds (Discreet k spec) p :=
  hHeeds.imp fun _ _ hMay => discreet_of_not_mutates hMay.not_mutates

namespace Resolve

variable {spec : AccessPolicySpec} {accountId : String}

/-- Finding a user intrudes at most by an invitation. -/
lemma Seeking.discreet (hNamed : spec.subject.userEmail ≠ "")
    {x : Except Error (Option AccountUser)} (hSought : Seeking accountId spec.subject.userEmail h
      x) : InTurn (Discreet .accessPolicy spec) h :=
  hSought.inTurn_of (fun _ _ => discreet_of_not_mutates Bool.false_ne_true) fun answer _ =>
    .invited hNamed List.mem_cons_self answer

/-- Resolving a user intrudes at most by an invitation and by the removal of the user who was
found. -/
lemma discreet_of_invitedUser (hNamed : spec.subject.userEmail ≠ "") :
    Pass.Heeds (Discreet .accessPolicy spec) (invitedUser accountId spec.subject.userEmail) := by
  intro h x hTrace
  cases inviting_of_traces hTrace with
  | failed hSought => exact hSought.discreet hNamed
  | absent hSought => exact hSought.discreet hNamed
  | usable hSought _ => exact hSought.discreet hNamed
  | unusable hSought hUnusable answer =>
    exact inTurn_concat_iff.2 ⟨hSought.discreet hNamed, fun _ =>
      .removed hNamed hSought.mem hUnusable answer⟩

end Resolve

/-- The policy of a spec is resolved by look-ups, but for the intrusions. -/
lemma AccessPolicies.discreet_of_policy (scope : Scope) (spec : AccessPolicySpec) :
    Pass.Heeds (Discreet .accessPolicy spec) (policy scope spec) := by
  have hLasting := lasting_discreet .accessPolicy spec
  refine Pass.Heeds.bind hLasting ?_ fun subject =>
    (discreet_of_mayResolve (heeds_grantedRoles scope _ spec.roles)).bind hLasting fun roles =>
      Pass.heeds_pure _
  by_cases hNamed : spec.subject.userEmail = ""
  · exact discreet_of_mayResolve (heeds_subjectAttributes scope spec.subject fun hOther =>
      absurd hNamed hOther)
  · unfold subjectAttributes
    rw [if_pos (by simpa using hNamed)]
    exact (Resolve.discreet_of_invitedUser hNamed).bind hLasting fun _ => Pass.heeds_pure _

/-- What a spec desires is resolved by look-ups, but for the intrusions. -/
theorem Kind.discreet_of_updateRequest (k : Kind) (scope : Scope) (spec : k.Spec) :
    Pass.Heeds (Discreet k spec) (k.strategy.updateRequest scope spec) := by
  cases k with
  | accessGroup =>
    refine Pass.Heeds.bind (lasting_discreet .accessGroup spec) ?_ fun _ => Pass.heeds_pure _
    exact discreet_of_mayResolve (AccessGroups.heeds_members .existing scope.accountId nofun)
  | accessPolicy => exact AccessPolicies.discreet_of_policy scope spec
  | authorizationPolicy =>
      exact discreet_of_mayResolve (AuthorizationPolicies.heeds_policy scope spec)
  | customRole => exact Pass.heeds_pure _

/-! ## Passes -/

/-- What may change something although no entity is updated: the store has returned a resource that
records none, or it is an intrusion by the resource that the store has returned last. -/
inductive MayIntrude (k : Kind) (before : List (Exchange Pass.interface))
    (y : Exchange Pass.interface) : Prop where
  | unrecorded {z : Exchange Pass.interface} {w : Resource k} (hMem : z ∈ before)
      (hReturns : Returns w z) (hUnrecorded : ¬w.isRecorded) : MayIntrude k before y
  | intruding {held : Resource k} (hLast : LastWord (Returns held) before)
      (hIntrusion : Intrusion k held.spec before y) : MayIntrude k before y

/-- An exchange changes something only when an entity is being updated, or as it may otherwise. -/
def Detects (k : Kind) (before : List (Exchange Pass.interface)) (y : Exchange Pass.interface) :
    Prop :=
  y.call.mutates → (∃ u ∈ before ++ [y], u.call.updates? ≠ none) ∨ MayIntrude k before y

/-- Parts that change nothing of the service detect at most. -/
lemma detects_of_not_mutates (hOnly : ∀ y ∈ rest, ¬y.call.mutates) :
    InTurn (fun before y => Detects k (h ++ before) y) rest :=
  (inTurn_of_forall hOnly).imp fun _ _ hNot hMutates => absurd hMutates hNot

/-- A calm part of a pass changes nothing of the service. -/
lemma Calm.detects (hCalm : Calm k h) : InTurn (Detects k) h :=
  detects_of_not_mutates (h := []) fun y hMem => Pass.Call.mutates_of_quiet (hCalm.quiet y hMem)

/-- What a resource desires is resolved by look-ups, but for the intrusions, when the store has
returned it last. -/
lemma detects_of_resolved (hLast : LastWord (Returns r) h) {x : Except Error k.UpdateRequest}
    (hResolve : Pass.Traces (k.strategy.updateRequest scope r.spec) rest x) :
    InTurn (fun before y => Detects k (h ++ before) y) rest := by
  rintro before y after rfl hMutates
  have hDiscreet := k.discreet_of_updateRequest scope r.spec _ x hResolve before y after rfl
  have hStore : ∀ z ∈ before, z.call.isStore = false := fun z hMem =>
    isStore_of_updateRequest hResolve z (List.mem_append_left _ hMem)
  exact .inr
    (.intruding (hLast.append hStore) (lasting_discreet k r.spec h before y hDiscreet hMutates))

/-- Nothing is detected any more once an entity is being updated. -/
lemma detects_of_update {u : Exchange Pass.interface} (hUpdates : u.call.updates? ≠ none)
    (hMem : u ∈ h ++ [y]) : Detects k h y :=
  fun _ => .inl ⟨u, hMem, hUpdates⟩

/-- Updating an entity starts with the update. -/
lemma Updating.detects {spec : k.Spec} {id : String} {etag : Etag} {x : Except Error RemoteRef}
    (hUpdating : Updating k scope spec id etag rest x) :
    InTurn (fun before y => Detects k (h ++ before) y) rest := by
  have hUpdate {c : Call} {answer : c.Answer} (hUpdates : c.updates? = some (k.entity id)) :
      Pass.Call.updates? (Exchange.call (I := Pass.interface) ⟨.directory c, answer⟩) ≠ none := by
    rw [Pass.Call.updates?, hUpdates]
    exact Option.some_ne_none _
  cases hUpdating with
  | refused hUpdates =>
    exact inTurn_singleton_iff.2 (detects_of_update (hUpdate hUpdates) List.mem_concat_self)
  | accepted hUpdates =>
    refine inTurn_cons_iff.2 ⟨detects_of_update (hUpdate hUpdates) List.mem_concat_self,
      fun before y after _ => ?_⟩
    exact detects_of_update (hUpdate hUpdates)
      (List.mem_append_left _ (List.mem_append_right _ List.mem_cons_self))

/-- Telling a condition changes nothing of the service. -/
lemma detects_of_telling {c : Condition} (hTold : Lifecycle.Telling r c rest) :
    InTurn (fun before y => Detects k (h ++ before) y) rest :=
  detects_of_not_mutates fun y hMem => Pass.Call.mutates_of_quiet (hTold.quiet y hMem)

/-- A write of the status changes nothing of the service. -/
lemma detects_of_state (w : Resource k) (answer : Except Error (Resource k)) :
    InTurn (fun before y => Detects k (h ++ before) y) [⟨.store (.updateStatus k w), answer⟩] :=
  detects_of_not_mutates (List.forall_mem_singleton.2 Bool.false_ne_true)

/-- Reading an entity changes nothing. -/
lemma detects_of_fetch {id : String} {x : Except Error (k.Remote × Etag)}
    (hFetch : Pass.Traces (k.strategy.fetch id) rest x) :
    InTurn (fun before y => Detects k (h ++ before) y) rest :=
  detects_of_not_mutates fun y hMem => Pass.Call.mutates_of_isRead (isRead_of_fetch hFetch y hMem)

/-- One part after another detects at most when both do. -/
lemma detects_append_iff {more : List (Exchange Pass.interface)} :
    InTurn (fun before y => Detects k (h ++ before) y) (rest ++ more) ↔
      InTurn (fun before y => Detects k (h ++ before) y) rest ∧
        InTurn (fun before y => Detects k ((h ++ rest) ++ before) y) more := by
  rw [inTurn_append_iff]
  simp only [List.append_assoc]

/-- Bringing an entity in step detects at most, until it updates the entity. -/
lemma Reached.detects_of_syncing (hR : Reached r h) {x : Except Error Outcome}
    (hSyncing : Lifecycle.Syncing settings scope r rest x) :
    InTurn (fun before y => Detects k (h ++ before) y) rest := by
  have hLast {first : List (Exchange Pass.interface)} {found : Except Error (k.Remote × Etag)}
      (hFetch : Pass.Traces (k.strategy.fetch r.remoteId) first found) :
      LastWord (Returns r) (h ++ first) :=
    hR.last.append (isStore_of_fetch hFetch)
  cases hSyncing with
  | forgotten hFetch answer =>
    exact detects_append_iff.2 ⟨detects_of_fetch hFetch, detects_of_state _ answer⟩
  | unresolved hFetch hResolve hTold =>
    refine detects_append_iff.2 ⟨detects_of_fetch hFetch, detects_append_iff.2
      ⟨?_, detects_of_telling hTold⟩⟩
    exact detects_of_resolved (hLast hFetch) hResolve
  | agreed hFetch hResolve =>
    exact detects_append_iff.2 ⟨detects_of_fetch hFetch, detects_of_resolved
      (hLast hFetch) hResolve⟩
  | synchronized hFetch hResolve _ _ answer =>
    refine detects_append_iff.2 ⟨detects_of_fetch hFetch, detects_append_iff.2
      ⟨?_, detects_of_state _ answer⟩⟩
    exact detects_of_resolved (hLast hFetch) hResolve
  | unchanged hFetch hResolve _ hUpdate hTold =>
    refine detects_append_iff.2 ⟨detects_of_fetch hFetch, detects_append_iff.2
      ⟨?_, detects_append_iff.2 ⟨?_, ?_⟩⟩⟩
    · exact detects_of_resolved (hLast hFetch) hResolve
    · exact (Kind.updating_of_traces hUpdate).detects
    · exact detects_of_telling hTold
  | changed hFetch hResolve _ hUpdate answer =>
    refine detects_append_iff.2 ⟨detects_of_fetch hFetch, detects_append_iff.2
      ⟨?_, detects_append_iff.2 ⟨?_, ?_⟩⟩⟩
    · exact detects_of_resolved (hLast hFetch) hResolve
    · exact (Kind.updating_of_traces hUpdate).detects
    · exact detects_of_state _ answer

/-- Nothing is detected when the resource that the store has returned records no entity. -/
lemma Reached.detects_of_unrecorded (hR : Reached r h) (hUnrecorded : ¬r.isRecorded)
    (rest : List (Exchange Pass.interface)) :
    InTurn (fun before y => Detects k (h ++ before) y) rest := by
  obtain ⟨earlier, z, since, rfl, -, hReturns, -⟩ := hR.last
  intro before y after _ _
  have hMem : z ∈ earlier ++ z :: since := List.mem_append_right _ List.mem_cons_self
  exact .inr (.unrecorded (List.mem_append_left before hMem) hReturns hUnrecorded)

/-- A pass over a resource that is not being deleted detects at most, until it updates the
entity. -/
lemma Reached.detects_of_living (hR : Reached r h) {x : Except Error Outcome}
    (hLiving : Lifecycle.Living settings key r rest x) : InTurn (Detects k) (h ++ rest) := by
  rcases hR.living hLiving with
    ⟨hCalm, -⟩ | ⟨first, last, session, held, rfl, hHeld, ⟨-, hSync⟩ | ⟨hUnrecorded, -⟩⟩
  · exact hCalm.detects
  · rw [← List.append_assoc]
    exact inTurn_append_iff.2 ⟨hHeld.toCalm.detects, hHeld.detects_of_syncing hSync⟩
  · rw [← List.append_assoc]
    exact inTurn_append_iff.2 ⟨hHeld.toCalm.detects, hHeld.detects_of_unrecorded hUnrecorded _⟩

/-- The spec names a user whom resolving it may invite to the account or remove from it. -/
def Kind.namesUser : (k : Kind) → k.Spec → Prop
  | .accessPolicy, spec => spec.subject.userEmail ≠ ""
  | .accessGroup, _ => False
  | .authorizationPolicy, _ => False
  | .customRole, _ => False

/-- Only a spec that names a user intrudes. -/
lemma Intrusion.namesUser {spec : k.Spec} (hIntrusion : Intrusion k spec h y) :
    k.namesUser spec := by
  cases hIntrusion with
  | invited hNamed => exact hNamed
  | removed hNamed => exact hNamed

/-- A pass over a resource that is not being deleted detects at most, until it updates the
entity. -/
theorem Lifecycle.Passing.detects {x : Except Error Outcome}
    (hPassing : Passing settings k key (⟨.store (.get k key), .ok (some r)⟩ :: rest) x)
    (hLiving : ¬r.metadata.isDeleting) :
    InTurn (Detects k) (⟨.store (.get k key), .ok (some r)⟩ :: rest) := by
  cases hPassing with
  | lost => exact (reached_get key r).toCalm.detects
  | ungreeted _ hGreet => exact ((reached_get key r).greet hGreet).1.detects
  | dying hDeleting => exact absurd hDeleting hLiving
  | living _ hGreet hRest =>
    rw [← List.cons_append]
    exact (((reached_get key r).greet hGreet).2 _ rfl).detects_of_living hRest

/-- Whatever is answered to a pass over a resource that is not being deleted, if it updates no
entity it changes nothing of the service but by an intrusion, unless the store returns a resource
that records no entity.  So it only looks when all resources that the store returns record an entity
and none names a user. -/
theorem discreet_of_run {rest : List (Exchange Pass.interface)} {outcome : Outcome}
    (hRun : (reconcile settings k key).Runs (.free _) ()
      (⟨.store (.get k key), .ok (some r)⟩ :: rest) outcome ())
    (hLiving : ¬r.metadata.isDeleting) (hUnchanged : ∀ y ∈ rest, y.call.updates? = none) :
    InTurn (fun before y => y.call.mutates → MayIntrude k before y)
        (⟨.store (.get k key), .ok (some r)⟩ :: rest) ∧
      ((∀ z ∈ ⟨.store (.get k key), .ok (some r)⟩ :: rest, ∀ w : Resource k, Returns w z →
          w.isRecorded ∧ ¬k.namesUser w.spec) →
        ∀ y ∈ rest, ¬y.call.mutates) := by
  obtain ⟨x, hPassing, -⟩ := Lifecycle.passing_of_reconcile (Program.runs_iff.1 hRun).1
  have hDetects := hPassing.detects hLiving
  have hOnly : ∀ u ∈ ⟨.store (.get k key), .ok (some r)⟩ :: rest, ¬u.call.updates? ≠ none :=
    List.forall_mem_cons.2 ⟨Decidable.not_not.2 rfl, fun u hMem =>
      Decidable.not_not.2 (hUnchanged u hMem)⟩
  -- what changes anything intrudes, unless it belongs to an update, and there is none
  have hTurn : InTurn (fun before y => y.call.mutates → MayIntrude k before y)
      (⟨.store (.get k key), .ok (some r)⟩ :: rest) := by
    intro before y after hSplit hMutates
    refine (hDetects before y after hSplit hMutates).resolve_left ?_
    rintro ⟨u, hMem, hUpdates⟩
    refine hOnly u ?_ hUpdates
    rw [hSplit, ← List.singleton_append, ← List.append_assoc]
    exact List.mem_append_left _ hMem
  refine ⟨hTurn, fun hReturned y hMem hMutates => ?_⟩
  obtain ⟨before, after, hSplit⟩ := List.append_of_mem (List.mem_cons_of_mem _ hMem)
  have hBefore : ∀ z ∈ before, z ∈ ⟨.store (.get k key), .ok (some r)⟩ :: rest := fun z hz => by
    rw [hSplit]
    exact List.mem_append_left _ hz
  cases hTurn before y after hSplit hMutates with
  | unrecorded hz hReturns hUnrecorded =>
      exact hUnrecorded (hReturned _ (hBefore _ hz) _ hReturns).1
  | intruding hLast hIntrusion =>
    obtain ⟨earlier, z, since, rfl, -, hReturns, -⟩ := hLast
    have hz : z ∈ earlier ++ z :: since := List.mem_append_right earlier List.mem_cons_self
    exact (hReturned z (hBefore z hz) _ hReturns).2 hIntrusion.namesUser

namespace Detection

/-- A recorded policy for a user, which was in step when a pass saw it last. -/
def settledPolicy : Resource .accessPolicy :=
  let spec : AccessPolicySpec :=
    ⟨⟨"dev@example.com", "", "", none⟩, ⟨["Viewer"], [], []⟩,
      { PolicyTarget.blank with serviceClass := "cos" }⟩
  { metadata :=
      { name := some "p", ns := some "team", finalizers := some [Kind.accessPolicy.finalizer] }
    spec := spec
    status := some ⟨.synchronized .accessPolicy, ⟨"policy-1"⟩, spec⟩ }

/-- The policy as the service has it. -/
def remotePolicy : Policy :=
  ⟨.access, [Attributes.empty.set Attributes.iamId "iam-1"], [⟨"r1", "Viewer"⟩],
    [AccessPolicies.targetAttributes settledPolicy.spec.target "account"]⟩

/-- The exchange that reads the policy. -/
def readPolicy : Exchange Pass.interface :=
  ⟨.store (.get .accessPolicy ⟨"team", "p"⟩), .ok (some settledPolicy)⟩

/-- The exchange that invites the user. -/
def invitation : Exchange Pass.interface :=
  ⟨.directory (.inviteUser "account" "dev@example.com"), .ok ()⟩

/-- The calls of a pass over the policy after the user has left the account. -/
def departedRest : List (Exchange Pass.interface) :=
  [ ⟨.openAccount "team", .ok ⟨"account"⟩⟩,
    ⟨.directory (.getPolicy "policy-1"), .ok (⟨"policy-1", remotePolicy⟩, ⟨"1"⟩)⟩,
    ⟨.directory (.findUser "account" "dev@example.com"), .ok none⟩,
    invitation,
    ⟨.directory (.findUser "account" "dev@example.com"),
      .ok (some ⟨"user-1", "dev@example.com", "iam-1", "ACTIVE"⟩)⟩,
    ⟨.directory (.serviceRoles "cos"), .ok [⟨"r1", "Viewer"⟩]⟩ ]

/-- The pass that finds the policy in step and invites the user. -/
lemma runs_departed :
    (reconcile {} .accessPolicy ⟨"team", "p"⟩).Runs (.free _) () (readPolicy :: departedRest)
      (.requeue 150) () :=
  .answered _ <| .answered _ <| .answered _ <| .answered _ <| .answered _ <| .answered _ <|
  .answered _ <| .done _ _

/-- Nothing is updated in this pass. -/
lemma unchanging_departed : ∀ y ∈ departedRest, y.call.updates? = none := by
  simp only [departedRest, List.forall_mem_cons]
  exact ⟨rfl, rfl, rfl, rfl, rfl, rfl, List.forall_mem_nil _⟩

/-- The policy is all that the store returns in this pass. -/
lemma eq_of_returns {z : Exchange Pass.interface} {w : Resource .accessPolicy}
    (hMem : z ∈ readPolicy :: departedRest) (hReturns : Returns w z) : w = settledPolicy := by
  rcases List.mem_cons.1 hMem with rfl | hRest
  · cases hReturns with
    | get => rfl
  · have hQuiet : ∀ y ∈ departedRest, y.call.isStore = false := by
      simp only [departedRest, List.forall_mem_cons]
      exact ⟨rfl, rfl, rfl, rfl, rfl, rfl, List.forall_mem_nil _⟩
    have hOther := hQuiet z hRest
    cases hReturns <;> exact absurd hOther Bool.noConfusion

end Detection

open Detection in
/-- The invitation is the one change that the pass makes: an intrusion by the policy that was
read. -/
theorem discreet_of_departed :
    ¬settledPolicy.metadata.isDeleting ∧ (∀ y ∈ departedRest, y.call.updates? = none) ∧
      Intrusion .accessPolicy settledPolicy.spec (readPolicy :: departedRest.take 3)
        invitation := by
  have hLiving : ¬settledPolicy.metadata.isDeleting := Bool.false_ne_true
  have hTurn := (discreet_of_run runs_departed hLiving unchanging_departed).1
  have hBefore : ∀ z ∈ readPolicy :: departedRest.take 3, z ∈ readPolicy :: departedRest :=
    List.cons_subset_cons _ (List.take_subset 3 departedRest)
  refine ⟨hLiving, unchanging_departed, ?_⟩
  cases hTurn (readPolicy :: departedRest.take 3) invitation (departedRest.drop 4) rfl rfl with
  | unrecorded hMem hReturns hUnrecorded =>
    rw [eq_of_returns (hBefore _ hMem) hReturns] at hUnrecorded
    exact absurd rfl hUnrecorded
  | intruding hLast hIntrusion =>
    obtain ⟨earlier, z, since, hSplit, -, hReturns, -⟩ := hLast
    have hMem : z ∈ readPolicy :: departedRest.take 3 := by
      rw [hSplit]
      exact List.mem_append_right earlier List.mem_cons_self
    rwa [eq_of_returns (hBefore z hMem) hReturns] at hIntrusion

open Detection in
/-- Not every pass over a recorded resource that updates nothing only looks: one invites a user. -/
theorem intrudes_without_update :
    ¬∀ (k : Kind) (settings : Settings) (key : Key) (r : Resource k)
      (rest : List (Exchange Pass.interface)) (outcome : Outcome),
      (reconcile settings k key).Runs (.free _) ()
          (⟨.store (.get k key), .ok (some r)⟩ :: rest) outcome () →
        ¬r.metadata.isDeleting → r.isRecorded → (∀ y ∈ rest, y.call.updates? = none) →
          ∀ y ∈ rest, ¬y.call.mutates := by
  intro hClaim
  have hNone := hClaim _ _ _ _ _ _ runs_departed Bool.false_ne_true rfl unchanging_departed
  have hMem : invitation ∈ departedRest := List.mem_of_getElem? (i := 3) rfl
  exact hNone invitation hMem rfl

end IamReconciler
