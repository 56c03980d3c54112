import IamReconciler.Proofs.Lifecycle.Applied
import IamReconciler.Proofs.Strategy.Agreement

/-!
# Convergence

A pass over a well-formed resource that is not being deleted either ends with an error or leaves
nothing to do.  What it leaves is a settled site (`Settled`): the resource is online with its
finalizer, its status restates its spec, and the recorded entity agrees with the spec.  A pass over
a settled site only looks, and ends as the one before.

The way to a settled site depends on the status.  Without a recorded entity one is created and
recorded.  Otherwise the entity is read; then it is updated and recorded, or it is found in step,
which the status says if it did not before. The main statement is `looks_of_succeeded`.
-/

namespace IamReconciler

variable {nb : Neighbours} {k : Kind} {settings : Settings} {key : Key} {s : Site k Contents}

/-! ## Settled sites -/

/-- The resource of a site is stored with the finalizer, is not being deleted, and has a well-formed
spec. -/
structure Site.Ready {k : Kind} (s : Site k Contents) : Prop where
  stored : s.isStored
  living : s.isDeleting = false
  held : s.isHeld
  wellFormed : s.resource.validate = .ok ()

/-- Nothing is left to do: the resource is online, its status restates its spec, and the recorded
entity agrees. -/
structure Settled (nb : Neighbours) {k : Kind} (key : Key) (s : Site k Contents) : Prop where
  ready : s.Ready
  recorded : s.resource.isRecorded
  online : s.resource.state = .online
  undrifted : s.resource.specDrifted = false
  unaltered : s.resource.immutableDrifted = false
  agrees : Agrees nb k key (k.strategy.updateRequest ⟨nb.session, key.ns⟩ s.resource.spec)
    k.strategy.fetch k.strategy.differs s.resource.remoteId s.remote

/-- A spec does not differ from itself in what cannot change. -/
lemma Kind.differsImmutably_self (spec : k.Spec) : k.differsImmutably spec spec = false := by
  cases k with
  | customRole => simp [differsImmutably, CustomRoleSpec.differsImmutably]
  | accessGroup => rfl
  | accessPolicy => rfl
  | authorizationPolicy => rfl

/-- A site is settled when an entity that agrees with the spec was recorded, and that is online. -/
lemma Site.Ready.settled_recordApplied (h : s.Ready) {ref : RemoteRef}
    (hId : ref.id ≠ "") {c : Condition} (hOnline : c.state = .online) {d : Contents}
    (hAgrees : Agrees nb k key (k.strategy.updateRequest ⟨nb.session, key.ns⟩ s.resource.spec)
      k.strategy.fetch k.strategy.differs ref.id d) :
    Settled nb key (({ s with remote := d } : Site k Contents).stated
      ((s.resource.recordApplied ref).moveTo c)) where
  ready := ⟨h.stored, h.living, h.held, h.wellFormed⟩
  recorded := by
    refine Resource.isRecorded_iff.2 ?_
    change ((s.resource.recordApplied ref).moveTo c).remoteId ≠ ""
    rwa [Resource.remoteId_moveTo, Resource.remoteId_recordApplied]
  online := hOnline
  undrifted := by
    change (_ && k.differs s.resource.spec s.resource.spec) = false
    rw [Kind.differs_self, Bool.and_false]
  unaltered := by
    change (_ && k.differsImmutably s.resource.spec s.resource.spec) = false
    rw [Kind.differsImmutably_self, Bool.and_false]
  agrees := by
    change Agrees nb k key _ _ _ ((s.resource.recordApplied ref).moveTo c).remoteId d
    rwa [Resource.remoteId_moveTo, Resource.remoteId_recordApplied]

/-! ## A pass that only looks -/

namespace Neighbours

/-- The stored resource is looked up. -/
lemma looks_fetch {E : Error → Prop} (hStored : s.isStored) :
    Pass.Looks (nb.strictly k key) s (Pass.fetch k key) (· = some s.resource) E := by
  refine Pass.looks_call rfl ⟨.ok (some s.resource), .found hStored⟩ ?_
  rintro (e | found) t hAnswer
  · cases hAnswer with
    | unread _ hMay => exact hMay.elim
  · cases hAnswer with
    | found => exact ⟨rfl, rfl⟩
    | absent hGone => exact absurd (hStored.symm.trans hGone) Bool.noConfusion

/-- The account is opened. -/
lemma looks_openAccount {E : Error → Prop} (ns : String) :
    Pass.Looks (nb.strictly k key) s (Pass.openAccount ns) (· = nb.session) E := by
  refine Pass.looks_call rfl ⟨.ok nb.session, rfl, rfl⟩ ?_
  rintro (e | session) t ⟨rfl, hOpens⟩
  · exact hOpens.elim
  · exact ⟨rfl, hOpens⟩

end Neighbours

/-- A part that looks fails no step. -/
lemma Lifecycle.looks_orFail {σ α : Type} {S : Surroundings Pass.interface σ} {s : σ}
    {r : Resource k} {step : Step}
    {part : Pass α} {Q : α → Prop} {E : Error → Prop} (h : Pass.Looks S s part Q fun _ => False) :
    Pass.Looks S s (orFail r step part) Q E :=
  Pass.looks_bind_iff.2
    (Pass.looks_attempt_iff.2 (h.mono (fun _ hQ => hQ) fun _ hNever => hNever.elim))

namespace Settled

/-- The recorded entity is compared, and nothing is changed. -/
lemma looks_sync (h : Settled nb key s) :
    Pass.Looks (nb.strictly k key) s (Lifecycle.sync settings ⟨nb.session, key.ns⟩ s.resource)
      (· = .requeue settings.syncPeriod) fun _ => False := by
  obtain ⟨desired, hFound, hFetch⟩ := h.agrees
  refine Pass.looks_bind_iff.2
    (Pass.looks_attempt_iff.2 ((hFetch s rfl).mono ?_ fun _ hNever => hNever.elim))
  rintro ⟨remote, etag⟩ hSame
  refine (Lifecycle.looks_orFail (hFound s rfl)).bind ?_
  rintro desired rfl
  have hNeeded : ¬Lifecycle.needsUpdate s.resource desired remote := by
    rw [Lifecycle.needsUpdate, h.undrifted, Bool.false_or]
    exact Bool.eq_false_iff.1 hSame
  rw [if_neg hNeeded, if_neg (not_not_intro h.online)]
  exact Pass.looks_pure_iff.2 rfl

/-- The resource is neither restored nor given a finalizer. -/
lemma looks_passLiving (h : Settled nb key s) :
    Pass.Looks (nb.strictly k key) s (Lifecycle.passLiving settings key s.resource)
      (· = .requeue settings.syncPeriod) fun _ => False := by
  unfold Lifecycle.passLiving
  rw [h.ready.wellFormed]
  have hRestore : Lifecycle.restore s.resource = pure s.resource :=
    if_neg (Bool.eq_false_iff.1 h.unaltered)
  have hHold : Lifecycle.hold s.resource = pure s.resource := if_pos h.ready.held
  rw [hRestore, pure_bind]
  refine (Lifecycle.looks_orFail (Neighbours.looks_openAccount _)).bind ?_
  rintro _ rfl
  rw [hHold, pure_bind, if_pos h.recorded]
  exact h.looks_sync

/-- A pass over a settled site only looks, and another one is due after the usual time. -/
lemma looks_reconcile (h : Settled nb key s) :
    (reconcile settings k key).Looks (nb.strictly k key) (fun c => c.looks) s
      (· = .requeue settings.syncPeriod) := by
  have hGreet : Lifecycle.greet s.resource = pure s.resource := by
    refine if_neg fun hUnset => ?_
    have hBlank : s.resource.statusOrBlank = Status.blank k := of_decide_eq_true hUnset
    have hOnline := h.online
    rw [Resource.state, hBlank] at hOnline
    cases hOnline
  have hPass : Pass.Looks (nb.strictly k key) s (Lifecycle.pass settings k key)
    (· = .requeue settings.syncPeriod)
      fun _ => False := by
    refine (Neighbours.looks_fetch h.ready.stored).bind ?_
    rintro _ rfl
    have hLiving : ¬s.resource.metadata.isDeleting := Bool.eq_false_iff.1 h.ready.living
    dsimp only
    rw [if_neg hLiving, hGreet, pure_bind]
    exact h.looks_passLiving
  refine Program.looks_bind_iff.2 (Program.Looks.mono hPass ?_)
  rintro (e | outcome) hResult
  · exact hResult.elim
  · exact hResult

end Settled

/-! ## A pass that succeeds -/

/-- The pass has ended with an error, or another one is due after the usual time and the site is
settled. -/
def LeavesSettled (settings : Settings) (nb : Neighbours) {k : Kind} (key : Key) (outcome : Outcome)
    (s : Site k Contents) : Prop :=
  outcome.error = none → outcome = .requeue settings.syncPeriod ∧ Settled nb key s

/-- A pass with an error leaves anything. -/
lemma LeavesSettled.of_error {outcome : Outcome} {e : Error} (h : outcome.error = some e) :
    LeavesSettled settings nb key outcome s := by
  intro hSucceeded
  rw [h] at hSucceeded
  cases hSucceeded

namespace Convergence

variable {t u : Site k Contents} {h : List (Exchange Pass.interface)} {x : Except Error Outcome}

/-- An entity that is created and recorded is settled. -/
lemma leavesSettled_of_creating (hReady : s.Ready) (hPath : (nb.loosely k key).Path s h u)
    (hCreating : Lifecycle.Creating settings ⟨nb.session, key.ns⟩ s.resource h x) :
    LeavesSettled settings nb key (Lifecycle.outcomeOf x) u := by
  have hConverges : k.strategy.Converges nb key ⟨nb.session, key.ns⟩ s.resource.spec :=
    k.converges _
  cases hCreating with
  | unresolved => exact .of_error rfl
  | uncreated => exact .of_error rfl
  | recorded hResolve hCreate stored =>
    obtain ⟨t, hFirst, hRest⟩ := Surroundings.path_append_iff.1 hPath
    obtain ⟨v, hSecond, hWrite⟩ := Surroundings.path_concat_iff.1 hRest
    obtain ⟨d, rfl, hSettles⟩ := (hConverges.creates s).of_traces hResolve hFirst
    obtain ⟨hId, d', rfl, hAgrees⟩ := Pass.Ensures.of_traces hSettles hCreate hSecond
    rcases Circumstances.stated_or_left hWrite with rfl | ⟨-, e, hError⟩
    · exact fun _ => ⟨rfl, hReady.settled_recordApplied hId rfl hAgrees⟩
    · cases hError
  | unrecorded => exact .of_error rfl

/-- An entity that is updated and recorded, or found in step, is settled. -/
lemma leavesSettled_of_syncing (hReady : s.Ready) (hRecorded : s.resource.isRecorded)
    (hUnaltered : s.resource.immutableDrifted = false) (hPath : (nb.loosely k key).Path s h u)
    (hSyncing : Lifecycle.Syncing settings ⟨nb.session, key.ns⟩ s.resource h x) :
    LeavesSettled settings nb key (Lifecycle.outcomeOf x) u := by
  have hConverges : k.strategy.Converges nb key ⟨nb.session, key.ns⟩ s.resource.spec :=
    k.converges _
  have hSyncs := hConverges.syncs _ (Resource.isRecorded_iff.1 hRecorded) s
  cases hSyncing with
  | forgotten _ answer => cases answer <;> exact .of_error rfl
  | unresolved => exact .of_error rfl
  | agreed hFetch hResolve hAgrees hOnline =>
    obtain ⟨t, hFirst, hSecond⟩ := Surroundings.path_append_iff.1 hPath
    obtain ⟨rfl, hCompare⟩ := hSyncs.of_traces hFetch hFirst
    obtain ⟨⟨d, rfl⟩, hSame, -⟩ := Pass.Ensures.of_traces hCompare hResolve hSecond
    obtain ⟨hUndrifted, hEqual⟩ := Bool.or_eq_false_iff.1 (Bool.eq_false_iff.2 hAgrees)
    have hStill : Site.Ready ({ t with remote := d } : Site k Contents) :=
      ⟨hReady.stored, hReady.living, hReady.held, hReady.wellFormed⟩
    -- the resource was not written, so that what it restates is what it restated
    exact fun _ => ⟨rfl, hStill, hRecorded, hOnline, hUndrifted, hUnaltered, hSame hEqual⟩
  | synchronized hFetch hResolve hAgrees _ answer =>
    cases answer with
    | error => exact .of_error rfl
    | ok stored =>
      obtain ⟨t, hFirst, hRest⟩ := Surroundings.path_append_iff.1 hPath
      obtain ⟨v, hSecond, hWrite⟩ := Surroundings.path_concat_iff.1 hRest
      obtain ⟨rfl, hCompare⟩ := hSyncs.of_traces hFetch hFirst
      obtain ⟨⟨d, rfl⟩, hSame, -⟩ := Pass.Ensures.of_traces hCompare hResolve hSecond
      obtain ⟨hUndrifted, hEqual⟩ := Bool.or_eq_false_iff.1 (Bool.eq_false_iff.2 hAgrees)
      rcases Circumstances.stated_or_left hWrite with rfl | ⟨-, e, hError⟩
      · -- the status restates what it restated before
        have hStill : Site.Ready (({ t with remote := d } : Site k Contents).stated
            (t.resource.moveTo (.synchronized k))) :=
          ⟨hReady.stored, hReady.living, hReady.held, hReady.wellFormed⟩
        exact fun _ => ⟨rfl, hStill, hRecorded, rfl, hUndrifted, hUnaltered, hSame hEqual⟩
      · cases hError
  | unchanged => exact .of_error rfl
  | changed hFetch hResolve _ hUpdate answer =>
    cases answer with
    | error => exact .of_error rfl
    | ok stored =>
      obtain ⟨t, hFirst, hRest⟩ := Surroundings.path_append_iff.1 hPath
      obtain ⟨v, hSecond, hRest⟩ := Surroundings.path_append_iff.1 hRest
      obtain ⟨w, hThird, hWrite⟩ := Surroundings.path_concat_iff.1 hRest
      obtain ⟨rfl, hCompare⟩ := hSyncs.of_traces hFetch hFirst
      obtain ⟨⟨d, rfl⟩, -, hSettles⟩ := Pass.Ensures.of_traces hCompare hResolve hSecond
      -- the updated entity agrees with the spec, and goes by an identifier that can be recorded
      obtain ⟨hId, d', rfl, hAgrees⟩ := Pass.Ensures.of_traces hSettles hUpdate hThird
      rcases Circumstances.stated_or_left hWrite with rfl | ⟨-, e, hError⟩
      · exact fun _ => ⟨rfl, hReady.settled_recordApplied hId rfl hAgrees⟩
      · cases hError

/-- A pass that is prepared for a well-formed resource has it ready. -/
lemma ready_of_preparing {session : Session} {held : Resource k} (hStored : s.isStored)
    (hLiving : s.isDeleting = false) (hSound : s.resource.statusOrBlank.IsSound)
    (hPath : (nb.loosely k key).Path s h t)
    (hPrepared : Lifecycle.Preparing key s.resource h session held) :
    session = nb.session ∧ held = t.resource ∧ t.Ready ∧ t.resource.immutableDrifted = false := by
  obtain ⟨hValid, hRestore, hHold⟩ := hPrepared
  obtain ⟨u, hFirst, hRest⟩ := Surroundings.path_append_iff.1 hPath
  obtain rfl := stored_of_restore hFirst hRestore
  obtain ⟨_, ⟨rfl, hOpened⟩, hLast⟩ := Surroundings.path_cons_iff.1 hRest
  have hSteady :=
    steady_of_restore hStored (Bool.eq_false_iff.1 hLiving) hSound hValid hFirst hRestore
  obtain ⟨hSteady, hHeld⟩ := steady_of_hold hSteady hLast hHold
  refine ⟨hOpened, (stored_of_hold hLast hHold).symm, ?_, Bool.eq_false_iff.2 hSteady.unaltered⟩
  exact ⟨hSteady.stored, Bool.eq_false_iff.2 hSteady.living, hHeld, hSteady.wellFormed⟩

/-- A well-formed resource that is not being deleted is settled by a pass that succeeds. -/
lemma leavesSettled_of_living (hStored : s.isStored) (hLiving : s.isDeleting = false)
    (hSound : s.resource.statusOrBlank.IsSound) (hValid : s.resource.validate = .ok ())
    (hPath : (nb.loosely k key).Path s h u)
    (hLives : Lifecycle.Living settings key s.resource h x) :
    LeavesSettled settings nb key (Lifecycle.outcomeOf x) u := by
  cases hLives with
  | refused hBroken =>
    rw [hValid] at hBroken
    cases hBroken
  | unrestored => exact .of_error rfl
  | unopened => exact .of_error rfl
  | unheld => exact .of_error rfl
  | synced hPrepared hRecorded hSync =>
    obtain ⟨t, hFirst, hRest⟩ := Surroundings.path_append_iff.1 hPath
    obtain ⟨rfl, rfl, hReady, hUnaltered⟩ :=
      ready_of_preparing hStored hLiving hSound hFirst hPrepared
    exact leavesSettled_of_syncing hReady hRecorded hUnaltered hRest hSync
  | created hPrepared _ hCreate =>
    obtain ⟨t, hFirst, hRest⟩ := Surroundings.path_append_iff.1 hPath
    obtain ⟨rfl, rfl, hReady, -⟩ := ready_of_preparing hStored hLiving hSound hFirst hPrepared
    exact leavesSettled_of_creating hReady hRest hCreate

/-- A pass over a well-formed resource that is not being deleted ends with an error or settles
it. -/
lemma leavesSettled_of_passing (hStored : s.isStored) (hLiving : s.isDeleting = false)
    (hSound : s.resource.statusOrBlank.IsSound) (hValid : s.resource.validate = .ok ())
    (hPath : (nb.loosely k key).Path s h u) (hPassing : Lifecycle.Passing settings k key h x) :
    LeavesSettled settings nb key (Lifecycle.outcomeOf x) u := by
  cases hPassing.attending hPath hStored (Bool.eq_false_iff.1 hLiving) with
  | unread => exact .of_error rfl
  | ungreeted => exact .of_error rfl
  | living hGreet hLives =>
    obtain ⟨t, hGreeting, hLast⟩ := Surroundings.path_append_iff.1 (found_of_path hPath).2
    obtain rfl := stored_of_greet hGreeting hGreet
    rcases Lifecycle.traces_greet_iff.1 hGreet with ⟨-, rfl⟩ | ⟨-, rfl, -⟩
    · obtain ⟨_, hStep, hEnd⟩ := Surroundings.path_cons_iff.1 hGreeting
      obtain rfl := Surroundings.path_nil_iff.1 hEnd
      rcases Circumstances.stated_or_left hStep with rfl | ⟨-, e, hError⟩
      · -- the pending status restates what the older one restated
        exact leavesSettled_of_living
          (s := s.stated (s.resource.moveTo .processing)) hStored hLiving hSound hValid hLast hLives
      · cases hError
    · obtain rfl := Surroundings.path_nil_iff.1 hGreeting
      exact leavesSettled_of_living hStored hLiving hSound hValid hLast hLives

end Convergence

/-- A resource of any kind has a status that is absent or was left by earlier passes, over any specs
and in any circumstances; it is stored, well formed and not being deleted.  When a pass over it ends
without an error, whatever the remote service contains, then the next pass in the same surroundings
only looks: it makes no write of the store and no call that changes the remote service, it leaves
the site as it is, it ends without an error, and another one is due after the usual time.  There is
such a pass. -/
theorem looks_of_succeeded {δ : Type} {C : Circumstances k δ} {drifts : δ → δ → Prop}
    {earlier : Settings} {start past : Site k δ} {records : List (PassRecord k δ)}
    {t : Site k Contents} {trace : List (Exchange Pass.interface)} {outcome : Outcome}
    (hPast : Site.Run C drifts earlier key start records past)
    (hUnseen : start.resource.status = none) (hLeft : s.resource.status = past.resource.status)
    (hStored : s.isStored) (hLiving : s.isDeleting = false) (hValid : s.resource.validate = .ok ())
    (hPass : (reconcile settings k key).Runs ((nb.circumstances k True).surroundings key) s
      trace outcome t)
    (hSucceeded : outcome.error = none) :
    outcome = .requeue settings.syncPeriod ∧
      (∀ trace' outcome' u,
        (reconcile settings k key).Runs ((nb.circumstances k False).surroundings key) t trace'
            outcome' u →
          (∀ x ∈ trace', x.call.looks) ∧ u = t ∧ outcome' = .requeue settings.syncPeriod) ∧
      ∃ trace',
        (reconcile settings k key).Runs ((nb.circumstances k False).surroundings key) t trace'
          (.requeue settings.syncPeriod) t := by
  have hSound : s.resource.statusOrBlank.IsSound := by
    rw [Resource.statusOrBlank, hLeft]
    exact hPast.isSound hUnseen
  obtain ⟨hTrace, hPath⟩ := Program.runs_iff.1 hPass
  obtain ⟨x, hPassing, rfl⟩ := Lifecycle.passing_of_reconcile hTrace
  -- a pass that succeeds leaves a settled site, and over a settled site a pass only looks
  obtain ⟨hOutcome, hSettled⟩ :=
    Convergence.leavesSettled_of_passing hStored hLiving hSound hValid hPath hPassing hSucceeded
  have hLooks : (reconcile settings k key).Looks (nb.strictly k key) (fun c => c.looks) t
      (· = .requeue settings.syncPeriod) := hSettled.looks_reconcile
  refine ⟨hOutcome, fun trace' outcome' u hNext => ?_, ?_⟩
  · obtain ⟨hOutcome, hSame, hCalls⟩ := hLooks.of_run hNext
    exact ⟨hCalls, hSame, hOutcome⟩
  · obtain ⟨trace', outcome', hNext⟩ := hLooks.exists_run
    obtain ⟨rfl, -, -⟩ := hLooks.of_run hNext
    exact ⟨trace', hNext⟩

/-! ## A group with a user who was invited -/

namespace Convergence

/-- An access group that no pass has seen; its only member is named twice. -/
def unseenGroup : Resource .accessGroup where
  metadata := { name := some "developers", ns := some "team" }
  spec := ⟨"developers", "", ["dev@example.com", "dev@example.com"], []⟩
  status := none

/-- Neighbours who are not referred to. -/
def alone : Neighbours := ⟨⟨"account"⟩, fun _ _ => none, fun _ _ => none⟩

/-- The service before the first pass. -/
def nothing : Contents where
  group _ := none
  members _ := []
  policy _ := none
  role _ := none
  listed _ _ := []
  user _ _ := none
  registry := ⟨fun _ => none, [], fun _ => [], fun _ _ => []⟩

/-- The group that the service makes. -/
def groupMade : RemoteGroup := ⟨"group-1", "developers", ownedDescription ""⟩

/-- The user who was invited. -/
def userInvited : AccountUser := ⟨"user-1", "dev@example.com", "iam-1", "ACTIVE"⟩

/-- The service with the group. -/
def grouped : Contents :=
  { nothing with group := fun id => if id = "group-1" then some groupMade else none }

/-- The service with the group and the user. -/
def invited : Contents :=
  { grouped with
    user := fun account email => if (account, email) = ("account", "dev@example.com") then
    some userInvited else none }

/-- The service with the user in the group. -/
def populated : Contents :=
  { invited with members := fun id => if id = "group-1" then ["iam-1"] else [] }

/-- The site before the first pass. -/
def unseen : Site .accessGroup Contents := ⟨unseenGroup, true, nothing⟩

/-- The site after the group was written as pending and was given its finalizer. -/
def heldUnseen : Site .accessGroup Contents :=
  let pending := unseen.stated (unseenGroup.moveTo .processing)
  pending.written
    (pending.resource.withFinalizers
      (pending.resource.metadata.finalizerSet.add Kind.accessGroup.finalizer))

/-- The same site with other contents of the service. -/
def serving (d : Contents) : Site .accessGroup Contents := { heldUnseen with remote := d }

/-- The site after the first pass. -/
def created : Site .accessGroup Contents :=
  (serving populated).stated
    ((heldUnseen.resource.recordApplied ⟨"group-1", none⟩).moveTo (.created .accessGroup))

/-- A read that shows what the service contains. -/
lemma serves_shown {c : Directory.Call} {v : c.Value} {d : Contents} (hRead : c.isRead)
    (hShows : d.Shows c v) : alone.loosely .accessGroup ⟨"team", "developers"⟩ (.directory c)
      (.ok v) (serving d) (serving d) :=
  ⟨d, .shown hRead hShows, rfl⟩

/-- A change of what the service contains. -/
lemma serves_changed {c : Directory.Call} {v : c.Value} {d d' : Contents}
    (hChange : c.isRead = false) (hBecomes : d.Becomes d' c v) :
    alone.loosely .accessGroup ⟨"team", "developers"⟩ (.directory c) (.ok v)
      (serving d) (serving d') :=
  ⟨d', .changed hChange hBecomes, rfl⟩

/-- The service makes the group. -/
lemma becomes_grouped :
    nothing.Becomes grouped (.createGroup (AccessGroups.request unseenGroup.spec) "account")
      groupMade :=
  ⟨by decide, rfl, ⟨groupMade, rfl, rfl, rfl⟩, rfl⟩

/-- The service invites the user. -/
lemma becomes_invited : grouped.Becomes invited (.inviteUser "account" "dev@example.com") () :=
  ⟨rfl, fun _ _ hOther => if_neg hOther⟩

/-- The service adds the user to the group. -/
lemma becomes_populated :
    invited.Becomes populated (.addMembers "group-1" [⟨"iam-1", .user⟩, ⟨"iam-1", .user⟩]) () := by
  refine ⟨rfl, rfl, fun m => ?_⟩
  change m ∈ ["iam-1"] ↔ m ∈ [] ∨ m ∈ ["iam-1", "iam-1"]
  simp

/-- The first pass, which invites the user once and adds the same member twice. -/
lemma runs_created :
    ∃ trace, (reconcile {} .accessGroup ⟨"team", "developers"⟩).Runs
      (alone.loosely .accessGroup ⟨"team", "developers"⟩) unseen trace (.requeue 150) created := by
  have hOpened : (alone.circumstances .accessGroup True).opens "team" (.ok ⟨"account"⟩) := rfl
  have hUnknown : nothing.Shows (.findGroups "developers" "account") [] := trivial
  have hMissing : grouped.Shows (.findUser "account" "dev@example.com") none := rfl
  have hFound : invited.Shows (.findUser "account" "dev@example.com") (some userInvited) := rfl
  exact ⟨_, .ask (.found rfl) <| .ask (.stated _ rfl) <|
    .ask (Circumstances.surroundings_openAccount hOpened) <| .ask (.written _ rfl) <|
    .ask (serves_shown rfl hUnknown) <| .ask (serves_changed rfl becomes_grouped) <|
    .ask (serves_shown rfl hMissing) <| .ask (serves_changed rfl becomes_invited) <|
    .ask (serves_shown rfl hFound) <| .ask (serves_shown rfl hFound) <|
    .ask (serves_changed rfl becomes_populated) <| .ask (.stated _ rfl) <| .done _ _⟩

end Convergence

/-- The group with the user who was invited is created once, and the next pass leaves it as it
is. -/
theorem looks_of_created :
    ∃ trace,
      (reconcile {} .accessGroup ⟨"team", "developers"⟩).Runs
        (Convergence.alone.strictly .accessGroup ⟨"team", "developers"⟩) Convergence.created trace
          (.requeue 150) Convergence.created := by
  obtain ⟨_, hPass⟩ := Convergence.runs_created
  have hPast : Site.Run (Convergence.alone.circumstances .accessGroup True) (fun _ _ => False) {}
      ⟨"team", "developers"⟩ Convergence.unseen [] Convergence.unseen := .start _
  exact (looks_of_succeeded hPast rfl rfl rfl rfl rfl hPass rfl).2.2

end IamReconciler
