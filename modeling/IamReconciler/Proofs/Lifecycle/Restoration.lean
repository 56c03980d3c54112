import IamReconciler.Proofs.Lifecycle.Amendments
import IamReconciler.Proofs.Lifecycle.Statuses

/-!
# Custom roles that were renamed

The name and the service of a custom role cannot change once the role exists.  A pass over a
recorded role takes both from the spec that was applied last, before it calls anything remote, so
that an edit of them never reaches the service. This is what `restored_of_run` says, of a site in
which the writes of the pass succeed.

It says so of well-formed specs only.  A pass looks for broken rules before it sets anything back,
and it leaves a spec that breaks one as it is.  An edit that blanks the name is therefore not set
back (`blanked_not_restored`), although the name that was applied would mend the spec.
-/

namespace IamReconciler

open Directory (Call)

variable {δ : Type} {k : Kind} {settings : Settings} {key : Key} {scope : Scope}
  {h rest trace : List (Exchange Pass.interface)} {outcome : Outcome}

/-! ## The spec along a path -/

section

variable {C : Circumstances k δ} {s t u v : Site k δ} {r w : Resource k}
    {y : Exchange Pass.interface}

/-- An exchange that writes no metadata keeps the spec. -/
lemma spec_of_step (hStep : C.surroundings key y.call y.answer u v)
    (hStill : ¬y.call.writesMetadata) : v.resource.spec = u.resource.spec := by
  obtain ⟨c, answer⟩ := y
  cases c with
  | store c => cases hStep <;> first | rfl | exact absurd rfl hStill
  | openAccount => rw [hStep.1]
  | reference => rw [hStep.1]
  | directory => rw [resource_of_step hStep rfl]

/-- Reading the resource leaves the site as it is. -/
lemma site_of_get {answer : Except Error (Option (Resource k))}
    (hStep : C.surroundings key (.store (.get k key)) answer u v) : v = u := by
  cases hStep <;> rfl

/-- A path along which no metadata is written keeps the spec. -/
lemma spec_of_path (hPath : (C.surroundings key).Path s h t) (hLeaves : LeavesMetadata h) :
    t.resource.spec = s.resource.spec := by
  refine hPath.keeps (J := fun t => t.resource.spec = s.resource.spec)
    (fun y hMem u v hStep hSame => ?_) rfl
  exact (spec_of_step hStep (hLeaves y hMem)).trans hSame

/-- An exchange stores a status that it writes, or it keeps the one that is stored. -/
lemma status_of_step (hStep : C.surroundings key y.call y.answer u v) :
    v.resource.status = u.resource.status ∨
      ∃ (w : Resource k) (answer : Except Error (Resource k)),
        y = ⟨.store (.updateStatus k w), answer⟩ ∧ v.resource.status = w.status := by
  obtain ⟨c, answer⟩ := y
  cases c with
  | store c =>
    cases hStep with
    | stated w => exact .inr ⟨w, _, rfl, rfl⟩
    | statementUnnoticed w => exact .inr ⟨w, _, rfl, rfl⟩
    | found => exact .inl rfl
    | absent => exact .inl rfl
    | unread => exact .inl rfl
    | written => exact .inl rfl
    | writeRefused => exact .inl rfl
    | writeUnnoticed => exact .inl rfl
    | statementRefused => exact .inl rfl
  | openAccount => exact .inl (by rw [hStep.1])
  | reference => exact .inl (by rw [hStep.1])
  | directory => exact .inl (by rw [resource_of_step hStep rfl])

/-! ## Preparing -/

/-- What does not differ in what cannot change is set back to itself. -/
lemma Kind.withImmutableOf_eq_self {spec applied : k.Spec}
    (hSame : k.differsImmutably spec applied = false) : k.withImmutableOf spec applied = spec := by
  cases k with
  | customRole =>
    obtain ⟨hName, hService⟩ := Bool.or_eq_false_iff.1 hSame
    rw [decide_eq_false_iff_not, Decidable.not_not] at hName hService
    change { spec with roleName := applied.roleName, serviceClass := applied.serviceClass } = spec
    rw [← hName, ← hService]
  | accessGroup => rfl
  | accessPolicy => rfl
  | authorizationPolicy => rfl

/-- The spec of a recorded resource with what cannot change taken from what was applied. -/
def Resource.restoredSpec (r : Resource k) : k.Spec :=
  k.withImmutableOf r.spec r.statusOrBlank.applied

/-- A recorded resource that was restored is stored with the restored spec. -/
lemma spec_of_restore (hPath : (C.surroundings key).Path u h v) (hRecorded : u.resource.isRecorded)
    {restored : Resource k} (hRestore : Pass.Traces (Lifecycle.restore u.resource) h
      (.ok restored)) :
    v.resource = restored ∧ restored.spec = u.resource.restoredSpec ∧
      restored.status = u.resource.status := by
  rcases Lifecycle.traces_restore_iff.1 hRestore with ⟨hDrifted, rfl⟩ | ⟨hSame, rfl, hKept⟩
  · obtain ⟨_, hStep, hEnd⟩ := Surroundings.path_cons_iff.1 hPath
    obtain rfl := Surroundings.path_nil_iff.1 hEnd
    cases hStep with
    | written =>
      refine ⟨rfl, ?_, rfl⟩
      change u.resource.restoreImmutable.spec = _
      rw [Resource.restoreImmutable, if_pos hDrifted, Resource.restoredSpec]
  · obtain rfl := Surroundings.path_nil_iff.1 hPath
    cases hKept
    have hNot : k.differsImmutably v.resource.spec v.resource.statusOrBlank.applied = false := by
      have hNone := Bool.eq_false_iff.2 hSame
      rwa [Resource.immutableDrifted, hRecorded, Bool.true_and] at hNone
    exact ⟨rfl, (Kind.withImmutableOf_eq_self hNot).symm, rfl⟩

/-- A resource that was given the finalizer is stored with its spec and its status. -/
lemma spec_of_hold (hPath : (C.surroundings key).Path u h v) {held : Resource k}
    (hHold : Pass.Traces (Lifecycle.hold u.resource) h (.ok held)) :
    v.resource = held ∧ held.spec = u.resource.spec ∧ held.status = u.resource.status := by
  rcases Lifecycle.traces_hold_iff.1 hHold with ⟨-, rfl, hKept⟩ | ⟨-, rfl⟩
  · obtain rfl := Surroundings.path_nil_iff.1 hPath
    cases hKept
    exact ⟨rfl, rfl, rfl⟩
  · obtain ⟨_, hStep, hEnd⟩ := Surroundings.path_cons_iff.1 hPath
    obtain rfl := Surroundings.path_nil_iff.1 hEnd
    cases hStep with
    | written => exact ⟨rfl, rfl, rfl⟩

/-- A recorded resource for which a pass is prepared is stored with the restored spec and the same
status. -/
lemma spec_of_prepared (hPath : (C.surroundings key).Path u h v) (hRecorded : u.resource.isRecorded)
    {session : Session} {held : Resource k}
    (hPrepared : Lifecycle.Preparing key u.resource h session held) :
    v.resource = held ∧ held.spec = u.resource.restoredSpec ∧ held.status = u.resource.status := by
  obtain ⟨-, hRestore, hHold⟩ := hPrepared
  obtain ⟨site, hFirst, hRest⟩ := Surroundings.path_append_iff.1 hPath
  obtain ⟨opened, hOpen, hLast⟩ := Surroundings.path_cons_iff.1 hRest
  obtain ⟨rfl, -⟩ := hOpen
  obtain ⟨rfl, hSpec, hStatus⟩ := spec_of_restore hFirst hRecorded hRestore
  obtain ⟨hHeld, hSpec', hStatus'⟩ := spec_of_hold hLast hHold
  exact ⟨hHeld, hSpec'.trans hSpec, hStatus'.trans hStatus⟩

end

/-! ## The spec that was applied -/

/-- A status that is written restates an applied spec with a property. -/
def Restating (P : k.Spec → Prop) (y : Exchange Pass.interface) : Prop :=
  ∀ (w : Resource k) (answer : Except Error (Resource k)),
    y = ⟨.store (.updateStatus k w), answer⟩ → P w.statusOrBlank.applied

section

variable {P : k.Spec → Prop} {r w : Resource k}

/-- What states at most something about a resource restates what was restated, or the spec. -/
lemma restating_of_states (hStates : ∀ y ∈ h, StatesAtMost r y) (hOld : P r.statusOrBlank.applied)
    (hNew : P r.spec) : ∀ y ∈ h, Restating P y := by
  intro y hMem w answer hWrite
  cases hStates y hMem with
  | elsewhere hOther =>
    rw [hWrite] at hOther
    exact Bool.noConfusion hOther
  | moved =>
    cases hWrite
    exact hOld
  | forgotten =>
    cases hWrite
    rw [Resource.applied_forgetRemote]
    exact hOld
  | applied =>
    cases hWrite
    exact hNew

/-- Along a path on which the statuses restate such specs, the stored status does. -/
lemma applied_of_path {C : Circumstances k δ} {s t : Site k δ}
    (hPath : (C.surroundings key).Path s h t) (hRestating : ∀ y ∈ h, Restating P y)
    (hOld : P s.resource.statusOrBlank.applied) : P t.resource.statusOrBlank.applied := by
  refine hPath.keeps (J := fun t => P t.resource.statusOrBlank.applied)
    (fun y hMem u v hStep hu => ?_) hOld
  rcases status_of_step hStep with hSame | ⟨w, answer, hWrite, hStatus⟩
  · rwa [Resource.statusOrBlank, hSame]
  · rw [Resource.statusOrBlank, hStatus]
    exact hRestating y hMem w answer hWrite

end

/-! ## Passes over recorded resources -/

section

variable {C : Circumstances k δ} {u t : Site k δ} {x : Except Error Outcome}

/-- In a pass over a recorded resource whose spec is well formed, what cannot change is set back
before anything remote is called, and what follows starts from that. -/
lemma restored_of_living (hPath : (C.surroundings key).Path u rest t)
    (hRecorded : u.resource.isRecorded) (hValid : u.resource.validate = .ok ())
    (hWrites : ∀ y ∈ rest, ¬WriteFailed y)
    (hLiving : Lifecycle.Living settings key u.resource rest x) :
    ∃ (v : Site k δ) (first last : List (Exchange Pass.interface)),
      rest = first ++ last ∧ (∀ y ∈ first, ¬y.call.isRemote) ∧ (C.surroundings key).Path v last t ∧
        v.resource.spec = u.resource.restoredSpec ∧ v.resource.status = u.resource.status ∧
          ((∃ c, Lifecycle.Telling v.resource c last) ∨
            ∃ session, Lifecycle.Syncing settings ⟨session, key.ns⟩ v.resource last x) := by
  have hR : Reached u.resource [⟨.store (.get k key), .ok (some u.resource)⟩] :=
    reached_get key u.resource
  -- a write that fails would end the pass early, and the role is well formed and recorded
  cases hLiving with
  | refused hBroken =>
    rw [hValid] at hBroken
    cases hBroken
  | unrestored _ hRestore =>
    rcases Lifecycle.traces_restore_iff.1 hRestore with ⟨-, rfl⟩ | ⟨-, -, hKept⟩
    · exact absurd (.update _ _) (hWrites _ List.mem_cons_self)
    · cases hKept
  | @unopened first told restored e _ hRestore hTold =>
    obtain ⟨v, hFirst, hRest⟩ := Surroundings.path_append_iff.1 hPath
    obtain ⟨opened, hOpen, hLast⟩ := Surroundings.path_cons_iff.1 hRest
    obtain ⟨rfl, -⟩ := hOpen
    obtain ⟨hStored, hSpec, hStatus⟩ := spec_of_restore hFirst hRecorded hRestore
    have hOpened := ((hR.restore hRestore).2 _ rfl).opened key.ns (.error e)
    rw [List.append_assoc] at hOpened
    rw [← hStored] at hSpec hStatus hTold
    refine ⟨opened, first ++ [⟨.openAccount key.ns, .error e⟩], told, ?_, ?_, hLast, hSpec, hStatus,
      .inl ⟨_, hTold⟩⟩
    · rw [List.append_assoc, List.singleton_append]
    · exact (List.forall_mem_append.1 hOpened.quiet).2
  | unheld _ _ hHold =>
    rcases Lifecycle.traces_hold_iff.1 hHold with ⟨-, -, hKept⟩ | ⟨-, rfl⟩
    · cases hKept
    · exact absurd (.update _ _)
        (hWrites _ (List.mem_append_right _ (List.mem_cons_of_mem _ List.mem_cons_self)))
  | @synced first last session held _ hPrepared _ hSync =>
    obtain ⟨v, hFirst, hLast⟩ := Surroundings.path_append_iff.1 hPath
    obtain ⟨rfl, hSpec, hStatus⟩ := spec_of_prepared hFirst hRecorded hPrepared
    have hQuiet := (List.forall_mem_append.1 (hR.prepared hPrepared).quiet).2
    exact ⟨v, first, last, rfl, hQuiet, hLast, hSpec, hStatus, .inr ⟨session, hSync⟩⟩
  | created hPrepared hUnrecorded =>
    -- restoring the spec leaves the status, and the role was recorded there
    obtain ⟨v, hFirst, -⟩ := Surroundings.path_append_iff.1 hPath
    obtain ⟨-, -, hStatus⟩ := spec_of_prepared hFirst hRecorded hPrepared
    rw [Resource.isRecorded, Resource.statusOrBlank, hStatus] at hUnrecorded
    exact absurd hRecorded hUnrecorded

/-- A pass over a resource whose spec breaks a rule keeps the spec, calls nothing remote, and leaves
the resource failed. -/
lemma refused_of_living (hPath : (C.surroundings key).Path u rest t)
    (hBroken : u.resource.validate ≠ .ok ()) (hWrites : ∀ y ∈ rest, ¬WriteFailed y)
    (hLiving : Lifecycle.Living settings key u.resource rest x) :
    t.resource.spec = u.resource.spec ∧ t.resource.state = .failed ∧
      t.resource.statusOrBlank.applied = u.resource.statusOrBlank.applied ∧
      ∀ y ∈ rest, ¬y.call.isRemote := by
  have hR : Reached u.resource [⟨.store (.get k key), .ok (some u.resource)⟩] :=
    reached_get key u.resource
  cases hLiving with
  | refused _ hRefuse =>
    have hSpec :=
      spec_of_path hPath (leavesMetadata_of_states (Lifecycle.statesAtMost_of_refuse hRefuse))
    have hQuiet := (List.forall_mem_append.1 (hR.calm_refuse hRefuse).quiet).2
    -- the failure is written, or the role has failed before and nothing is written
    rcases Lifecycle.traces_refuse hRefuse with ⟨-, answer, rfl, -⟩ | ⟨hFailed, rfl, -⟩
    · obtain ⟨v, hStep, hEnd⟩ := Surroundings.path_cons_iff.1 hPath
      obtain rfl := Surroundings.path_nil_iff.1 hEnd
      cases answer with
      | error e' => exact absurd (.updateStatus _ e') (hWrites _ List.mem_cons_self)
      | ok stored =>
        cases hStep with
        | stated => exact ⟨hSpec, rfl, rfl, hQuiet⟩
    · obtain rfl := Surroundings.path_nil_iff.1 hPath
      exact ⟨hSpec, hFailed, rfl, hQuiet⟩
  | unrestored hValid => exact absurd hValid hBroken
  | unopened hValid => exact absurd hValid hBroken
  | unheld hValid => exact absurd hValid hBroken
  | synced hPrepared =>
    obtain ⟨hValid, -, -⟩ := hPrepared
    exact absurd hValid hBroken
  | created hPrepared =>
    obtain ⟨hValid, -, -⟩ := hPrepared
    exact absurd hValid hBroken

/-- A pass over a recorded resource that is not being deleted reads it, and goes on without greeting
it. -/
lemma living_of_passing (hFound : h.head? = some ⟨.store (.get k key), .ok (some r)⟩)
    (hRecorded : r.isRecorded) (hLiving : ¬r.metadata.isDeleting)
    (hPassing : Lifecycle.Passing settings k key h x) :
    ∃ rest, h = ⟨.store (.get k key), .ok (some r)⟩ :: rest ∧
      Lifecycle.Living settings key r rest x := by
  -- a recorded resource was seen before, so that it is not greeted
  have hSeen : ¬r.isUnset := by
    intro hUnset
    rw [Resource.isRecorded_iff] at hRecorded
    exact hRecorded (Resource.remoteId_of_isUnset hUnset)
  cases hPassing with
  | unread => cases hFound
  | absent => cases hFound
  | lost hDeleting =>
    cases hFound
    exact absurd hDeleting hLiving
  | ungreeted _ hGreet =>
    cases hFound
    rcases Lifecycle.traces_greet_iff.1 hGreet with ⟨hUnset, -⟩ | ⟨-, -, hKept⟩
    · exact absurd hUnset hSeen
    · cases hKept
  | dying hDeleting =>
    cases hFound
    exact absurd hDeleting hLiving
  | living _ hGreet hRest =>
    cases hFound
    rcases Lifecycle.traces_greet_iff.1 hGreet with ⟨hUnset, -⟩ | ⟨-, rfl, hKept⟩
    · exact absurd hUnset hSeen
    · cases hKept
      exact ⟨_, rfl, hRest⟩

end

/-! ## Calls about a role -/

/-- A spec has the name and the service that were applied to a role. -/
def NamedLike (r : Resource .customRole) (spec : Kind.customRole.Spec) : Prop :=
  spec.roleName = r.statusOrBlank.applied.roleName ∧
    spec.serviceClass = r.statusOrBlank.applied.serviceClass

/-- The calls of a pass over a recorded role: it is read, or it is updated in what can change. -/
inductive RoleCall (r : Resource .customRole) : Call → Prop where
  | read : RoleCall r (.getRole r.remoteId)
  | update (etag : Etag) :
      RoleCall r (.updateRole r.remoteId ⟨r.spec.displayName, ownedDescription r.spec.description,
        r.spec.actions⟩ etag)

/-- An exchange with the service is about the role. -/
def ConcernsRole (r : Resource .customRole) (y : Exchange Pass.interface) : Prop :=
  ∀ c, y.call = .directory c → RoleCall r c

section

variable {r : Resource .customRole}

/-- What calls no remote service concerns the role. -/
lemma concernsRole_of_quiet (hQuiet : ∀ y ∈ h, ¬y.call.isRemote) : ∀ y ∈ h, ConcernsRole r y := by
  intro y hMem c hCall
  have hNot := hQuiet y hMem
  rw [hCall] at hNot
  exact absurd rfl hNot

/-- Reading the role. -/
lemma concernsRole_of_fetch {x : Except Error (RemoteRole × Etag)}
    (hFetch : Pass.Traces (CustomRoles.fetch r.remoteId) h x) : ∀ y ∈ h, ConcernsRole r y := by
  obtain ⟨answer, rfl, -⟩ := Pass.traces_remote_iff.1 hFetch
  refine List.forall_mem_singleton.2 fun c hCall => ?_
  cases hCall
  exact .read

/-- Updating the role as its spec asks for. -/
lemma concernsRole_of_update {etag : Etag} {x : Except Error RemoteRef}
    (hUpdate :
      Pass.Traces (CustomRoles.update r.remoteId (CustomRoles.roleUpdate r.spec) etag) h x) :
    ∀ y ∈ h, ConcernsRole r y := by
  have hCalled (answer : Except RemoteError RemoteRole) :
      ConcernsRole r ⟨.directory (.updateRole r.remoteId (CustomRoles.roleUpdate r.spec) etag),
        answer⟩ := by
    intro c hCall
    cases hCall
    exact .update etag
  rcases Pass.traces_remote_bind_iff.1 hUpdate with ⟨e, rfl, -⟩ | ⟨role, last, hLast, rfl⟩
  · exact List.forall_mem_singleton.2 (hCalled (.error e))
  · obtain ⟨rfl, -⟩ := Pass.traces_pure_iff.1 hLast
    exact List.forall_mem_singleton.2 (hCalled (.ok role))

/-- Bringing a role in step concerns the role. -/
lemma Lifecycle.Syncing.concernsRole {x : Except Error Outcome}
    (hSyncing : Syncing settings scope r rest x) : ∀ y ∈ rest, ConcernsRole r y := by
  -- what is desired of a role is read off its spec, without a call
  have hResolved {second : List (Exchange Pass.interface)} {y : Except Error RoleUpdate}
      (hResolve : Pass.Traces (pure (CustomRoles.roleUpdate r.spec)) second y) :
      second = [] ∧ y = .ok (CustomRoles.roleUpdate r.spec) :=
    Pass.traces_pure_iff.1 hResolve
  have hWritten (w : Resource .customRole) (answer : Except Error (Resource .customRole)) :
      ∀ z ∈ [(⟨.store (.updateStatus .customRole w), answer⟩ : Exchange Pass.interface)],
      ConcernsRole r z :=
    concernsRole_of_quiet (List.forall_mem_singleton.2 Bool.false_ne_true)
  cases hSyncing with
  | forgotten hFetch answer =>
      exact List.forall_mem_append.2 ⟨concernsRole_of_fetch hFetch, hWritten _ answer⟩
  | unresolved _ hResolve _ =>
    obtain ⟨-, hError⟩ := hResolved hResolve
    cases hError
  | agreed hFetch hResolve =>
    obtain ⟨rfl, -⟩ := hResolved hResolve
    rw [List.append_nil]
    exact concernsRole_of_fetch hFetch
  | synchronized hFetch hResolve _ _ answer =>
    obtain ⟨rfl, -⟩ := hResolved hResolve
    exact List.forall_mem_append.2 ⟨concernsRole_of_fetch hFetch, hWritten _ answer⟩
  | unchanged hFetch hResolve _ hUpdate hTold =>
    obtain ⟨rfl, hDesired⟩ := hResolved hResolve
    cases hDesired
    rw [List.nil_append]
    refine List.forall_mem_append.2 ⟨concernsRole_of_fetch hFetch,
      List.forall_mem_append.2 ⟨?_, ?_⟩⟩
    · exact concernsRole_of_update hUpdate
    · exact concernsRole_of_quiet hTold.quiet
  | changed hFetch hResolve _ hUpdate answer =>
    obtain ⟨rfl, hDesired⟩ := hResolved hResolve
    cases hDesired
    rw [List.nil_append]
    refine List.forall_mem_append.2 ⟨concernsRole_of_fetch hFetch, List.forall_mem_append.2
      ⟨?_, hWritten _ answer⟩⟩
    exact concernsRole_of_update hUpdate

/-- A call about a role that was restored is one about the role as it was found. -/
lemma RoleCall.of_restored {w : Resource .customRole} (hSpec : w.spec = r.restoredSpec)
    (hStatus : w.status = r.status) {c : Call} (hCall : RoleCall w c) : RoleCall r c := by
  have hId :
    w.remoteId = r.remoteId := by rw [Resource.remoteId, Resource.statusOrBlank, hStatus]; rfl
  cases hCall with
  | read =>
    rw [hId]
    exact .read
  | update etag =>
    rw [hId, hSpec]
    exact .update etag

end

/-! ## The pass -/

/-- What a pass does to the name and the service of a recorded role that is not being deleted, in
all circumstances in which its writes succeed.  If the spec is well formed, then after the pass it
has the name and the service that were applied last, and is as it was found otherwise; a spec that
breaks a rule stays as it is, and the role has failed.  What was applied keeps its name and its
service, and the service is asked for nothing but the role under its identifier, or to change what
can change. -/
theorem restored_of_run {C : Circumstances .customRole δ} {s t : Site .customRole δ}
    (hRun : (reconcile settings .customRole key).Runs (C.surroundings key) s trace outcome t)
    (hFound : trace.head? = some ⟨.store (.get .customRole key), .ok (some s.resource)⟩)
    (hRecorded : s.resource.isRecorded) (hLiving : ¬s.resource.metadata.isDeleting)
    (hWrites : ∀ y ∈ trace, ¬WriteFailed y) :
    (s.resource.validate = .ok () →
        t.resource.spec =
          { s.resource.spec with
            roleName := s.resource.statusOrBlank.applied.roleName
            serviceClass := s.resource.statusOrBlank.applied.serviceClass }) ∧
      (s.resource.validate ≠ .ok () →
        t.resource.spec = s.resource.spec ∧ t.resource.state = .failed ∧
          ∀ y ∈ trace, ¬y.call.isRemote) ∧
      t.resource.statusOrBlank.applied.roleName = s.resource.statusOrBlank.applied.roleName ∧
      t.resource.statusOrBlank.applied.serviceClass =
        s.resource.statusOrBlank.applied.serviceClass ∧
      ∀ y ∈ trace, ConcernsRole s.resource y := by
  obtain ⟨hTrace, hWhole⟩ := Program.runs_iff.1 hRun
  obtain ⟨x, hPassing, -⟩ := Lifecycle.passing_of_reconcile hTrace
  obtain ⟨rest, rfl, hRest⟩ := living_of_passing hFound hRecorded hLiving hPassing
  obtain ⟨u, hStep, hPath⟩ := Surroundings.path_cons_iff.1 hWhole
  obtain rfl := site_of_get hStep
  have hLater := (List.forall_mem_cons.1 hWrites).2
  have hGet : ConcernsRole u.resource ⟨.store (.get .customRole key), .ok (some u.resource)⟩ :=
    nofun
  by_cases hValid : u.resource.validate = .ok ()
  · obtain ⟨v, first, last, rfl, hQuiet, hLast, hSpec, hStatus, hEnd⟩ :=
      restored_of_living hPath hRecorded hValid hLater hRest
    -- whatever a pass restates from here on, it is the old record or the restored spec
    have hOld : NamedLike u.resource v.resource.statusOrBlank.applied := by
      rw [Resource.statusOrBlank, hStatus]
      exact ⟨rfl, rfl⟩
    have hNew : NamedLike u.resource v.resource.spec := by
      rw [hSpec]
      exact ⟨rfl, rfl⟩
    have hFollows : (∀ y ∈ last, StatesAtMost v.resource y) ∧
        ∀ y ∈ last, ConcernsRole v.resource y := by
      rcases hEnd with ⟨c, hTold⟩ | ⟨session, hSync⟩
      · exact ⟨hTold.statesAtMost, concernsRole_of_quiet hTold.quiet⟩
      · exact ⟨hSync.statesAtMost, hSync.concernsRole⟩
    obtain ⟨hStates, hConcerns⟩ := hFollows
    have hKept := spec_of_path hLast (leavesMetadata_of_states hStates)
    obtain ⟨hName, hService⟩ := applied_of_path hLast (restating_of_states hStates hOld hNew) hOld
    refine ⟨fun _ => hKept.trans hSpec, fun hBroken => absurd hValid hBroken, hName, hService, ?_⟩
    refine List.forall_mem_cons.2
      ⟨hGet, List.forall_mem_append.2 ⟨concernsRole_of_quiet hQuiet, ?_⟩⟩
    exact fun y hMem c hCall => (hConcerns y hMem c hCall).of_restored hSpec hStatus
  · obtain ⟨hSpec, hFailed, hApplied, hQuiet⟩ := refused_of_living hPath hValid hLater hRest
    have hSilent : ∀ y ∈ ⟨.store (.get .customRole key), .ok (some u.resource)⟩ :: rest,
        ¬y.call.isRemote :=
      List.forall_mem_cons.2 ⟨Bool.false_ne_true, hQuiet⟩
    refine ⟨fun hWell => absurd hWell hValid, fun _ => ⟨hSpec, hFailed, hSilent⟩, ?_, ?_,
      concernsRole_of_quiet hSilent⟩
    · rw [hApplied]
    · rw [hApplied]

/-! ## Edited roles -/

namespace Restoration

/-- Circumstances in which the store does not fail, and everybody else may answer as he likes. -/
def permissive : Circumstances .customRole Unit where
  storeMayFail := False
  opens _ _ := True
  refers _ _ := True
  serves _ _ _ _ := True

/-- The recorded role with another name and another description. -/
def editedRole : Resource .customRole :=
  { Reader.recorded with
    spec := { Reader.recorded.spec with roleName := "Writer", description := "Reads" } }

/-- The edited role with its own name, after it was updated. -/
def updatedRole : Resource .customRole :=
  { Reader.recorded with
    spec := { Reader.recorded.spec with description := "Reads" }
    status := some ⟨.updated .customRole, ⟨"role-1", "crn:role-1"⟩,
      { Reader.recorded.spec with description := "Reads" }⟩ }

/-- The role as the service has it, with a description. -/
def remoteRole (description : String) : RemoteRole :=
  ⟨"role-1", "crn:role-1", "Reader", "storage", "Reader", ownedDescription description, ["read"]⟩

/-- The edited role with its own name, before it is updated. -/
def restoredRole : Resource .customRole :=
  { editedRole with spec := updatedRole.spec }

/-- The calls of the pass that sets the name back and updates the description. -/
def editedTrace : List (Exchange Pass.interface) :=
  [ ⟨.store (.get .customRole ⟨"team", "reader"⟩), .ok (some editedRole)⟩,
    ⟨.store (.update .customRole restoredRole), .ok restoredRole⟩,
    ⟨.openAccount "team", .ok ⟨"account"⟩⟩,
    ⟨.directory (.getRole "role-1"), .ok (remoteRole "", ⟨"1"⟩)⟩,
    ⟨.directory (.updateRole "role-1" ⟨"Reader", ownedDescription "Reads", ["read"]⟩ ⟨"1"⟩),
      .ok (remoteRole "Reads")⟩,
    ⟨.store (.updateStatus .customRole updatedRole), .ok updatedRole⟩ ]

/-- The site of a role. -/
def site (r : Resource .customRole) : Site .customRole Unit := ⟨r, true, ()⟩

/-- The pass that sets the name back. -/
lemma runs_edited :
    (reconcile {} .customRole ⟨"team", "reader"⟩).Runs (permissive.surroundings ⟨"team", "reader"⟩)
      (site editedRole) editedTrace (.requeue 150) (site updatedRole) :=
  .ask (t := site editedRole) (Site.StoreAnswers.found (s := site editedRole) rfl) <|
    .ask (t := site restoredRole)
      (Site.StoreAnswers.written (s := site editedRole) restoredRole rfl) <|
    .ask (t := site restoredRole) ⟨rfl, trivial⟩ <|
    .ask (t := site restoredRole) ⟨(), trivial, rfl⟩ <|
    .ask (t := site restoredRole) ⟨(), trivial, rfl⟩ <|
    .ask (t := site updatedRole)
      (Site.StoreAnswers.stated (s := site restoredRole) updatedRole rfl) <| .done _ _

/-- The writes of this pass succeed. -/
lemma writes_edited : ∀ y ∈ editedTrace, ¬WriteFailed y := by
  simp only [editedTrace, List.forall_mem_cons]
  exact ⟨nofun, nofun, nofun, nofun, nofun, nofun, List.forall_mem_nil _⟩

end Restoration

/-- The pass over the edited role sets the name back, and it sends the description alone. -/
theorem restored_of_edited :
    Restoration.updatedRole.spec =
        { Restoration.editedRole.spec with roleName := "Reader", serviceClass := "storage" } ∧
      ∀ y ∈ Restoration.editedTrace, ConcernsRole Restoration.editedRole y := by
  obtain ⟨hRestored, -, -, -, hConcerns⟩ :=
    restored_of_run Restoration.runs_edited rfl rfl Bool.false_ne_true Restoration.writes_edited
  exact ⟨hRestored rfl, hConcerns⟩

namespace Restoration

/-- The recorded role with its name blanked. -/
def blankedRole : Resource .customRole :=
  { Reader.recorded with spec := { Reader.recorded.spec with roleName := "" } }

/-- The role with the status that says so. -/
def refusedRole : Resource .customRole :=
  blankedRole.moveTo (.malformed (.validation "spec.roleName" "role name must be set"))

/-- The calls of the pass over the role with the blank name. -/
def blankedTrace : List (Exchange Pass.interface) :=
  [ ⟨.store (.get .customRole ⟨"team", "reader"⟩), .ok (some blankedRole)⟩,
    ⟨.store (.updateStatus .customRole refusedRole), .ok refusedRole⟩ ]

/-- The pass leaves the blank name. -/
lemma runs_blanked :
    (reconcile {} .customRole ⟨"team", "reader"⟩).Runs (permissive.surroundings ⟨"team", "reader"⟩)
      (site blankedRole) blankedTrace (.requeue 150) (site refusedRole) :=
  .ask (t := site blankedRole) (Site.StoreAnswers.found (s := site blankedRole) rfl) <|
    .ask (t := site refusedRole)
      (Site.StoreAnswers.stated (s := site blankedRole) refusedRole rfl) <| .done _ _

/-- The writes of this pass succeed. -/
lemma writes_blanked : ∀ y ∈ blankedTrace, ¬WriteFailed y := by
  simp only [blankedTrace, List.forall_mem_cons]
  exact ⟨nofun, nofun, List.forall_mem_nil _⟩

end Restoration

/-- Not every pass over a recorded role whose writes succeed sets back the name: a blank one
stays. -/
theorem blanked_not_restored :
    ¬∀ (C : Circumstances .customRole Unit) (settings : Settings) (key : Key)
      (s t : Site .customRole Unit) (trace : List (Exchange Pass.interface)) (outcome : Outcome),
      (reconcile settings .customRole key).Runs (C.surroundings key) s trace outcome t →
        trace.head? = some ⟨.store (.get .customRole key), .ok (some s.resource)⟩ →
        s.resource.isRecorded → ¬s.resource.metadata.isDeleting → (∀ y ∈ trace, ¬WriteFailed y) →
        t.resource.spec =
            { s.resource.spec with
              roleName := s.resource.statusOrBlank.applied.roleName
              serviceClass := s.resource.statusOrBlank.applied.serviceClass } ∧
          ∀ y ∈ trace, ConcernsRole s.resource y := by
  intro hClaim
  obtain ⟨hRestored, -⟩ :=
    hClaim _ _ _ _ _ _ _ Restoration.runs_blanked rfl rfl Bool.false_ne_true
      Restoration.writes_blanked
  have hName : "" = "Reader" := congrArg CustomRoleSpec.roleName hRestored
  exact absurd hName (by decide)

end IamReconciler
