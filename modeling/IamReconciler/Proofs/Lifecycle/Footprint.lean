import IamReconciler.Proofs.Lifecycle.Ordering
import IamReconciler.Proofs.Lifecycle.Records

/-!
# What a pass touches

A remote service keeps entities and users that an operator has nothing to do with.  A pass must
leave them alone, also where it creates what it cannot finish, takes back what it cannot record, or
loses an answer.  Its calls are therefore bounded by what it knows: an entity is updated, deleted or
given other members only if the pass owns it, which is to say that the resource that the store has
returned last records it or that the pass itself has created it; a group or a role is created only
if a look-up has shown no rival; users are invited by emails of the spec; and a user is removed only
when such an email has led to a record that cannot be used.

These bounds are one rule about each exchange and those before it (`MayTouch`).  Each course of a
pass is walked with the resource that the pass works on (`Bounded`), and the main statement is
`mayTouch_of_run`.
-/

namespace IamReconciler

open Directory (Call Entity)

variable {k : Kind} {key : Key} {settings : Settings} {scope : Scope} {r : Resource k}
  {h rest : List (Exchange Pass.interface)} {y : Exchange Pass.interface} {entity : Entity}

/-! ## The rule -/

/-- A pass owns an entity: the resource that the store has returned last records it, and the pass
has written no other record, or the pass has created the entity. -/
inductive Owns (k : Kind) (before : List (Exchange Pass.interface)) : Entity → Prop where
  | recorded {r : Resource k} (hLast : LastWord (Returns r) before)
      (hRewords : InTurn (Rewords k) before) (hRecorded : r.isRecorded) :
      Owns k before (k.entity r.remoteId)
  | made {entity : Entity} (hMade : Made before entity) : Owns k before entity

/-- The spec that a pass goes by, which is that of the resource that the store has returned last,
names a user by an email. -/
def Mentions (k : Kind) (before : List (Exchange Pass.interface)) (email : String) : Prop :=
  ∃ r : Resource k, LastWord (Returns r) before ∧ email ∈ k.emails r.spec

/-- An exchange leaves alone what a pass has nothing to do with. -/
structure MayTouch (k : Kind) (before : List (Exchange Pass.interface))
    (y : Exchange Pass.interface) : Prop where
  /-- What is updated, deleted, or given or deprived of members, is owned. -/
  touched : ∀ c entity, y.call = .directory c → c.touches? = some entity → Owns k before entity
  /-- What is created has no rival. -/
  created : ∀ c, y.call = .directory c → Unrivalled before c
  /-- Who is invited is named by the spec. -/
  invited : ∀ accountId email, y.call = .directory (.inviteUser accountId email) →
  Mentions k before email
  /-- Who is removed was found by an email of the spec and cannot be used. -/
  removed : ∀ accountId id, y.call = .directory (.removeUser accountId id) →
    ∃ email user, Mentions k before email ∧
    ⟨.directory (.findUser accountId email), .ok (some user)⟩ ∈ before ∧
      ¬user.isUsable ∧ user.id = id

/-- A call that creates nothing has no rivals. -/
lemma unrivalled_of_creates? {c : Call} (hCreates : c.creates? = none) : Unrivalled h c := by
  cases c <;> trivial

/-- What had no rival by some exchanges has none by more. -/
lemma Unrivalled.append {c : Call} (hSole : Unrivalled rest c) : Unrivalled (h ++ rest) c := by
  cases c <;> first | trivial | skip
  · exact List.mem_append_right h hSole
  · obtain ⟨roles, hOthers, hMem⟩ := hSole
    exact ⟨roles, hOthers, List.mem_append_right h hMem⟩

/-- A call of another party touches nothing. -/
lemma mayTouch_of_quiet (hQuiet : ¬y.call.isRemote) : MayTouch k h y := by
  have hOther (c : Call) : y.call ≠ .directory c := by
    intro hCall
    rw [hCall] at hQuiet
    exact hQuiet rfl
  exact ⟨fun c _ hCall => absurd hCall (hOther c), fun c hCall => absurd hCall (hOther c),
    fun _ _ hCall => absurd hCall (hOther _), fun _ _ hCall => absurd hCall (hOther _)⟩

/-- A look-up touches nothing. -/
lemma mayTouch_of_isRead (hRead : y.call.isRead) : MayTouch k h y := by
  obtain ⟨c, answer⟩ := y
  refine ⟨?_, ?_, ?_, ?_⟩
  · rintro d entity rfl hTouches
    rw [Call.touches?_of_isRead hRead] at hTouches
    cases hTouches
  · rintro d rfl
    exact unrivalled_of_creates? (Call.creates?_of_isRead hRead)
  · rintro accountId email rfl
    exact absurd hRead Bool.false_ne_true
  · rintro accountId id rfl
    exact absurd hRead Bool.false_ne_true

/-- What is owned may be touched. -/
lemma mayTouch_of_touches {c : Call} (hOwns : Owns k h entity) (hTouches : c.touches? = some entity)
    (answer : c.Answer) : MayTouch k h ⟨.directory c, answer⟩ := by
  refine ⟨?_, ?_, ?_, ?_⟩
  · rintro _ other ⟨⟩ hOther
    rw [hTouches] at hOther
    cases hOther
    exact hOwns
  · rintro _ ⟨⟩
    refine unrivalled_of_creates? ?_
    cases c <;> first | rfl | exact absurd hTouches nofun
  · rintro _ _ ⟨⟩
    cases hTouches
  · rintro _ _ ⟨⟩
    cases hTouches

/-- What has no rival may be created. -/
lemma mayTouch_of_creates {c : Call} {kind : Directory.EntityKind} (hSole : Unrivalled h c)
    (hCreates : c.creates? = some kind) (answer : c.Answer) :
    MayTouch k h ⟨.directory c, answer⟩ := by
  refine ⟨?_, ?_, ?_, ?_⟩
  · rintro _ entity ⟨⟩ hTouches
    rw [Call.touches?_of_creates? hCreates] at hTouches
    cases hTouches
  · rintro _ ⟨⟩
    exact hSole
  · rintro _ _ ⟨⟩
    cases hCreates
  · rintro _ _ ⟨⟩
    cases hCreates

/-- What may follow while the spec is resolved touches nobody else. -/
lemma MayResolve.mayTouch {kind : Directory.EntityKind} {accountId : String}
    (hLast : LastWord (Returns r) h) (hMay : MayResolve kind accountId (k.emails r.spec) h y) :
    MayTouch k h y := by
  cases hMay with
  | referred answer => exact mayTouch_of_quiet Bool.false_ne_true
  | read hRead _ answer => exact mayTouch_of_isRead hRead
  | invited hListed answer =>
    refine ⟨nofun, ?_, ?_, nofun⟩
    · rintro _ ⟨⟩
      trivial
    · rintro _ _ ⟨⟩
      exact ⟨r, hLast, hListed⟩
  | removed hListed hFound hUnusable answer =>
    refine ⟨nofun, ?_, nofun, ?_⟩
    · rintro _ ⟨⟩
      trivial
    · rintro _ _ ⟨⟩
      exact ⟨_, _, ⟨r, hLast, hListed⟩, hFound, hUnusable, rfl⟩

/-- What may follow while an entity that the pass owns is given what the spec lists touches nothing
else. -/
lemma MaySettle.mayTouch {accountId : String} (hLast : LastWord (Returns r) h)
    (hOwns : Owns k h entity) (hMay : MaySettle accountId (k.emails r.spec) entity h y) :
    MayTouch k h y := by
  cases hMay with
  | resolved hMay => exact hMay.mayTouch hLast
  | regrouped hRegroups answer =>
      exact mayTouch_of_touches hOwns (Call.touches?_of_regroups? hRegroups) answer

/-- What is owned stays owned as long as the store is not called. -/
lemma Owns.append (hOwns : Owns k h entity) (hOther : ∀ z ∈ rest, z.call.isStore = false) :
    Owns k (h ++ rest) entity := by
  cases hOwns with
  | recorded hLast hRewords hRecorded =>
    exact .recorded (hLast.append hOther) (inTurn_rewords_append hRewords hOther) hRecorded
  | made hMade => exact .made (hMade.append rest)

/-! ## Walking a pass -/

/-- A pass works on the resource that the store has returned last, has written no other record, and
has stayed within its bounds. -/
structure Bounded (r : Resource k) (h : List (Exchange Pass.interface)) : Prop where
  inTurn : InTurn (MayTouch k) h
  last : LastWord (Returns r) h
  rewords : InTurn (Rewords k) h

/-- What calls no remote service stays within the bounds. -/
lemma inTurn_append_of_quiet (hTurn : InTurn (MayTouch k) h)
    (hQuiet : ∀ z ∈ rest, ¬z.call.isRemote) : InTurn (MayTouch k) (h ++ rest) :=
  inTurn_append_iff.2 ⟨hTurn, (inTurn_of_forall hQuiet).imp fun _ _ hz => mayTouch_of_quiet hz⟩

/-- A pass that has come to a resource has stayed within its bounds. -/
lemma Reached.bounded (hReached : Reached r h) : Bounded r h where
  inTurn := inTurn_append_of_quiet (h := []) inTurn_nil hReached.quiet
  last := hReached.last
  rewords := hReached.rewords

namespace Bounded

variable {kind : Directory.EntityKind} {accountId : String}

/-- A recorded entity is owned. -/
lemma owns (hB : Bounded r h) (hRecorded : r.isRecorded) : Owns k h (k.entity r.remoteId) :=
  .recorded hB.last hB.rewords hRecorded

/-- One more exchange with another party than the store, which may touch what it does. -/
lemma concat (hB : Bounded r h) (hOther : y.call.isStore = false) (hMay : MayTouch k h y) :
    Bounded r (h ++ [y]) :=
  ⟨inTurn_concat_iff.2 ⟨hB.inTurn, hMay⟩, hB.last.concat hOther,
    inTurn_concat_iff.2 ⟨hB.rewords, rewords_of_isStore hOther⟩⟩

/-- More exchanges with other parties than the store, by a lasting rule under which they may touch
what they do. -/
lemma append {R : List (Exchange Pass.interface) → Exchange Pass.interface → Prop}
    (hB : Bounded r h) (hTurn : InTurn R rest) (hLasting : Lasting R)
    (hOther : ∀ before z, R before z → z.call.isStore = false) (hMay : ∀ before z,
      (∀ w ∈ before, w.call.isStore = false) → R (h ++ before) z → MayTouch k (h ++ before) z) :
    Bounded r (h ++ rest) := by
  have hOthers := hTurn.forall_mem hOther
  refine ⟨inTurn_append_iff.2 ⟨hB.inTurn, ?_⟩, hB.last.append hOthers,
    inTurn_rewords_append hB.rewords hOthers⟩
  rintro before z after rfl
  exact hMay before z (fun w hMem => hOthers w (List.mem_append_left _ hMem))
    (hLasting h before z (hTurn before z after rfl))

/-- Look-ups. -/
lemma looked (hB : Bounded r h) (hSearch : ∀ z ∈ rest, z.call.isRead) : Bounded r (h ++ rest) := by
  refine hB.append (inTurn_of_forall hSearch) (fun _ _ _ hz => hz) (fun _ _ hRead => ?_)
    fun _ _ _ hRead => mayTouch_of_isRead hRead
  exact Pass.Call.isStore_of_needsAccount (Pass.Call.needsAccount_of_isRead hRead)

/-- Resolving the spec. -/
lemma resolved (hB : Bounded r h)
    (hTurn : InTurn (MayResolve kind accountId (k.emails r.spec)) rest) : Bounded r (h ++ rest) :=
  hB.append hTurn (lasting_mayResolve _ _ _) (fun _ _ hMay =>
    Pass.Call.isStore_of_needsAccount hMay.needsAccount) fun _ _ hOthers hMay =>
    hMay.mayTouch (hB.last.append hOthers)

/-- Giving an owned entity what the spec lists. -/
lemma settled (hB : Bounded r h) (hOwns : Owns k h entity)
    (hTurn : InTurn (MaySettle accountId (k.emails r.spec) entity) rest) : Bounded r (h ++ rest) :=
  hB.append hTurn (lasting_maySettle _ _ _) (fun _ _ hMay =>
    Pass.Call.isStore_of_needsAccount hMay.needsAccount) fun _ _ hOthers hMay =>
    hMay.mayTouch (hB.last.append hOthers) (hOwns.append hOthers)

/-- Creating an entity, which the pass then owns if it was created for good. -/
lemma creation (hB : Bounded r h) {x : Except Error RemoteRef}
    (hCreation : Creation k scope r.spec rest x) :
    Bounded r (h ++ rest) ∧ ∀ ref, x = .ok ref → Made (h ++ rest) (k.entity ref.id) := by
  -- what was created after the search may be settled, whether or not that comes to a good end
  have hSettle {s settling : List (Exchange Pass.interface)} {c : Call} {v : c.Value} {id : String}
      {x : Except Error Unit} (hSearch : ∀ z ∈ s, z.call.isRead) (hSole : Unrivalled s c)
      (hCreated : c.created? v = some (k.entity id))
      (hSettling : Pass.Traces (k.settle scope r.spec id) settling x) :
      Bounded r (h ++ s ++ [⟨.directory c, .ok v⟩] ++ settling) ∧
        Made (h ++ s ++ [⟨.directory c, .ok v⟩] ++ settling) (k.entity id) := by
    have hB : Bounded r (h ++ s ++ [⟨.directory c, .ok v⟩]) :=
      (hB.looked hSearch).concat rfl
        (mayTouch_of_creates hSole.append (Call.creates?_of_created? hCreated) _)
    have hMade : Made (h ++ s ++ [⟨.directory c, .ok v⟩]) (k.entity id) :=
      ⟨c, v, List.mem_concat_self, hCreated⟩
    exact ⟨hB.settled (.made hMade) (k.heeds_settle scope r.spec id _ _ hSettling),
      hMade.append settling⟩
  cases hCreation with
  | unasked hSearch => exact ⟨hB.looked hSearch, nofun⟩
  | refused hSearch hSole hCreates =>
    rw [← List.append_assoc]
    exact ⟨(hB.looked hSearch).concat rfl (mayTouch_of_creates hSole.append hCreates _), nofun⟩
  | made hSearch hSole hCreated hSettled =>
    obtain ⟨hSettling, hMade⟩ := hSettle hSearch hSole hCreated hSettled
    simp only [List.append_assoc, List.singleton_append] at hSettling hMade
    refine ⟨hSettling, ?_⟩
    rintro _ ⟨⟩
    exact hMade
  | takenBack answer hSearch hSole hCreated hUnsettled hDeletes =>
    obtain ⟨hSettling, hMade⟩ := hSettle hSearch hSole hCreated hUnsettled
    have hBack := hSettling.concat rfl
      (mayTouch_of_touches (.made hMade) (Call.touches?_of_deletes? hDeletes) answer)
    simp only [List.append_assoc, List.singleton_append] at hBack
    exact ⟨hBack, nofun⟩

/-- Reading the recorded entity. -/
lemma fetched (hB : Bounded r h) {x : Except Error (k.Remote × Etag)}
    (hFetch : Pass.Traces (k.strategy.fetch r.remoteId) rest x) : Bounded r (h ++ rest) :=
  hB.looked (isRead_of_fetch hFetch)

/-- Updating the recorded entity. -/
lemma updated (hB : Bounded r h) (hRecorded : r.isRecorded) {etag : Etag}
    {x : Except Error RemoteRef} (hUpdating : Updating k scope r.spec r.remoteId etag rest x) :
    Bounded r (h ++ rest) := by
  have hUpdate {c : Call} (hUpdates : c.updates? = some (k.entity r.remoteId))
      (answer : c.Answer) :=
    hB.concat rfl (mayTouch_of_touches (hB.owns hRecorded)
      (Call.touches?_of_updates? hUpdates) answer)
  cases hUpdating with
  | refused hUpdates _ => exact hUpdate hUpdates _
  | @accepted c v settling _ hUpdates _ hRest =>
    have hSettled :=
      (hUpdate hUpdates (.ok v)).settled ((hUpdate hUpdates (.ok v)).owns hRecorded) hRest
    rwa [List.append_assoc, List.singleton_append] at hSettled

/-- Removing the recorded entity. -/
lemma removed (hB : Bounded r h) (hRemoving : Lifecycle.Removing r rest) :
    Bounded r (h ++ rest) := by
  cases hRemoving with
  | unrecorded =>
    rw [List.append_nil]
    exact hB
  | removed hRecorded hDeletes _ =>
    exact hB.concat rfl (mayTouch_of_touches (hB.owns hRecorded)
      (Call.touches?_of_deletes? hDeletes) _)

end Bounded

/-! ## The steps -/

section

variable {x : Except Error Outcome}

/-- Deletion stays within the bounds. -/
lemma Bounded.deleting (hB : Bounded r h) (hDeleting : Lifecycle.Deleting r rest x) :
    InTurn (MayTouch k) (h ++ rest) := by
  cases hDeleting with
  | @kept c e told hRecorded hDeletes _ hTold =>
    have hAsked := hB.concat rfl
      (mayTouch_of_touches (hB.owns hRecorded) (Call.touches?_of_deletes? hDeletes) (.error e))
    rw [← List.singleton_append, ← List.append_assoc]
    exact inTurn_append_of_quiet hAsked.inTurn hTold.quiet
  | unstated hRemoving =>
    rw [← List.append_assoc]
    exact inTurn_append_of_quiet (hB.removed hRemoving).inTurn
      (List.forall_mem_singleton.2 Bool.false_ne_true)
  | stated hRemoving hRelease =>
    rw [← List.append_assoc]
    refine inTurn_append_of_quiet (hB.removed hRemoving).inTurn
      (List.forall_mem_cons.2 ⟨Bool.false_ne_true, ?_⟩)
    exact Lifecycle.quiet_of_release hRelease

/-- Creation stays within the bounds. -/
lemma Bounded.creating (hB : Bounded r h) (hCreating : Lifecycle.Creating settings scope r rest x) :
    InTurn (MayTouch k) (h ++ rest) := by
  have hResolved {first : List (Exchange Pass.interface)} {y : Except Error k.CreateRequest}
      (hResolve : Pass.Traces (k.strategy.createRequest scope r.spec) first y) :
      Bounded r (h ++ first) :=
    hB.resolved (k.heeds_createRequest scope r.spec first y hResolve)
  cases hCreating with
  | unresolved hResolve hTold =>
    rw [← List.append_assoc]
    exact inTurn_append_of_quiet (hResolved hResolve).inTurn hTold.quiet
  | uncreated hResolve hCreate hTold =>
    obtain ⟨hCreated, -⟩ := (hResolved hResolve).creation (Kind.creation_of_traces hCreate)
    rw [← List.append_assoc, ← List.append_assoc]
    exact inTurn_append_of_quiet hCreated.inTurn hTold.quiet
  | recorded hResolve hCreate stored =>
    obtain ⟨hCreated, -⟩ := (hResolved hResolve).creation (Kind.creation_of_traces hCreate)
    rw [← List.append_assoc, ← List.append_assoc]
    exact inTurn_append_of_quiet hCreated.inTurn (List.forall_mem_singleton.2 Bool.false_ne_true)
  | @unrecorded first second _ ref e _ hResolve hCreate hDeletes answer =>
    obtain ⟨hCreated, hMade⟩ := (hResolved hResolve).creation (Kind.creation_of_traces hCreate)
    rw [← List.append_assoc, ← List.append_assoc, ← List.singleton_append, ← List.append_assoc]
    -- the store has the last word with the write that failed, but what was created stays owned
    refine inTurn_concat_iff.2 ⟨inTurn_append_of_quiet hCreated.inTurn
      (List.forall_mem_singleton.2 Bool.false_ne_true), ?_⟩
    exact mayTouch_of_touches (.made ((hMade ref rfl).append _))
      (Call.touches?_of_deletes? hDeletes) answer

/-- Synchronization stays within the bounds. -/
lemma Bounded.syncing (hB : Bounded r h) (hRecorded : r.isRecorded)
    (hSyncing : Lifecycle.Syncing settings scope r rest x) : InTurn (MayTouch k) (h ++ rest) := by
  have hResolved {first second : List (Exchange Pass.interface)}
      {y : Except Error (k.Remote × Etag)} {z : Except Error k.UpdateRequest}
      (hFetch : Pass.Traces (k.strategy.fetch r.remoteId) first y)
      (hResolve : Pass.Traces (k.strategy.updateRequest scope r.spec) second z) :
      Bounded r (h ++ first ++ second) :=
    (hB.fetched hFetch).resolved (k.heeds_updateRequest scope r.spec second z hResolve)
  have hWritten (w : Resource k) (answer : Except Error (Resource k)) (z : Exchange Pass.interface)
      (hMem : z ∈ [⟨.store (.updateStatus k w), answer⟩]) : ¬z.call.isRemote := by
    rw [List.mem_singleton.1 hMem]
    exact Bool.false_ne_true
  cases hSyncing with
  | forgotten hFetch answer =>
    rw [← List.append_assoc]
    exact inTurn_append_of_quiet (hB.fetched hFetch).inTurn (hWritten _ answer)
  | unresolved hFetch hResolve hTold =>
    rw [← List.append_assoc, ← List.append_assoc]
    exact inTurn_append_of_quiet (hResolved hFetch hResolve).inTurn hTold.quiet
  | agreed hFetch hResolve _ _ =>
    rw [← List.append_assoc]
    exact (hResolved hFetch hResolve).inTurn
  | synchronized hFetch hResolve _ _ answer =>
    rw [← List.append_assoc, ← List.append_assoc]
    exact inTurn_append_of_quiet (hResolved hFetch hResolve).inTurn (hWritten _ answer)
  | unchanged hFetch hResolve _ hUpdate hTold =>
    have hUpdated := (hResolved hFetch hResolve).updated hRecorded (Kind.updating_of_traces hUpdate)
    rw [← List.append_assoc, ← List.append_assoc, ← List.append_assoc]
    exact inTurn_append_of_quiet hUpdated.inTurn hTold.quiet
  | changed hFetch hResolve _ hUpdate answer =>
    have hUpdated := (hResolved hFetch hResolve).updated hRecorded (Kind.updating_of_traces hUpdate)
    rw [← List.append_assoc, ← List.append_assoc, ← List.append_assoc]
    exact inTurn_append_of_quiet hUpdated.inTurn (hWritten _ answer)

end

/-! ## The pass -/

/-- What a pass owns in a site is the entity that was recorded when the pass began, or one that it
has created. -/
lemma Owns.eq_or_made {δ : Type} {C : Circumstances k δ} {s t : Site k δ} (hOwns : Owns k h entity)
    (hPath : (C.surroundings key).Path s h t) :
    entity = k.entity s.resource.remoteId ∨ Made h entity := by
  cases hOwns with
  | recorded hLast hRewords _ =>
    have hSame := sameRecord_of_rewords hPath hRewords
    rw [resource_of_path hPath hLast] at hSame
    rw [hSame.remoteId]
    exact .inl rfl
  | made hMade => exact .inr hMade

/-- In the trace of any pass, whatever the store, the accounts, the references and the service
answer: each exchange leaves alone what the pass has nothing to do with.  In particular, as long as
the store returns no other record than the one that was read, nothing is updated, deleted or given
other members than the entity of this record and what the pass has created; and where the store
answers what it holds, this is the record that was stored when the pass began. -/
theorem mayTouch_of_run {trace : List (Exchange Pass.interface)} {outcome : Outcome}
    (hRun : (reconcile settings k key).Runs (.free _) () trace outcome ()) :
    (∀ before y after, trace = before ++ y :: after → MayTouch k before y) ∧
      (∀ (r : Resource k) before (c : Call) (answer : c.Answer) after entity,
        trace = before ++ ⟨.directory c, answer⟩ :: after → c.touches? = some entity →
        (∀ z ∈ before, ∀ w : Resource k, Returns w z → w.remoteId = r.remoteId) →
          entity = k.entity r.remoteId ∨ Made before entity) ∧
        ∀ (δ : Type) (C : Circumstances k δ) (s t : Site k δ),
          (reconcile settings k key).Runs (C.surroundings key) s trace outcome t →
          ∀ before (c : Call) (answer : c.Answer) after entity,
            trace = before ++ ⟨.directory c, answer⟩ :: after → c.touches? = some entity →
              entity = k.entity s.resource.remoteId ∨ Made before entity := by
  have hInTurn : InTurn (MayTouch k) trace := by
    obtain ⟨x, hPassing, rfl⟩ := Lifecycle.passing_of_reconcile hRun
    cases outline_of_passing hPassing with
    | calm hCalm => exact inTurn_append_of_quiet (h := []) inTurn_nil hCalm.quiet
    | deleting hReached hDeleting => exact hReached.bounded.deleting hDeleting
    | syncing hReached hRecorded hSyncing => exact hReached.bounded.syncing hRecorded hSyncing
    | creating hReached _ hCreating => exact hReached.bounded.creating hCreating
  refine ⟨hInTurn, ?_, ?_⟩
  · rintro r before c answer after entity hSplit hTouches hSame
    cases (hInTurn before _ after hSplit).touched c entity rfl hTouches with
    | @recorded w hLast _ hRecorded =>
      obtain ⟨earlier, z, since, rfl, -, hReturns, -⟩ := hLast
      left
      rw [hSame z (List.mem_append_right earlier List.mem_cons_self) w hReturns]
    | made hMade => exact .inr hMade
  · rintro δ C s t hSite before c answer after entity rfl hTouches
    obtain ⟨-, hPath⟩ := Program.runs_iff.1 hSite
    obtain ⟨u, hBefore, -⟩ := Surroundings.path_append_iff.1 hPath
    exact ((hInTurn before _ after rfl).touched c entity rfl hTouches).eq_or_made hBefore

/-- A pass that takes a group back keeps to its bounds: the store has returned no recorded group
before it is deleted, and the pass has created the one that it deletes. -/
theorem mayTouch_of_takenBack :
    (∀ before y after, Auditors.takenBackTrace = before ++ y :: after →
      MayTouch .accessGroup before y) ∧
      Made (Auditors.takenBackTrace.take 9) ⟨.group, "group-1"⟩ := by
  obtain ⟨hMay, hOwned, -⟩ := mayTouch_of_run Auditors.runs_takenBack
  refine ⟨hMay, ?_⟩
  have hUnrecorded : ∀ z ∈ Auditors.takenBackTrace.take 9,
    ∀ w : Resource .accessGroup, Returns w z →
      w.remoteId = Auditors.unseen.remoteId := by
    intro z hMem w hReturns
    simp only [Auditors.takenBackTrace, List.take, List.mem_cons] at hMem
    rcases hMem with rfl | rfl | rfl | rfl | rfl | rfl | rfl | rfl | rfl | hNone
    all_goals first | exact absurd hNone List.not_mem_nil | cases hReturns
    all_goals rfl
  refine (hOwned Auditors.unseen _ (.deleteGroup "group-1") (.ok ())
    [] _ rfl rfl hUnrecorded).resolve_left ?_
  exact of_decide_eq_false rfl

end IamReconciler
