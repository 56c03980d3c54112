import IamReconciler.Proofs.Lifecycle.Records

/-!
# The turns of a pass

Every exchange of a pass has its reason in those before it.  A status is written of the resource
that the store has returned last, and what it says is known from an answer (`States`): that an
entity is recorded comes after it was created or updated, that it is forgotten comes after it could
not be read, and so on.  Metadata is written to set back, to hold or to let go (`Edits`).  The
accounts are asked for a resource that was examined, and what needs an account comes after it was
opened.

This is stated once, as a rule about each exchange and those before it (`Turn`), and it is derived
once from the courses of a pass (`turns_of_passing`).  What a pass does about the status, the
finalizer, the accounts and the entities follows from the rule by cases; in a site, a turn leaves
the stored resource as it is, states something of it, or edits it (`Turn.effect`).
-/

namespace IamReconciler

open Directory (Call Entity)

variable {k : Kind} {key : Key} {settings : Settings} {h rest : List (Exchange Pass.interface)}
  {r found w : Resource k} {y : Exchange Pass.interface}

/-! ## Reasons -/

/-- A pass examines a resource that is well formed. -/
def ExaminesValid (k : Kind) (key : Key) (h : List (Exchange Pass.interface)) : Prop :=
  ∃ found x : Resource k, Examined k key found h x ∧ x.validate = .ok ()

/-- A pass has read a resource that is being deleted. -/
def ReadsDeleting (k : Kind) (key : Key) (h : List (Exchange Pass.interface)) : Prop :=
  ∃ found x : Resource k, Examined k key found h x ∧ found.metadata.isDeleting

/-- The account was opened. -/
def HasOpened (key : Key) (h : List (Exchange Pass.interface)) : Prop :=
  ∃ session, ⟨.openAccount key.ns, .ok session⟩ ∈ h

/-- The statuses that a pass may write of a resource, with what it knows then. -/
inductive States (k : Kind) (key : Key) (r : Resource k) (h : List (Exchange Pass.interface)) :
    Resource k → Prop where
  | greeted (hUnset : r.isUnset) : States k key r h (r.moveTo .processing)
  | failed {c : Condition} (hFailed : c.state = .failed) : States k key r h (r.moveTo c)
  | synchronized (hRecorded : r.isRecorded) (hSparing : Sparing h) :
      States k key r h (r.moveTo (.synchronized k))
  /-- The entity could not be read. -/
  | forgotten {e : Error} {y : Exchange Pass.interface} (hMem : y ∈ h)
      (hUnread : FailedToRead (k.entity r.remoteId) e y) :
      States k key r h (r.moveTo (.failure k .retrieve e)).forgetRemote
  /-- An entity was created for a well-formed spec, and none is recorded. -/
  | created {ref : RemoteRef} (hUnrecorded : ¬r.isRecorded) (hValid : ExaminesValid k key h)
      (hMade : Made h (k.entity ref.id)) :
      States k key r h ((r.recordApplied ref).moveTo (.created k))
  /-- The recorded entity was updated to a well-formed spec. -/
  | updated {ref : RemoteRef} {y : Exchange Pass.interface} (hRecorded : r.isRecorded)
      (hValid : ExaminesValid k key h) (hMem : y ∈ h)
      (hGoesBy : GoesBy (k.entity r.remoteId) ref.id y) :
      States k key r h ((r.recordApplied ref).moveTo (.updated k))
  /-- The recorded entity is gone. -/
  | deleted (hDeleting : ReadsDeleting k key h)
      (hGone : r.isRecorded → ∃ y ∈ h, EntityGone (k.entity r.remoteId) y) :
      States k key r h (r.moveTo (.deleted k)).forgetRemote

/-- The metadata and specs that a pass may write of a resource, with what it knows then. -/
inductive Edits (k : Kind) (key : Key) (r : Resource k) (h : List (Exchange Pass.interface)) :
    Resource k → Prop where
  | restored (hValid : ExaminesValid k key h) : Edits k key r h r.restoreImmutable
  | held (hValid : ExaminesValid k key h) :
      Edits k key r h (r.withFinalizers (r.metadata.finalizerSet.add k.finalizer))
  | released (hDeleting : ReadsDeleting k key h) :
      Edits k key r h (r.withFinalizers (r.metadata.finalizerSet.erase k.finalizer))

/-- An exchange that a pass may make after others. -/
inductive Turn (k : Kind) (key : Key) (h : List (Exchange Pass.interface)) :
    Exchange Pass.interface → Prop where
  | read (hFirst : h = []) (answer : Except Error (Option (Resource k))) :
      Turn k key h ⟨.store (.get k key), answer⟩
  | stated {r w : Resource k} (hLast : LastWord (Returns r) h) (hStates : States k key r h w)
      (answer : Except Error (Resource k)) : Turn k key h ⟨.store (.updateStatus k w), answer⟩
  | edited {r w : Resource k} (hLast : LastWord (Returns r) h) (hEdits : Edits k key r h w)
      (answer : Except Error (Resource k)) : Turn k key h ⟨.store (.update k w), answer⟩
  | opened {r found x : Resource k} (hLast : LastWord (Returns r) h)
      (hExamined : Examined k key found h x)
      (hMay : x.isWellFormed ∨ found.metadata.isDeleting ∧ x.isRecorded)
      (answer : Except Error Session) : Turn k key h ⟨.openAccount key.ns, answer⟩
  /-- A call in the account, which creates an entity only for a resource with the finalizer. -/
  | called {r : Resource k} {y : Exchange Pass.interface} (hLast : LastWord (Returns r) h)
      (hOpened : HasOpened key h) (hNeeds : y.call.needsAccount)
      (hHeld : ∀ c, y.call = .directory c → c.creates?.isSome → LastWord (CarriesFinalizer k) h) :
      Turn k key h y
  /-- A deletion that takes the creation of an entity back. -/
  | takenBack {c : Call} {entity : Entity} (hOpened : HasOpened key h) (hMade : Made h entity)
      (hDeletes : c.deletes? = some entity) (answer : c.Answer) :
      Turn k key h ⟨.directory c, answer⟩

/-! ### What lasts -/

/-- What a pass examines stays well formed when it goes on. -/
lemma ExaminesValid.append (hValid : ExaminesValid k key h)
    (rest : List (Exchange Pass.interface)) : ExaminesValid k key (h ++ rest) := by
  obtain ⟨found, x, hExamined, hValid⟩ := hValid
  exact ⟨found, x, hExamined.append rest, hValid⟩

/-- A pass comes to examine a well-formed resource when the store returns one. -/
lemma ExaminesValid.of_concat (hValid : ExaminesValid k key (h ++ [y])) :
    ExaminesValid k key h ∨ ∃ x : Resource k, Returns x y ∧ x.validate = .ok () := by
  obtain ⟨found, x, hExamined, hValid⟩ := hValid
  exact hExamined.of_concat.imp (⟨found, x, ·, hValid⟩) (⟨x, ·, hValid⟩)

/-- What a pass has read stays so when it goes on. -/
lemma ReadsDeleting.append (hDeleting : ReadsDeleting k key h)
    (rest : List (Exchange Pass.interface)) : ReadsDeleting k key (h ++ rest) := by
  obtain ⟨found, x, hExamined, hDeleting⟩ := hDeleting
  exact ⟨found, x, hExamined.append rest, hDeleting⟩

/-- The account stays open. -/
lemma HasOpened.append (hOpened : HasOpened key h) (rest : List (Exchange Pass.interface)) :
    HasOpened key (h ++ rest) := by
  obtain ⟨session, hMem⟩ := hOpened
  exact ⟨session, List.mem_append_left rest hMem⟩

/-! ### What was answered before a turn -/

/-- Before a turn after the first, the last word of the store is a resource, or an entity was
made. -/
lemma Turn.unfailed (hTurn : Turn k key h y) :
    h = [] ∨ (∃ r : Resource k, LastWord (Returns r) h) ∨ ∃ entity, Made h entity := by
  cases hTurn with
  | read hFirst => exact .inl hFirst
  | stated hLast => exact .inr (.inl ⟨_, hLast⟩)
  | edited hLast => exact .inr (.inl ⟨_, hLast⟩)
  | opened hLast => exact .inr (.inl ⟨_, hLast⟩)
  | called hLast => exact .inr (.inl ⟨_, hLast⟩)
  | takenBack _ hMade => exact .inr (.inr ⟨_, hMade⟩)

/-- An exchange after which there is another turn is no write that failed, unless the service was
called before. -/
lemma calledRemote_of_writeFailed (hTurns : InTurn (Turn k key) (h ++ [y])) :
    InTurn (fun earlier z => WriteFailed z → CalledRemote earlier) h := by
  rintro earlier z after rfl hFailed
  have hStore : z.call.isStore := by cases hFailed <;> rfl
  -- the turn after the failed write is either in the history or `y` itself
  obtain ⟨next, later, hNext⟩ := List.exists_cons_of_ne_nil (List.concat_ne_nil y after)
  have hTurn : Turn k key (earlier ++ [z]) next := by
    refine hTurns (earlier ++ [z]) next later ?_
    rw [List.append_assoc, List.cons_append, hNext, List.append_assoc, List.singleton_append]
  rcases hTurn.unfailed with hNone | ⟨r, hLast⟩ | ⟨entity, c, v, hMem, -⟩
  · exact absurd hNone (List.concat_ne_nil z earlier)
  · exact absurd hFailed (hLast.of_concat hStore).not_writeFailed
  · rcases List.mem_append.1 hMem with hEarlier | hHere
    · exact ⟨_, hEarlier, rfl⟩
    · rw [← List.mem_singleton.1 hHere] at hStore
      exact absurd hStore Bool.false_ne_true

/-! ## Courses -/

/-- The reference of an entity that was created names it. -/
lemma made_of_create {scope : Scope} {spec : k.Spec} {request : k.CreateRequest} {ref : RemoteRef}
    (hCreate : Pass.Traces (k.strategy.create scope spec request) h (.ok ref)) :
    Made h (k.entity ref.id) := by
  cases Kind.creation_of_traces hCreate with
  | made _ _ hCreated => exact ⟨_, _, List.mem_append_right _ List.mem_cons_self, hCreated⟩

/-- What was made stays so when a pass goes on. -/
lemma Made.append {entity : Entity} (hMade : Made h entity)
    (rest : List (Exchange Pass.interface)) : Made (h ++ rest) entity := by
  obtain ⟨c, v, hMem, hCreated⟩ := hMade
  exact ⟨c, v, List.mem_append_left rest hMem, hCreated⟩

/-- A pass that has read a resource goes on by it. -/
lemma goesOn_get (key : Key) (r : Resource k) :
    GoesOn (Turn k key) r [⟨.store (.get k key), .ok (some r)⟩] where
  inTurn := inTurn_singleton_iff.2 (.read rfl _)
  last := lastAmong_concat (h := []) rfl (.get key)

/-- A pass that may create or change the entity of a resource: it examines a well-formed one, has
opened the account, and holds the finalizer. -/
structure Working (key : Key) (r : Resource k) (h : List (Exchange Pass.interface)) : Prop
    extends GoesOn (Turn k key) r h where
  valid : ExaminesValid k key h
  opened : HasOpened key h
  held : LastWord (CarriesFinalizer k) h

/-- A failed step is told in turn. -/
lemma GoesOn.told_failure {step : Step} {e : Error} (hG : GoesOn (Turn k key) r h)
    (hTold : Lifecycle.Telling r (.failure k step e) rest) : InTurn (Turn k key) (h ++ rest) :=
  hG.told (.stated hG.last (.failed rfl)) hTold

namespace Working

variable {scope : Scope}

/-- Calls in the account leave a pass at work. -/
lemma called (hW : Working key r h) (hNeeds : ∀ y ∈ rest, y.call.needsAccount) :
    Working key r (h ++ rest) := by
  have hOther := isStore_of_needsAccount hNeeds
  refine ⟨hW.asked ?_ hOther, hW.valid.append rest, hW.opened.append rest, hW.held.append hOther⟩
  rintro before y after rfl
  have hBefore : ∀ z ∈ before, z.call.isStore = false :=
    fun z hMem => hOther z (List.mem_append_left _ hMem)
  refine .called (hW.last.append hBefore) (hW.opened.append before) ?_ fun _ _ _ => ?_
  · exact hNeeds y (List.mem_append_right before List.mem_cons_self)
  · exact hW.held.append hBefore

/-- A status of the resource is written in turn. -/
lemma stated (hW : Working key r h) (hStates : States k key r h w)
    (answer : Except Error (Resource k)) :
    InTurn (Turn k key) (h ++ [⟨.store (.updateStatus k w), answer⟩]) :=
  inTurn_concat_iff.2 ⟨hW.inTurn, .stated hW.last hStates answer⟩

/-- Bringing the entity in step takes turns, when entities were spared until then. -/
lemma syncing (hW : Working key r h) (hSparing : Sparing h) (hRecorded : r.isRecorded)
    {x : Except Error Outcome} (hSyncing : Lifecycle.Syncing settings scope r rest x) :
    InTurn (Turn k key) (h ++ rest) := by
  -- each part is a stretch of calls, and the status after them is stated of what they have shown
  cases hSyncing with
  | forgotten hFetch answer =>
    obtain ⟨reads, y, rfl, hUnread⟩ := Kind.failedToRead_of_traces hFetch
    rw [← List.append_assoc]
    refine (hW.called (needsAccount_of_fetch hFetch)).stated (.forgotten ?_ hUnread) answer
    exact List.mem_append_right h List.mem_concat_self
  | unresolved hFetch hResolve hTold =>
    have hFetched := hW.called (needsAccount_of_fetch hFetch)
    have hResolved := hFetched.called (needsAccount_of_updateRequest hResolve)
    rw [← List.append_assoc, ← List.append_assoc]
    exact hResolved.told_failure hTold
  | agreed hFetch hResolve =>
    have hFetched := hW.called (needsAccount_of_fetch hFetch)
    rw [← List.append_assoc]
    exact (hFetched.called (needsAccount_of_updateRequest hResolve)).inTurn
  | @synchronized first second _ _ hFetch hResolve _ _ answer =>
    have hFetched := hW.called (needsAccount_of_fetch hFetch)
    have hResolved := hFetched.called (needsAccount_of_updateRequest hResolve)
    have hSpared : Sparing (h ++ first ++ second) :=
      List.forall_mem_append.2 ⟨List.forall_mem_append.2
        ⟨hSparing, sparing_of_isRead (isRead_of_fetch hFetch)⟩, sparing_of_updateRequest hResolve⟩
    rw [← List.append_assoc, ← List.append_assoc]
    exact hResolved.stated (.synchronized hRecorded hSpared) answer
  | unchanged hFetch hResolve _ hUpdate hTold =>
    have hFetched := hW.called (needsAccount_of_fetch hFetch)
    have hResolved := hFetched.called (needsAccount_of_updateRequest hResolve)
    have hUpdated := hResolved.called (needsAccount_of_update hUpdate)
    rw [← List.append_assoc, ← List.append_assoc, ← List.append_assoc]
    exact hUpdated.told_failure hTold
  | changed hFetch hResolve _ hUpdate answer =>
    have hFetched := hW.called (needsAccount_of_fetch hFetch)
    have hResolved := hFetched.called (needsAccount_of_updateRequest hResolve)
    have hUpdated := hResolved.called (needsAccount_of_update hUpdate)
    obtain ⟨y, hMem, hGoesBy⟩ := Kind.goesBy_of_traces hUpdate
    rw [← List.append_assoc, ← List.append_assoc, ← List.append_assoc]
    refine hUpdated.stated (.updated hRecorded hUpdated.valid ?_ hGoesBy) answer
    exact List.mem_append_right _ hMem

/-- Creating the entity takes turns. -/
lemma creating (hW : Working key r h) (hUnrecorded : ¬r.isRecorded) {x : Except Error Outcome}
    (hCreating : Lifecycle.Creating settings scope r rest x) :
    InTurn (Turn k key) (h ++ rest) := by
  cases hCreating with
  | unresolved hResolve hTold =>
    rw [← List.append_assoc]
    exact (hW.called (needsAccount_of_createRequest hResolve)).told_failure hTold
  | uncreated hResolve hCreate hTold =>
    have hResolved := hW.called (needsAccount_of_createRequest hResolve)
    rw [← List.append_assoc, ← List.append_assoc]
    exact (hResolved.called (needsAccount_of_create hCreate)).told_failure hTold
  | @recorded first second _ ref hResolve hCreate stored =>
    have hResolved := hW.called (needsAccount_of_createRequest hResolve)
    have hCreated := hResolved.called (needsAccount_of_create hCreate)
    obtain ⟨c, v, hMem, hNew⟩ := made_of_create hCreate
    have hMade : Made (h ++ first ++ second) (k.entity ref.id) :=
      ⟨c, v, List.mem_append_right _ hMem, hNew⟩
    rw [← List.append_assoc, ← List.append_assoc]
    exact hCreated.stated (.created hUnrecorded hCreated.valid hMade) (.ok stored)
  | @unrecorded first second _ ref e c hResolve hCreate hDeletes answer =>
    have hResolved := hW.called (needsAccount_of_createRequest hResolve)
    have hCreated := hResolved.called (needsAccount_of_create hCreate)
    obtain ⟨d, v, hMem, hNew⟩ := made_of_create hCreate
    have hMade : Made (h ++ first ++ second) (k.entity ref.id) :=
      ⟨d, v, List.mem_append_right _ hMem, hNew⟩
    have hStated := hCreated.stated (.created hUnrecorded hCreated.valid hMade) (.error e)
    -- what is taken back is what was made in the same pass
    have hBack := inTurn_concat_iff.2
      ⟨hStated, .takenBack (hCreated.opened.append _) (hMade.append _) hDeletes answer⟩
    simpa only [List.append_assoc, List.cons_append, List.nil_append] using hBack

end Working

/-- Deleting the entity takes turns. -/
lemma GoesOn.deleting (hG : GoesOn (Turn k key) r h) (hOpened : HasOpened key h)
    (hReads : ReadsDeleting k key h) {x : Except Error Outcome}
    (hDeleting : Lifecycle.Deleting r rest x) : InTurn (Turn k key) (h ++ rest) := by
  have hCalled {c : Call} {entity : Entity} (hDeletes : c.deletes? = some entity)
      (answer : c.Answer) : GoesOn (Turn k key) r (h ++ [⟨.directory c, answer⟩]) := by
    refine hG.asked (inTurn_singleton_iff.2 ?_) (List.forall_mem_singleton.2 rfl)
    rw [List.append_nil]
    refine .called hG.last hOpened rfl ?_
    rintro _ ⟨⟩ hCreates
    rw [Call.creates?_of_deletes? hDeletes] at hCreates
    exact absurd hCreates Bool.false_ne_true
  -- the entity is gone when the status says so
  have hRemoved {first : List (Exchange Pass.interface)} (hRemoving : Lifecycle.Removing r first) :
      GoesOn (Turn k key) r (h ++ first) ∧
        States k key r (h ++ first) (r.moveTo (.deleted k)).forgetRemote := by
    cases hRemoving with
    | unrecorded hNone =>
      rw [List.append_nil]
      exact ⟨hG, .deleted hReads fun hRecorded => absurd hRecorded hNone⟩
    | removed _ hDeletes hGone =>
      refine ⟨hCalled hDeletes _, .deleted (hReads.append _) fun _ => ?_⟩
      exact ⟨_, List.mem_concat_self, .directory hDeletes hGone⟩
  cases hDeleting with
  | kept _ hDeletes _ hTold =>
    rw [← List.singleton_append, ← List.append_assoc]
    exact (hCalled hDeletes _).told_failure hTold
  | unstated hRemoving =>
    obtain ⟨hGone, hStates⟩ := hRemoved hRemoving
    rw [← List.append_assoc]
    exact inTurn_concat_iff.2 ⟨hGone.inTurn, .stated hGone.last hStates _⟩
  | @stated first last stored _ hRemoving hRelease =>
    obtain ⟨hGone, hStates⟩ := hRemoved hRemoving
    have hStated := hGone.returned (w := stored) (.stated hGone.last hStates _) (.updateStatus _)
    have hReleased := hStated.release
      (.edited hStated.last (.released ((hReads.append first).append _))) hRelease
    rwa [List.append_assoc, List.append_assoc, List.singleton_append] at hReleased

section

variable {first : List (Exchange Pass.interface)} {session : Session}

/-- A pass that examines a well-formed resource goes on by the one that it has restored. -/
lemma GoesOn.restored (hG : GoesOn (Turn k key) r h) (hExamined : Examined k key found h r)
    (hValid : r.validate = .ok ()) {x : Except Error (Resource k)}
    (hRestore : Pass.Traces (Lifecycle.restore r) rest x) :
    InTurn (Turn k key) (h ++ rest) ∧ ∀ w, x = .ok w → GoesOn (Turn k key) w (h ++ rest) :=
  hG.restore (.edited hG.last (.restored ⟨found, r, hExamined, hValid⟩)) hRestore

/-- A pass that examines a well-formed resource goes on after it has asked for an account. -/
lemma GoesOn.admitted (hG : GoesOn (Turn k key) w h) (hExamined : Examined k key found h r)
    (hValid : r.validate = .ok ()) (answer : Except Error Session) :
    GoesOn (Turn k key) w (h ++ [⟨.openAccount key.ns, answer⟩]) :=
  hG.opened (.opened hG.last hExamined (.inl (Resource.isWellFormed_iff.2 hValid)) answer)

/-- A pass that examines a well-formed resource goes on by the one that it holds. -/
lemma GoesOn.holding (hG : GoesOn (Turn k key) w h) (hExamined : Examined k key found h r)
    (hValid : r.validate = .ok ()) {x : Except Error (Resource k)}
    (hHold : Pass.Traces (Lifecycle.hold w) rest x) :
    InTurn (Turn k key) (h ++ rest) ∧ ∀ v, x = .ok v → GoesOn (Turn k key) v (h ++ rest) :=
  hG.hold (.edited hG.last (.held ⟨found, r, hExamined, hValid⟩)) hHold

/-- A pass holds the finalizer when the store has returned it, or has taken it. -/
lemma carriesFinalizer_of_hold (hLast : LastWord (Returns r) h)
    (hHold : Pass.Traces (Lifecycle.hold r) rest (.ok w)) :
    LastWord (CarriesFinalizer k) (h ++ rest) := by
  rcases Lifecycle.traces_hold_iff.1 hHold with ⟨hHas, rfl, -⟩ | ⟨-, rfl⟩
  · rw [List.append_nil]
    exact hLast.imp fun y hReturns => .returned hReturns hHas
  · refine lastAmong_concat rfl (.taken ?_)
    rw [Resource.finalizerSet_withFinalizers, Finalizers.has_add]

/-- A pass that is prepared may create or change the entity. -/
lemma GoesOn.prepared (hG : GoesOn (Turn k key) r h) (hExamined : Examined k key found h r)
    {held : Resource k} (hPrepared : Lifecycle.Preparing key r rest session held) :
    Working key held (h ++ rest) := by
  obtain ⟨hValid, hRestore, hHold⟩ := hPrepared
  have hRestored := (hG.restored hExamined hValid hRestore).2 _ rfl
  have hOpened := hRestored.admitted (hExamined.append _) hValid (.ok session)
  have hHeld := (hOpened.holding ((hExamined.append _).append _) hValid hHold).2 _ rfl
  have hCarries := carriesFinalizer_of_hold hOpened.last hHold
  rw [List.append_assoc, List.append_assoc, List.singleton_append] at hHeld hCarries
  refine ⟨hHeld, ⟨found, r, hExamined.append _, hValid⟩, ⟨session, ?_⟩, hCarries⟩
  exact List.mem_append_right h (List.mem_append_right _ List.mem_cons_self)

/-- A pass over a resource that is not being deleted takes turns. -/
lemma GoesOn.living (hG : GoesOn (Turn k key) r h) (hReached : Reached r h)
    (hExamined : Examined k key found h r) {x : Except Error Outcome}
    (hLiving : Lifecycle.Living settings key r rest x) : InTurn (Turn k key) (h ++ rest) := by
  cases hLiving with
  | refused _ hRefuse => exact hG.refuse (.stated hG.last (.failed rfl)) hRefuse
  | unrestored hValid hRestore => exact (hG.restored hExamined hValid hRestore).1
  | @unopened first told restored e hValid hRestore hTold =>
    have hRestored := (hG.restored hExamined hValid hRestore).2 _ rfl
    have hOpened := hRestored.admitted (hExamined.append _) hValid (.error e)
    rw [← List.singleton_append, ← List.append_assoc, ← List.append_assoc]
    exact hOpened.told_failure hTold
  | @unheld first holding restored session e hValid hRestore hHold =>
    have hRestored := (hG.restored hExamined hValid hRestore).2 _ rfl
    have hOpened := hRestored.admitted (hExamined.append _) hValid (.ok session)
    rw [← List.singleton_append, ← List.append_assoc, ← List.append_assoc]
    exact (hOpened.holding ((hExamined.append _).append _) hValid hHold).1
  | synced hPrepared hRecorded hSync =>
    have hSparing := sparing_of_quiet (hReached.prepared hPrepared).quiet
    rw [← List.append_assoc]
    exact (hG.prepared hExamined hPrepared).syncing hSparing hRecorded hSync
  | created hPrepared hUnrecorded hCreate =>
    rw [← List.append_assoc]
    exact (hG.prepared hExamined hPrepared).creating hUnrecorded hCreate

end

/-- A pass over a resource that is being deleted takes turns. -/
lemma GoesOn.dying (hG : GoesOn (Turn k key) r h) (hExamined : Examined k key found h r)
    (hDeleting : found.metadata.isDeleting) {x : Except Error Outcome}
    (hDying : Lifecycle.Dying key r rest x) : InTurn (Turn k key) (h ++ rest) := by
  have hReads : ReadsDeleting k key h := ⟨found, r, hExamined, hDeleting⟩
  -- what is not abandoned is well formed or recorded
  have hOpened (hWanted : ¬Lifecycle.isAbandoned r) (answer : Except Error Session) :
      GoesOn (Turn k key) r (h ++ [⟨.openAccount key.ns, answer⟩]) := by
    refine hG.opened (.opened hG.last hExamined ?_ answer)
    by_cases hRecorded : r.isRecorded
    · exact .inr ⟨hDeleting, hRecorded⟩
    · refine .inl (Classical.byContradiction fun hBroken => hWanted ?_)
      simp [Lifecycle.isAbandoned, hRecorded, hBroken]
  cases hDying with
  | abandoned _ hRelease => exact hG.release (.edited hG.last (.released hReads)) hRelease
  | unopened hWanted e hRelease =>
    have hRefused := hOpened hWanted (.error e)
    rw [← List.singleton_append, ← List.append_assoc]
    exact hRefused.release (.edited hRefused.last (.released (hReads.append _))) hRelease
  | opened hWanted session hDelete =>
    rw [← List.singleton_append, ← List.append_assoc]
    refine (hOpened hWanted (.ok session)).deleting ⟨session, ?_⟩ (hReads.append _) hDelete
    exact List.mem_concat_self

/-- A pass examines the resource that it has greeted. -/
lemma examined_of_greet (hGreet : Pass.Traces (Lifecycle.greet r) rest (.ok w)) :
    Examined k key r (⟨.store (.get k key), .ok (some r)⟩ :: rest) w := by
  rcases Lifecycle.traces_greet_iff.1 hGreet with ⟨hUnset, rfl⟩ | ⟨hSeen, rfl, hSame⟩
  · exact ⟨_, .greeted hUnset w, List.prefix_rfl⟩
  · cases hSame
    exact ⟨_, .seen hSeen, List.prefix_rfl⟩

/-- Every exchange of a pass is made in its turn, whatever is answered. -/
theorem turns_of_passing {x : Except Error Outcome}
    (hPassing : Lifecycle.Passing settings k key h x) : InTurn (Turn k key) h := by
  have hGreets {r : Resource k} {first : List (Exchange Pass.interface)}
      {y : Except Error (Resource k)} (hGreet : Pass.Traces (Lifecycle.greet r) first y) :=
    (goesOn_get key r).greet
      (fun hUnset => .stated (goesOn_get key r).last (.greeted hUnset)) hGreet
  cases hPassing with
  | unread e => exact inTurn_singleton_iff.2 (.read rfl _)
  | absent => exact inTurn_singleton_iff.2 (.read rfl _)
  | lost => exact inTurn_singleton_iff.2 (.read rfl _)
  | ungreeted _ hGreet => exact (hGreets hGreet).1
  | dying hDeleting _ hGreet hDying =>
    rw [← List.cons_append]
    exact ((hGreets hGreet).2 _ rfl).dying (examined_of_greet hGreet) hDeleting hDying
  | living _ hGreet hLiving =>
    have hReached := ((reached_get key _).greet hGreet).2 _ rfl
    rw [← List.cons_append]
    exact ((hGreets hGreet).2 _ rfl).living hReached (examined_of_greet hGreet) hLiving

/-- In the trace of a pass each exchange is made in its turn. -/
lemma turns_of_traces {outcome : Outcome} (hTrace : (reconcile settings k key).Traces h outcome) :
    InTurn (Turn k key) h := by
  obtain ⟨x, hPassing, -⟩ := Lifecycle.passing_of_reconcile hTrace
  exact turns_of_passing hPassing

/-! ## Turns in a site -/

section

variable {δ : Type} {C : Circumstances k δ} {s u v : Site k δ}

/-- What a turn may do to a site: it leaves the stored resource as it is, it states something of it,
or it edits it. -/
inductive Effect (k : Kind) (key : Key) (h : List (Exchange Pass.interface)) (u : Site k δ) :
    Exchange Pass.interface → Site k δ → Prop where
  | left {y : Exchange Pass.interface} {v : Site k δ} (hSame : v.resource = u.resource)
      (hUntaken : ∀ w stored : Resource k, ¬StatusTaken w stored y) : Effect k key h u y v
  | stated {w : Resource k} (hStates : States k key u.resource h w)
      (answer : Except Error (Resource k)) (hTaken : ∀ stored, answer = .ok stored →
        stored = (u.stated w).resource) :
      Effect k key h u ⟨.store (.updateStatus k w), answer⟩ (u.stated w)
  | edited {w : Resource k} (hEdits : Edits k key u.resource h w)
      (answer : Except Error (Resource k)) :
      Effect k key h u ⟨.store (.update k w), answer⟩ (u.written w)

/-- A turn has one of the effects. -/
theorem Turn.effect (hTurn : Turn k key h y) (hPath : (C.surroundings key).Path s h u)
    (hStep : C.surroundings key y.call y.answer u v) : Effect k key h u y v := by
  cases hTurn with
  | read =>
    cases hStep with
    | found => exact .left rfl fun _ _ hTaken => nomatch hTaken
    | absent => exact .left rfl fun _ _ hTaken => nomatch hTaken
    | unread => exact .left rfl fun _ _ hTaken => nomatch hTaken
  | stated hLast hStates answer =>
    -- what is stated of the resource that was returned last is stated of the stored one
    rw [← resource_of_path hPath hLast] at hStates
    cases hStep with
    | stated w =>
      refine .stated hStates _ ?_
      rintro stored ⟨⟩
      rfl
    | statementRefused => exact .left rfl fun _ _ hTaken => nomatch hTaken
    | statementUnnoticed => exact .stated hStates _ fun _ hOk => nomatch hOk
  | edited hLast hEdits answer =>
    rw [← resource_of_path hPath hLast] at hEdits
    cases hStep with
    | written w => exact .edited hEdits _
    | writeRefused => exact .left rfl fun _ _ hTaken => nomatch hTaken
    | writeUnnoticed => exact .edited hEdits _
  | opened => exact .left (resource_of_step hStep rfl) fun _ _ hTaken => nomatch hTaken
  | called _ _ hNeeds =>
    have hOther := Pass.Call.isStore_of_needsAccount hNeeds
    refine .left (resource_of_step hStep hOther) fun w stored hTaken => ?_
    exact absurd (hOther.symm.trans hTaken.isStore) Bool.false_ne_true
  | takenBack => exact .left (resource_of_step hStep rfl) fun _ _ hTaken => nomatch hTaken

end

end IamReconciler
