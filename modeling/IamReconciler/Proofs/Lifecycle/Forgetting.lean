import IamReconciler.Proofs.Lifecycle.Turns

/-!
# When a recorded identifier is forgotten

A resource whose status records a remote entity keeps that record through a pass unless the pass has
been told otherwise.  Four kinds of exchanges are such a warrant: the service confirms that the
entity is gone, it fails to read the entity, it returns an updated entity under another identifier,
or the store returns a resource that records another entity.

The main statement is `warranted_of_loss`: in the trace of any pass, whatever was answered, a status
that is written without the identifier comes after a warrant.  A failure to read is a warrant
whatever its reason, so that a passing failure is enough to forget an entity that exists.
-/

namespace IamReconciler

open Directory (Call)

/-- An exchange after which a pass may write a status under an unwanted identifier in place of
`id`. -/
inductive Warrant (k : Kind) (id : String) (unwanted : String → Prop) :
    Exchange Pass.interface → Prop where
  /-- A deletion of the entity was answered by success, or by there being no such entity. -/
  | gone {c : Call} {answer : c.Answer} (hDeletes : c.deletes? = some (k.entity id))
      (hAbsent : (Directory.failure? answer).all (·.isNotFound)) :
      Warrant k id unwanted ⟨.directory c, answer⟩
  /-- The entity, or the members of a group, could not be read. -/
  | unreadable {c : Call} {e : RemoteError} (hReads : c.reads? = some (k.entity id)) :
      Warrant k id unwanted ⟨.directory c, .error e⟩
  /-- An update of the entity was answered with an entity of an unwanted identifier. -/
  | renamed {c : Call} {v : c.Value} {new : String} (hUpdates : c.updates? = some (k.entity id))
      (hNew : c.updatedId? v = some new) (hUnwanted : unwanted new) :
      Warrant k id unwanted ⟨.directory c, .ok v⟩
  /-- A write of metadata and spec was answered with a resource that records another entity. -/
  | rewritten {w stored : Resource k} (hOther : stored.remoteId ≠ id) :
      Warrant k id unwanted ⟨.store (.update k w), .ok stored⟩
  /-- A write of the status was answered with a resource that records another entity. -/
  | restated {w stored : Resource k} (hOther : stored.remoteId ≠ id) :
      Warrant k id unwanted ⟨.store (.updateStatus k w), .ok stored⟩

namespace Forgetting

variable {settings : Settings} {k : Kind} {key : Key} {id : String} {unwanted : String → Prop}
  {h before : List (Exchange Pass.interface)} {r found w : Resource k}

/-- There was a warrant. -/
def Warranted (k : Kind) (id : String) (unwanted : String → Prop)
    (h : List (Exchange Pass.interface)) : Prop :=
  ∃ y ∈ h, Warrant k id unwanted y

/-- A resource that the store returns is recorded as the one that was read, unless there was a
warrant. -/
lemma follows_of_returned (hTurns : InTurn (Turn k key) h)
    (hFound : h.head? = some ⟨.store (.get k key), .ok (some found)⟩)
    (hLast : LastWord (Returns r) h) :
    r.remoteId = found.remoteId ∨ Warranted k found.remoteId unwanted h := by
  obtain ⟨earlier, y, since, rfl, -, hReturns, -⟩ := hLast
  have hTurn := hTurns earlier y since rfl
  refine or_iff_not_imp_left.2 fun hOther => ⟨y, List.mem_append_right _ List.mem_cons_self, ?_⟩
  cases hReturns with
  | get =>
    -- the store is read once, at the start
    cases hTurn with
    | read hFirst =>
      obtain rfl := hFirst
      cases hFound
      exact absurd rfl hOther
    | called _ _ hNeeds => exact absurd hNeeds Bool.false_ne_true
  | update => exact .rewritten hOther
  | updateStatus => exact .restated hOther

/-- A status of a recorded resource is under an unwanted identifier for a warrant only. -/
lemma warranted_of_states (hWanted : ¬unwanted r.remoteId) (hRecorded : r.isRecorded)
    (hStates : States k key r h w) (hLoss : unwanted w.remoteId) :
    Warranted k r.remoteId unwanted h := by
  cases hStates with
  | greeted => exact absurd hLoss hWanted
  | failed => exact absurd hLoss hWanted
  | synchronized => exact absurd hLoss hWanted
  | forgotten hMem hUnread =>
    cases hUnread with
    | read hReads => exact ⟨_, hMem, .unreadable hReads⟩
  | created hUnrecorded => exact absurd hRecorded hUnrecorded
  | updated _ _ hMem hGoesBy =>
    rw [Resource.remoteId_moveTo, Resource.remoteId_recordApplied] at hLoss
    cases hGoesBy with
    | own _ hOwn =>
      rw [hOwn] at hLoss
      exact absurd hLoss hWanted
    | returned hUpdates hNew => exact ⟨_, hMem, .renamed hUpdates hNew hLoss⟩
  | deleted _ hGone =>
    obtain ⟨y, hMem, hGone⟩ := hGone hRecorded
    cases hGone with
    | directory hDeletes hAbsent => exact ⟨_, hMem, .gone hDeletes hAbsent⟩

end Forgetting

/-- In the trace of a pass over a recorded resource, a status under an unwanted identifier comes
after a warrant, whatever the store, the accounts, the references and the service answer.  With the
empty identifier as the only unwanted one this says when a pass may forget the entity; with all
others unwanted, when it may record another one. -/
theorem warranted_of_loss {settings : Settings} {k : Kind} {key : Key} {r w : Resource k}
    {trace before after : List (Exchange Pass.interface)} {y : Exchange Pass.interface}
    {outcome : Outcome} {unwanted : String → Prop}
    (hRun : (reconcile settings k key).Runs (.free _) () trace outcome ())
    (hFound : trace.head? = some ⟨.store (.get k key), .ok (some r)⟩) (hRecorded : r.isRecorded)
    (hWanted : ¬unwanted r.remoteId) (hTrace : trace = before ++ y :: after)
    (hWrite : y.call = .store (.updateStatus k w)) (hLoss : unwanted w.remoteId) :
    ∃ z ∈ before, Warrant k r.remoteId unwanted z := by
  have hTurns := turns_of_traces (Program.runs_iff.1 hRun).1
  subst hTrace
  have hBefore := (inTurn_append_iff.1 hTurns).1
  obtain ⟨c, answer⟩ := y
  cases hWrite
  cases hTurns before _ after rfl with
  | called _ _ hNeeds => exact absurd hNeeds Bool.false_ne_true
  | @stated r' _ hLast hStates =>
    have hRead : before.head? = some ⟨.store (.get k key), .ok (some r)⟩ := by
      obtain ⟨earlier, z, since, rfl, -⟩ := hLast
      cases earlier <;> exact hFound
    -- the status is written of the resource that the store has returned last
    rcases Forgetting.follows_of_returned hBefore hRead hLast with hSame | hWarranted
    · rw [← hSame] at hWanted ⊢
      refine Forgetting.warranted_of_states hWanted ?_ hStates hLoss
      rwa [Resource.isRecorded_iff, hSame, ← Resource.isRecorded_iff]
    · exact hWarranted

/-! ## A role that cannot be read -/

namespace Reader

/-- A custom role that is recorded and has its finalizer. -/
def recorded : Resource .customRole where
  metadata :=
    { name := some "reader", ns := some "team", finalizers := some [Kind.customRole.finalizer] }
  spec := ⟨"Reader", "storage", "Reader", "", ["read"]⟩
  status := some ⟨.created .customRole, ⟨"role-1", "crn:role-1"⟩,
    ⟨"Reader", "storage", "Reader", "", ["read"]⟩⟩

/-- The failure of a read that has nothing to do with the role. -/
def timeout : RemoteError := .request "timeout" true

/-- The role after a pass in which reading it timed out. -/
def forgotten : Resource .customRole :=
  (recorded.moveTo
    (.failure .customRole .retrieve (.remote "get custom role" timeout))).forgetRemote

/-- What such a pass does before it writes the status. -/
def timeoutTrace : List (Exchange Pass.interface) :=
  [ ⟨.store (.get .customRole ⟨"team", "reader"⟩), .ok (some recorded)⟩,
    ⟨.openAccount "team", .ok ⟨"account"⟩⟩,
    ⟨.directory (.getRole "role-1"), .error timeout⟩ ]

/-- The pass in which reading the role timed out. -/
lemma runs_timeout :
    (reconcile {} .customRole ⟨"team", "reader"⟩).Runs (.free _) ()
      (timeoutTrace ++ [⟨.store (.updateStatus .customRole forgotten), .ok forgotten⟩])
      ⟨some 150, some (.remote "get custom role" timeout)⟩ () :=
  .answered _ <| .answered _ <| .answered _ <| .answered _ <| .done _ _

end Reader

/-- The role that could not be read was forgotten after a warrant. -/
theorem warranted_of_timeout : ∃ z ∈ Reader.timeoutTrace, Warrant .customRole "role-1" (· = "") z :=
  warranted_of_loss (r := Reader.recorded) (w := Reader.forgotten) Reader.runs_timeout rfl rfl
    (by decide) rfl rfl rfl

/-- The service says that an entity does not exist: a deletion of it succeeded, or a call that names
it was answered by there being no such entity. -/
inductive SaysGone (k : Kind) (id : String) : Exchange Pass.interface → Prop where
  | deleted {c : Call} {v : c.Value} (hDeletes : c.deletes? = some (k.entity id)) :
      SaysGone k id ⟨.directory c, .ok v⟩
  | unknown {c : Call} {e : RemoteError} (hNames : c.names? = some (k.entity id))
      (hNotFound : e.isNotFound) : SaysGone k id ⟨.directory c, .error e⟩

/-- A pass may forget an entity although the service never says that it does not exist. -/
theorem forgotten_without_absence :
    ¬∀ (settings : Settings) (k : Kind) (key : Key) (r w : Resource k)
      (trace : List (Exchange Pass.interface)) (y : Exchange Pass.interface) (outcome : Outcome),
      (reconcile settings k key).Runs (.free _) () trace outcome () →
      trace.head? = some ⟨.store (.get k key), .ok (some r)⟩ → r.isRecorded →
      y ∈ trace → y.call = .store (.updateStatus k w) → w.remoteId = "" →
      ∃ z ∈ trace, SaysGone k r.remoteId z := by
  intro hClaim
  obtain ⟨z, hMem, hGone⟩ := hClaim {} .customRole ⟨"team", "reader"⟩ Reader.recorded
    Reader.forgotten _ _ _ Reader.runs_timeout
    rfl rfl (List.mem_append_right _ List.mem_cons_self) rfl rfl
  simp only [Reader.timeoutTrace, List.cons_append, List.nil_append, List.mem_cons,
    List.not_mem_nil, or_false] at hMem
  rcases hMem with rfl | rfl | rfl | rfl
  · nomatch hGone
  · nomatch hGone
  · cases hGone with
    | unknown _ hNotFound => exact Bool.false_ne_true hNotFound
  · nomatch hGone

end IamReconciler
