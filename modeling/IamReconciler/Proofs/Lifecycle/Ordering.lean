import IamReconciler.Proofs.Lifecycle.Turns

/-!
# The order of the calls of a pass

A pass may be cut short at any call: by an error that is answered, or because the operator stops.
What it has done by then must be safe to leave and safe to start over from, and that is a matter of
the order of its calls.  The account is opened only for a resource that was examined; what needs an
account comes after it was opened; an entity is created only while the last word of the store is a
resource with the finalizer; and a write that fails before anything was asked of the remote service
is the end.

The order is stated as a rule about each exchange and those before it (`MayFollow`).  It holds of
each turn of a pass (`Turn.mayFollow`), and so the main statement, `mayFollow_of_run`, holds in the
trace of any pass, whatever was answered.
-/

namespace IamReconciler

open Directory (Call)

/-- An exchange may follow others in a pass that has read `r`. -/
structure MayFollow (k : Kind) (key : Key) (r : Resource k)
    (before : List (Exchange Pass.interface)) (y : Exchange Pass.interface) : Prop where
  /-- The account is opened for a resource that is well formed, or that is being deleted and is
  recorded. -/
  resolves : ∀ ns, y.call = .openAccount ns → ns = key.ns ∧
    ∃ x, Examined k key r before x ∧ (x.isWellFormed ∨ r.metadata.isDeleting ∧ x.isRecorded)
  /-- What needs an account comes after it was opened. -/
  opened : y.call.needsAccount → ∃ session, ⟨.openAccount key.ns, .ok session⟩ ∈ before
  /-- An entity is created while the last word of the store is a resource with the finalizer. -/
  held : ∀ c, y.call = .directory c → c.creates?.isSome → LastWord (CarriesFinalizer k) before
  /-- Metadata is written of a resource that is well formed or is being deleted. -/
  edits : y.call.writesMetadata →
    ∃ x, Examined k key r before x ∧ (x.isWellFormed ∨ r.metadata.isDeleting)
  /-- No write has failed, unless the remote service had been called before. -/
  unbroken : InTurn (fun earlier z => WriteFailed z → CalledRemote earlier) before

namespace Ordering

variable {settings : Settings} {k : Kind} {key : Key} {r : Resource k}
  {h rest : List (Exchange Pass.interface)} {y : Exchange Pass.interface}

/-- What a pass examines comes of the resource that it has read. -/
lemma found_of_examined {found x : Resource k} (hExamined : Examined k key found h x)
    (hFound : (h ++ rest).head? = some ⟨.store (.get k key), .ok (some r)⟩) : found = r := by
  rw [List.head?_append, hExamined.head?, Option.some_or] at hFound
  cases hFound
  rfl

/-- A pass that examines a well-formed resource may write metadata. -/
lemma edits_of_valid {x : Resource k} (hExamined : Examined k key r h x)
    (hValid : x.validate = .ok ()) :
    ∃ x, Examined k key r h x ∧ (x.isWellFormed ∨ r.metadata.isDeleting) :=
  ⟨x, hExamined, .inl (Resource.isWellFormed_iff.2 hValid)⟩

/-- Each turn of a pass that has read `r` may follow what was before it. -/
lemma mayFollow_of_turn (hTurn : Turn k key h y)
    (hFound : ∀ found x : Resource k, Examined k key found h x → found = r)
    (hUnbroken : InTurn (fun earlier z => WriteFailed z → CalledRemote earlier) h) :
    MayFollow k key r h y := by
  -- a read or a status is under no rule but the last one
  cases hTurn with
  | read => exact ⟨nofun, nofun, nofun, nofun, hUnbroken⟩
  | stated => exact ⟨nofun, nofun, nofun, nofun, hUnbroken⟩
  | edited _ hEdits =>
    refine ⟨nofun, nofun, nofun, fun _ => ?_, hUnbroken⟩
    cases hEdits with
    | restored hValid =>
      obtain ⟨found, x, hExamined, hValid⟩ := hValid
      obtain rfl := hFound found x hExamined
      exact edits_of_valid hExamined hValid
    | held hValid =>
      obtain ⟨found, x, hExamined, hValid⟩ := hValid
      obtain rfl := hFound found x hExamined
      exact edits_of_valid hExamined hValid
    | released hReads =>
      obtain ⟨found, x, hExamined, hDeleting⟩ := hReads
      obtain rfl := hFound found x hExamined
      exact ⟨x, hExamined, .inr hDeleting⟩
  | opened _ hExamined hMay =>
    obtain rfl := hFound _ _ hExamined
    refine ⟨?_, nofun, nofun, nofun, hUnbroken⟩
    rintro _ ⟨⟩
    exact ⟨rfl, _, hExamined, hMay⟩
  | called _ hOpened hNeeds hHeld =>
    refine ⟨fun ns hCall => ?_, fun _ => hOpened, hHeld, fun hWrites => ?_, hUnbroken⟩
    · rw [hCall] at hNeeds
      exact absurd hNeeds Bool.false_ne_true
    · -- what needs an account is no call of the store
      have hOther := Pass.Call.isStore_of_needsAccount hNeeds
      exact absurd (hOther.symm.trans (Pass.Call.isStore_of_writesMetadata hWrites))
        Bool.false_ne_true
  | takenBack hOpened _ hDeletes =>
    refine ⟨nofun, fun _ => hOpened, ?_, nofun, hUnbroken⟩
    rintro _ ⟨⟩ hCreates
    rw [Call.creates?_of_deletes? hDeletes] at hCreates
    exact absurd hCreates Bool.false_ne_true

/-- A resource that no pass has seen is first written as pending, unless the pass ends early, and
nothing follows when that fails. -/
lemma greeted_of_passing {x : Except Error Outcome}
    (hPassing : Lifecycle.Passing settings k key h x)
    (hFound : h.head? = some ⟨.store (.get k key), .ok (some r)⟩) (hUnset : r.isUnset)
    (hHeld : r.metadata.isDeleting → r.metadata.finalizerSet.has k.finalizer) :
    ∃ answer rest, h = ⟨.store (.get k key), .ok (some r)⟩ ::
        ⟨.store (.updateStatus k (r.moveTo .processing)), answer⟩ :: rest ∧
      ∀ e, answer = .error e → rest = [] := by
  -- every course that goes on greets, and to greet such a resource is to write it as pending
  have hGreets {first : List (Exchange Pass.interface)} {z : Except Error (Resource k)}
      (hGreet : Pass.Traces (Lifecycle.greet r) first z) :
      first = [⟨.store (.updateStatus k (r.moveTo .processing)), z⟩] := by
    rcases Lifecycle.traces_greet_iff.1 hGreet with ⟨-, hFirst⟩ | ⟨hSeen, -⟩
    · exact hFirst
    · exact absurd hUnset hSeen
  cases hPassing with
  | unread => cases hFound
  | absent => cases hFound
  | lost hDeleting hLost =>
    cases hFound
    exact absurd (hHeld hDeleting) hLost
  | ungreeted _ hGreet =>
    cases hFound
    obtain rfl := hGreets hGreet
    exact ⟨_, [], rfl, fun _ _ => rfl⟩
  | dying _ _ hGreet =>
    cases hFound
    obtain rfl := hGreets hGreet
    exact ⟨_, _, rfl, nofun⟩
  | living _ hGreet =>
    cases hFound
    obtain rfl := hGreets hGreet
    exact ⟨_, _, rfl, nofun⟩

/-- Each exchange of a pass may follow those before it. -/
lemma inTurn_of_turns (hTurns : InTurn (Turn k key) h)
    (hFound : h.head? = some ⟨.store (.get k key), .ok (some r)⟩) :
    InTurn (MayFollow k key r) h := by
  -- whether an exchange may follow depends on those before it alone, so that the rest is cut off
  intro before y after hSplit
  have hEarlier : InTurn (Turn k key) (before ++ [y]) := by
    rw [hSplit, ← List.singleton_append, ← List.append_assoc] at hTurns
    exact (inTurn_append_iff.1 hTurns).1
  refine mayFollow_of_turn (inTurn_concat_iff.1 hEarlier).2 (fun found x hExamined => ?_)
    (calledRemote_of_writeFailed hEarlier)
  rw [hSplit] at hFound
  exact found_of_examined hExamined hFound

/-- Nothing follows a write that fails before the service was called. -/
lemma eq_nil_of_writeFailed (hInTurn : InTurn (MayFollow k key r) h)
    {before after : List (Exchange Pass.interface)} (hSplit : h = before ++ y :: after)
    (hFailed : WriteFailed y) (hUncalled : ¬CalledRemote before) : after = [] := by
  cases after with
  | nil => rfl
  | cons z rest =>
    have hMay : MayFollow k key r (before ++ [y]) z := by
      refine hInTurn (before ++ [y]) z rest ?_
      rw [hSplit, List.append_assoc, List.singleton_append]
    exact absurd (hMay.unbroken before y [] rfl hFailed) hUncalled

/-- Nothing but statuses is written, and nothing is asked of other parties than the store, where no
well-formed resource is examined and the resource is not being deleted. -/
lemma silent_of_broken (hInTurn : InTurn (MayFollow k key r) h)
    (hBroken : ∀ x, Examined k key r h x → ¬x.isWellFormed) (hLiving : ¬r.metadata.isDeleting) :
    ∀ y ∈ h, ¬y.call.needsAccount ∧ ¬y.call.writesMetadata ∧ ∀ ns, y.call ≠ .openAccount ns := by
  -- nothing that is examined at some point of the trace lets the pass go on
  have hNever {before after : List (Exchange Pass.interface)} (hSplit : h = before ++ after)
      {x : Resource k} (hExamined : Examined k key r before x) : ¬x.isWellFormed := by
    obtain ⟨opening, hOpening, hPrefix⟩ := hExamined
    refine hBroken x ⟨opening, hOpening, hPrefix.trans ?_⟩
    rw [hSplit]
    exact List.prefix_append before after
  have hUnopened (z : Exchange Pass.interface) (hMem : z ∈ h) (ns : String) :
      z.call ≠ .openAccount ns := by
    intro hCall
    obtain ⟨before, after, hSplit⟩ := List.append_of_mem hMem
    obtain ⟨-, x, hExamined, hMay⟩ := (hInTurn before z after hSplit).resolves ns hCall
    rcases hMay with hValid | ⟨hDeleting, -⟩
    · exact hNever hSplit hExamined hValid
    · exact hLiving hDeleting
  intro y hMem
  obtain ⟨before, after, hSplit⟩ := List.append_of_mem hMem
  have hMay := hInTurn before y after hSplit
  refine ⟨fun hNeeds => ?_, fun hWrites => ?_, hUnopened y hMem⟩
  · obtain ⟨session, hOpened⟩ := hMay.opened hNeeds
    refine hUnopened ⟨.openAccount key.ns, .ok session⟩ ?_ key.ns rfl
    rw [hSplit]
    exact List.mem_append_left _ hOpened
  · obtain ⟨x, hExamined, hValid | hDeleting⟩ := hMay.edits hWrites
    · exact hNever hSplit hExamined hValid
    · exact hLiving hDeleting

end Ordering

/-- In the trace of a pass over any resource that the store has returned, whatever the store, the
accounts, the references and the service answer: each exchange may follow those before it; a
resource that no pass has seen is first written as pending, unless the pass ends early, and nothing
follows when that fails; nothing but statuses is written, and nothing is asked of the accounts, the
references and the service, as long as no well-formed resource is examined and the resource is not
being deleted; and nothing follows a write that fails before the service was called. -/
theorem mayFollow_of_run {settings : Settings} {k : Kind} {key : Key} {r : Resource k}
    {trace : List (Exchange Pass.interface)} {outcome : Outcome}
    (hRun : (reconcile settings k key).Runs (.free _) () trace outcome ())
    (hFound : trace.head? = some ⟨.store (.get k key), .ok (some r)⟩) :
    (∀ before y after, trace = before ++ y :: after → MayFollow k key r before y) ∧
      (r.isUnset → (r.metadata.isDeleting → r.metadata.finalizerSet.has k.finalizer) →
        ∃ answer rest,
          trace = ⟨.store (.get k key), .ok (some r)⟩ ::
              ⟨.store (.updateStatus k (r.moveTo .processing)), answer⟩ :: rest ∧
            ∀ e, answer = .error e → rest = []) ∧
      ((∀ x, Examined k key r trace x → ¬x.isWellFormed) → ¬r.metadata.isDeleting →
        ∀ y ∈ trace, ¬y.call.needsAccount ∧ ¬y.call.writesMetadata ∧
          ∀ ns, y.call ≠ .openAccount ns) ∧
      ∀ before y after, trace = before ++ y :: after → WriteFailed y → ¬CalledRemote before →
        after = [] := by
  have hTrace := (Program.runs_iff.1 hRun).1
  obtain ⟨x, hPassing, -⟩ := Lifecycle.passing_of_reconcile hTrace
  have hInTurn := Ordering.inTurn_of_turns (turns_of_passing hPassing) hFound
  exact ⟨hInTurn, Ordering.greeted_of_passing hPassing hFound, Ordering.silent_of_broken hInTurn,
    fun _ _ _ hSplit => Ordering.eq_nil_of_writeFailed hInTurn hSplit⟩

/-! ## A group that is taken back -/

namespace Auditors

/-- An access group that no pass has seen. -/
def unseen : Resource .accessGroup where
  metadata := { name := some "auditors", ns := some "team" }
  spec := ⟨"auditors", "", [], ["ServiceId-1"]⟩
  status := none

/-- The group after it was written as pending. -/
def pending : Resource .accessGroup := unseen.moveTo .processing

/-- The group after it was given the finalizer. -/
def held : Resource .accessGroup :=
  pending.withFinalizers (pending.metadata.finalizerSet.add Kind.accessGroup.finalizer)

/-- The store does not take a write. -/
def storeDown : Error := .internal "store is down" "store"

/-- The calls of a pass that creates the group, cannot record it, and deletes it again. -/
def takenBackTrace : List (Exchange Pass.interface) :=
  [ ⟨.store (.get .accessGroup ⟨"team", "auditors"⟩), .ok (some unseen)⟩,
    ⟨.store (.updateStatus .accessGroup pending), .ok pending⟩,
    ⟨.openAccount "team", .ok ⟨"account"⟩⟩,
    ⟨.store (.update .accessGroup held), .ok held⟩,
    ⟨.directory (.findGroups "auditors" "account"), .ok []⟩,
    ⟨.directory (.createGroup (AccessGroups.request unseen.spec) "account"),
      .ok ⟨"group-1", "auditors", ownedDescription ""⟩⟩,
    ⟨.directory (.getServiceIdentity "ServiceId-1"), .ok ⟨"ServiceId-1", "iam-1"⟩⟩,
    ⟨.directory (.addMembers "group-1" [⟨"iam-1", .service⟩]), .ok ()⟩,
    ⟨.store (.updateStatus .accessGroup ((held.recordApplied ⟨"group-1", none⟩).moveTo
      (.created .accessGroup))), .error storeDown⟩,
    ⟨.directory (.deleteGroup "group-1"), .ok ()⟩ ]

/-- The pass that takes the group back. -/
lemma runs_takenBack :
    (reconcile {} .accessGroup ⟨"team", "auditors"⟩).Runs (.free _) () takenBackTrace
      (.failure storeDown) () :=
  .answered _ <| .answered _ <| .answered _ <| .answered _ <| .answered _ <|
  .answered _ <| .answered _ <|
    .answered _ <| .answered _ <| .answered _ <| .done _ _

end Auditors

/-- The pass that takes the group back writes it as pending first, and each of its calls may follow
those before it. -/
theorem mayFollow_of_takenBack :
    (∃ answer rest,
      Auditors.takenBackTrace =
        ⟨.store (.get .accessGroup ⟨"team", "auditors"⟩), .ok (some Auditors.unseen)⟩ ::
          ⟨.store (.updateStatus .accessGroup Auditors.pending), answer⟩ :: rest) ∧
      ∀ before y after, Auditors.takenBackTrace = before ++ y :: after →
        MayFollow .accessGroup ⟨"team", "auditors"⟩ Auditors.unseen before y := by
  obtain ⟨hMay, hGreeted, -⟩ := mayFollow_of_run Auditors.runs_takenBack rfl
  obtain ⟨answer, rest, hTrace, -⟩ := hGreeted rfl fun hDeleting =>
    absurd hDeleting Bool.false_ne_true
  exact ⟨⟨answer, rest, hTrace⟩, hMay⟩

end IamReconciler
