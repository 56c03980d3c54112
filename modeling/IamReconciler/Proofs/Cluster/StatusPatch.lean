import IamReconciler.Cluster.Client
import IamReconciler.Cluster.Server
import IamReconciler.Proofs.Resource.Changes
import IamReconciler.Proofs.Resource.Formats
import IamReconciler.Proofs.Runs

/-!
# Status patches

A status is written as a patch that the API server merges into the stored status.  What was stored
before the write is gone afterwards, except for one field: the reference to a declared group in the
subject of an access policy is not written when there is none, so that an older reference lingers.
Then the resource that is read again is not in the state that was written, and its spec seems to
have drifted for ever.

The main statement is `holds_over_of_patch`.  It says which status is stored after a write over any
older status, that this is the written one exactly when no reference lingers, and that a lingering
reference is the only cause of drift after the applied spec was recorded.  Its conclusion has the
form of its assumption, so that it can be used write after write.
-/

namespace IamReconciler

/-! ## What lingers -/

namespace Kind

variable {k : Kind}

/-- The spec that is recorded names no declared group, and the older one does. -/
def lingers : (k : Kind) → k.Spec → Option k.Spec → Bool
  | .accessPolicy =>
      fun new old => new.subject.accessGroupDef.isNone &&
      (old.bind (·.subject.accessGroupDef)).isSome
  | .accessGroup => fun _ _ => false
  | .authorizationPolicy => fun _ _ => false
  | .customRole => fun _ _ => false

/-- A spec with what stays of an older one is that spec when nothing lingers. -/
lemma appliedOver_eq_iff {new : k.Spec} {old : Option k.Spec} :
    k.appliedOver new old = new ↔ k.lingers new old = false := by
  cases k with
  | accessPolicy =>
    obtain ⟨⟨userEmail, serviceId, accessGroupId, accessGroupDef⟩, roles, target⟩ := new
    cases accessGroupDef <;> cases old <;> simp [appliedOver, lingers, PolicySubject.laidOver]
  | accessGroup => exact iff_of_true rfl rfl
  | authorizationPolicy => exact iff_of_true rfl rfl
  | customRole => exact iff_of_true rfl rfl

/-- A spec differs from itself with what stays of an older one when something lingers. -/
lemma differs_appliedOver (spec : k.Spec) (old : Option k.Spec) :
    k.differs spec (k.appliedOver spec old) = k.lingers spec old := by
  cases hLingers : k.lingers spec old with
  | false => rw [appliedOver_eq_iff.2 hLingers, differs_self]
  | true =>
    cases k with
    | accessPolicy =>
      have hSubject : spec.subject ≠ (Kind.accessPolicy.appliedOver spec old).subject := by
        intro hSame
        have hOver : Kind.accessPolicy.appliedOver spec old = spec := by
          rw [show Kind.accessPolicy.appliedOver spec old =
            { spec with subject := (Kind.accessPolicy.appliedOver spec old).subject }
            from rfl, ← hSame]
        rw [appliedOver_eq_iff.1 hOver] at hLingers
        cases hLingers
      simp [differs, AccessPolicySpec.differs, hSubject]
    | accessGroup => cases hLingers
    | authorizationPolicy => cases hLingers
    | customRole => cases hLingers

end Kind

namespace Resource

variable {k : Kind} {r acc : Resource k} {s : Status k} {entries : List (String × Json)}

/-! ## Objects with another status -/

/-- A field other than the status is read alike under every status. -/
lemma read_withStatus {field : Field (Resource k)} {name : String} {value : Json}
    (hField : (record k).field? false name = some field) (hName : name ≠ "status") :
    field.read value (acc.withStatus s) = (field.read value acc).map (·.withStatus s) := by
  have hMem := List.mem_of_find?_eq_some hField
  have hNamed : field.name = name := by
    have hFound := List.find?_some hField
    simp only [Bool.and_eq_true, decide_eq_true_eq] at hFound
    exact hFound.1
  simp only [record, List.mem_cons, List.not_mem_nil, or_false] at hMem
  rcases hMem with rfl | rfl | rfl
  · change ((Metadata.record.format.read value).map _ : Except ReadFault (Resource k)) = _
    cases hRead : Metadata.record.format.read value <;> simp [Slot.required, Slot.field, Except.map,
      hRead, withStatus]
  · change (((k.specRecord).format.read value).map _ : Except ReadFault (Resource k)) = _
    cases hRead : k.specRecord.format.read value <;> simp [Slot.required, Slot.field, Except.map,
      hRead, withStatus]
  · exact absurd hNamed.symm hName

/-- Fields other than the status are read alike under every status. -/
lemma readEntries_withStatus (hOther : ∀ entry ∈ entries, entry.1 ≠ "status")
    (hRead : (record k).readEntries false entries acc = .ok r) :
    (record k).readEntries false entries (acc.withStatus s) = .ok (r.withStatus s) := by
  induction entries generalizing acc with
  | nil =>
    cases hRead
    rfl
  | cons entry rest ih =>
    obtain ⟨hFirst, hRest⟩ := List.forall_mem_cons.1 hOther
    rw [Record.readEntries_cons] at hRead ⊢
    cases hField : (record k).field? false entry.1 with
    | none =>
      rw [hField] at hRead
      exact ih hRest hRead
    | some field =>
      rw [hField] at hRead
      simp only [read_withStatus hField hFirst]
      cases hValue : field.read entry.2 acc with
      | error e =>
        simp only [hValue] at hRead
        cases hRead
      | ok next =>
        simp only [hValue] at hRead
        exact ih hRest hRead

/-- A written status is read into its place. -/
lemma readEntries_status :
    (record k).readEntries false (("status", (Status.record k).format.write s) :: entries) acc =
      (record k).readEntries false entries (acc.withStatus s) := by
  rw [Record.readEntries_cons]
  change ((((Status.record k).format.nullable.read ((Status.record k).format.write s)).map _ :
    Except ReadFault (Resource k)) >>= _) = _
  rw [(Status.faithful k).read_nullable]
  rfl

/-- What comes after the status of an object is read under another status alike. -/
lemma readEntries_replaced {entry : String × Json} (hName : entry.1 = "status")
    (hOther : ∀ other ∈ entries, other.1 ≠ "status")
    (hRead : (record k).readEntries false (entry :: entries) acc = .ok r) :
    (record k).readEntries false entries (acc.withStatus s) = .ok (r.withStatus s) := by
  rw [Record.readEntries_cons, hName] at hRead
  change ((((Status.record k).format.nullable.read entry.2).map _ :
    Except ReadFault (Resource k)) >>= _) = _ at hRead
  cases hOld : (Status.record k).format.nullable.read entry.2 with
  | error e =>
    rw [hOld] at hRead
    cases hRead
  | ok old =>
    rw [hOld] at hRead
    have hNext : (record k).readEntries false entries { acc with status := old } = .ok r := hRead
    have hRest := readEntries_withStatus (s := s) hOther hNext
    exact hRest

/-- An object is read under another status when that is put in the place of the old one. -/
lemma readEntries_insert (hSorted : Entries.Sorted entries)
    (hRead : (record k).readEntries false entries acc = .ok r) :
    (record k).readEntries false
      (Entries.insert "status" ((Status.record k).format.write s) entries) acc =
        .ok (r.withStatus s) := by
  induction entries generalizing acc with
  | nil =>
    cases hRead
    exact readEntries_status
  | cons entry rest ih =>
    obtain ⟨hFirst, hRest⟩ := List.pairwise_cons.1 hSorted
    -- the names are in order, so that no status is left to come once its place is reached
    have hOther (hLe : entry.1 = "status" ∨ "status" < entry.1) (other) (hMem : other ∈ rest) :
        other.1 ≠ "status" := by
      intro hEq
      have hLt := hFirst other hMem
      rw [hEq] at hLt
      rcases hLe with hLe | hLe
      · exact String.lt_irrefl _ (hLe ▸ hLt)
      · exact String.lt_irrefl _ (String.lt_trans hLt hLe)
    unfold Entries.insert
    split
    · rename_i hEq
      rw [readEntries_status]
      exact readEntries_replaced hEq.symm (hOther (.inl hEq.symm)) hRead
    · split
      · -- there was no status, and the new one is put before the first greater name
        rename_i hLt
        rw [readEntries_status]
        exact readEntries_withStatus (List.forall_mem_cons.2 ⟨fun h => String.lt_irrefl _ (h ▸ hLt),
          hOther (.inr hLt)⟩) hRead
      · rw [Record.readEntries_cons] at hRead ⊢
        cases hField : (record k).field? false entry.1 with
        | none =>
          rw [hField] at hRead
          exact ih hRest hRead
        | some field =>
          rw [hField] at hRead
          cases hValue : field.read entry.2 acc with
          | error e =>
            simp only [hValue] at hRead
            cases hRead
          | ok next =>
            simp only [hValue] at hRead ⊢
            exact ih hRest hRead

/-- An object is read as a resource in two steps: its fields are read, and none of those required is
missing. -/
lemma ofJson_eq_ok_iff :
    ofJson k (.obj entries) = .ok r ↔
      (record k).readEntries false entries (record k).blank = .ok r ∧
        (record k).firstMissing? (entries.map Prod.fst) = none := by
  change (record k).readObject entries = .ok r ↔ _
  rw [Record.readObject]
  cases (record k).readEntries false entries (record k).blank with
  | error e => exact iff_of_false (fun h => nomatch h) fun h => nomatch h.1
  | ok first =>
    cases (record k).firstMissing? (entries.map Prod.fst) with
    | some name => exact iff_of_false (fun h => nomatch h) fun h => nomatch h.2
    | none =>
      have hInline : (record k).readEntries true entries first = .ok first :=
        Record.readEntries_inline
          (by simp [record, Slot.required, Slot.field, Field.absentable, Field.byName]) _ _
      exact ⟨fun h => ⟨hInline.symm.trans h, rfl⟩, fun h => hInline.trans h.1⟩

/-- An object whose status was replaced is read as the resource with that status. -/
lemma ofJson_insert_status (hSorted : Entries.Sorted entries)
    (hRead : ofJson k (.obj entries) = .ok r) :
    ofJson k (.obj (Entries.insert "status" ((Status.record k).format.write s) entries)) = .ok
      (r.withStatus s) := by
  obtain ⟨hEntries, hGiven⟩ := ofJson_eq_ok_iff.1 hRead
  exact ofJson_eq_ok_iff.2 ⟨readEntries_insert hSorted hEntries,
    Record.firstMissing?_eq_none (fun _ => Entries.mem_names_insert) hGiven⟩

end Resource

namespace Cluster

variable {k : Kind} {r held : Resource k} {s : Status k} {o o' : Objects} {key : Key}
    {manager path : String}

/-! ## Status writes -/

namespace Objects

/-- The API server that keeps these objects and answers every request. -/
def server : Surroundings interface Objects :=
  fun request answer before after => answer = .ok (before.reply request).1 ∧
    after = (before.reply request).2

/-- The object at a path is read as a resource, and its status is the written one, or there is
none. -/
def Holds (o : Objects) (path : String) (r : Resource k) : Prop :=
  ∃ entries, o.get? path = some (.obj entries) ∧ Entries.Sorted entries ∧
    (Json.obj entries).field "status" = Json.ofOption (Status.record k).format.write r.status ∧
    Resource.ofJson k (.obj entries) = .ok r

/-- An object is read as one resource only. -/
lemma Holds.unique {r held : Resource k} (h : o.Holds path r) (hHeld : o.Holds path held) :
    r = held := by
  obtain ⟨entries, hStored, -, -, hRead⟩ := h
  obtain ⟨others, hOther, -, -, hReadOther⟩ := hHeld
  cases hStored.symm.trans hOther
  exact Except.ok.inj (hRead.symm.trans hReadOther)

/-- The object that was put at a path is there. -/
lemma get?_put (object : Json) : (o.put path object).get? path = some object :=
  (Entries.get?_insert path path object o.stored.entries).trans (if_pos rfl)

/-- A status that is merged into the object of a resource gives the object of the resource with what
both statuses make. -/
lemma holds_of_writeStatus? (hHolds : o.Holds path held) :
    ∃ object after,
      o.writeStatus? path (·.merge ((Status.record k).format.write s)) = some (object, after) ∧
        after.Holds path (held.withStatus (s.laidOver held.status)) := by
  obtain ⟨entries, hStored, hSorted, hField, hRead⟩ := hHolds
  have hMerged : ((Json.obj entries).field "status").merge ((Status.record k).format.write s) =
      (Status.record k).format.write (s.laidOver held.status) := by
    rw [hField]
    exact Status.merges_over held.status s
  have hWritten : setStatus (.obj entries)
      (((Json.obj entries).field "status").merge ((Status.record k).format.write s)) =
        .obj (Entries.insert "status" ((Status.record k).format.write (s.laidOver held.status))
          entries) := by
    rw [hMerged]
    rfl
  refine ⟨_, _, congrArg (Option.map _) hStored, _, (get?_put _).trans (congrArg some hWritten),
    Entries.sorted_insert hSorted, ?_, Resource.ofJson_insert_status hSorted hRead⟩
  rw [Json.field, Json.field?, Json.fields, Entries.get?_insert, if_pos rfl]
  rfl

end Objects

/-- The request that writes the status of a resource in the name of a manager. -/
def statusRequest (manager : String) (key : Key) (r : Resource k) : Request :=
  .patchStatus (.ofKey k key) manager (Exchange.statusPatch r)

/-- An exchange that has sent a request has met what was required before. -/
lemma runs_of_require {α : Type} {checked : Except RequestFault Unit} {rest : Exchange α}
    {trace : List (IamReconciler.Exchange interface)} {answer : Except Error α}
    (hRun : (Exchange.attempt (Exchange.require checked >>= fun _ => rest)).Runs Objects.server o
      trace answer o')
    (hSent : trace ≠ []) : (Exchange.attempt rest).Runs Objects.server o trace answer o' := by
  cases checked with
  | error fault => exact absurd (Program.runs_done_iff.1 hRun).1 hSent
  | ok => exact hRun

/-- An exchange goes on when what is required is met. -/
lemma runs_require {α : Type} {checked : Except RequestFault Unit} {rest : Exchange α}
    {trace : List (IamReconciler.Exchange interface)} {answer : Except Error α}
    (hMet : checked = .ok ())
    (hRun : (Exchange.attempt rest).Runs Objects.server o trace answer o') :
    (Exchange.attempt (Exchange.require checked >>= fun _ => rest)).Runs Objects.server o
    trace answer o' := by
  subst hMet
  exact hRun

/-- A status write sends one request, or none. -/
lemma eq_reply_of_patch {trace : List (IamReconciler.Exchange interface)}
    {answer : Except Error (Resource k)}
    (hRun : (answerStore manager (.updateStatus k r)).Runs Objects.server o trace answer o')
    (hSent : trace ≠ []) (hKey : r.key = .ok key) :
    o' = (o.reply (statusRequest manager key r)).2 := by
  rw [answerStore, Exchange.atKey, hKey] at hRun
  have hCall := runs_of_require (runs_of_require (runs_of_require hRun hSent) hSent) hSent
  obtain ⟨reply, after, rest, ⟨rfl, rfl⟩, hRest, -⟩ := Program.runs_ask_iff.1 hCall
  exact (Program.runs_done_iff.1 hRest).2.2

/-- The server takes a status write as a merge into the object of the resource. -/
lemma reply_statusRequest (hStatus : r.status = some s)
    (hHolds : o.Holds (statusRequest manager key r).objectPath held) :
    (o.reply (statusRequest manager key r)).2.Holds (statusRequest manager key r).objectPath
      (held.withStatus (s.laidOver held.status)) := by
  obtain ⟨object, after, hWritten, hAfter⟩ := Objects.holds_of_writeStatus? (s := s) hHolds
  have hPatch : (Exchange.statusPatch r).field "status" = (Status.record k).format.write s := by
    rw [Exchange.statusPatch, hStatus]
    rfl
  have hReply : o.reply (statusRequest manager key r) = (found object, after) := by
    change written o _ (o.writeStatus? _ (·.merge ((Exchange.statusPatch r).field "status"))) = _
    rw [hPatch, hWritten]
    rfl
  rw [hReply]
  exact hAfter

end Cluster

open Cluster in
/-- After a status was written, in a request that was sent, over any older status or over none: the
object is read as the resource with the status that both make; this is the written status exactly
when no older reference lingers; and if the written status records the spec of the resource, the
spec has drifted exactly when an older reference lingers in the status of a recorded resource. -/
theorem holds_over_of_patch {k : Kind} {manager : String} {key : Key} {r held : Resource k}
    {s : Status k} {o o' : Objects} {trace : List (Exchange Cluster.interface)}
    {answer : Except Error (Resource k)}
    (hRun : (answerStore manager (.updateStatus k r)).Runs Objects.server o trace answer o')
    (hSent : trace ≠ []) (hKey : r.key = .ok key) (hStatus : r.status = some s)
    (hHolds : o.Holds (statusRequest manager key r).objectPath held) :
    o'.Holds (statusRequest manager key r).objectPath (held.withStatus (s.laidOver held.status)) ∧
      (s.laidOver held.status = s ↔ k.lingers s.applied (held.status.map (·.applied)) = false) ∧
      (s.applied = held.spec →
        (held.withStatus (s.laidOver held.status)).specDrifted =
          (s.isRecorded && k.lingers s.applied (held.status.map (·.applied)))) := by
  refine ⟨?_, ?_, fun hApplied => ?_⟩
  · rw [eq_reply_of_patch hRun hSent hKey]
    exact reply_statusRequest hStatus hHolds
  · rw [← Kind.appliedOver_eq_iff]
    exact ⟨congrArg Status.applied, fun h => by rw [Status.laidOver, h]⟩
  · change (s.isRecorded && k.differs held.spec (k.appliedOver s.applied _)) = _
    rw [← hApplied, Kind.differs_appliedOver]

/-! ## A policy that was given to another subject -/

namespace Cluster

/-- What a policy for a subject declares. -/
def policyFor (subject : PolicySubject) : AccessPolicySpec :=
  ⟨subject, ⟨["Viewer"], [], []⟩, .blank⟩

/-- A policy for a user that no pass has seen since it was a policy for a declared group. -/
def reassigned : Resource .accessPolicy where
  metadata := { name := some "reader", ns := some "team" }
  spec := policyFor ⟨"dev@example.com", "", "", none⟩
  status := some ⟨⟨.online, "created"⟩, ⟨"policy-1"⟩, policyFor ⟨"", "", "", some ⟨"devs", ""⟩⟩⟩

/-- The status that is written after the policy for the user was applied. -/
def reassignedStatus : Status .accessPolicy :=
  ⟨⟨.online, "updated"⟩, ⟨"policy-1"⟩, reassigned.spec⟩

/-- The policy with that status. -/
def applied : Resource .accessPolicy :=
  reassigned.withStatus reassignedStatus

/-- The path of the policy. -/
def appliedPath : String :=
  (statusRequest "iam" ⟨"team", "reader"⟩ applied).objectPath

/-- The objects before the write. -/
def reassignedObjects : Objects :=
  Objects.put {} appliedPath reassigned.toJson

/-- The policy is stored before the write. -/
lemma holds_reassigned : reassignedObjects.Holds appliedPath reassigned := by
  have hNames : ["apiVersion", "kind", "metadata", "spec", "status"].Pairwise (· < ·) := by decide
  have hWritten := Resource.toJson_withStatus reassigned
    ⟨⟨.online, "created"⟩, ⟨"policy-1"⟩, policyFor ⟨"", "", "", some ⟨"devs", ""⟩⟩⟩
  refine ⟨_, (Objects.get?_put _).trans (congrArg some hWritten), ?_, rfl, ?_⟩
  · exact (List.pairwise_map (f := Prod.fst)).1 hNames
  · rw [← hWritten]
    exact Resource.ofJson_toJson _ (Metadata.read_write_of_names _ _)
      (AccessPolicySpec.faithful.read_write _)

/-- The write of the status sends a request. -/
lemma exists_run_applied :
    ∃ trace answer o', (answerStore "iam" (.updateStatus .accessPolicy applied)).Runs Objects.server
      reassignedObjects trace answer o' ∧ trace ≠ [] := by
  have hTarget : Target.check (statusRequest "iam" ⟨"team", "reader"⟩ applied).address = .ok () :=
    rfl
  exact ⟨_, _, _, runs_require rfl <| runs_require rfl <| runs_require hTarget <|
    .ask ⟨rfl, rfl⟩ (.done _ _), List.cons_ne_nil _ _⟩

end Cluster

open Cluster in
/-- The reference to the group lingers in the status of the policy, which seems to have drifted. -/
theorem holds_over_of_reassigned :
    ∃ o' : Objects, o'.Holds appliedPath
      (reassigned.withStatus (reassignedStatus.laidOver reassigned.status)) ∧
      reassignedStatus.laidOver reassigned.status ≠ reassignedStatus ∧
      (reassigned.withStatus (reassignedStatus.laidOver reassigned.status)).specDrifted := by
  obtain ⟨trace, answer, o', hRun, hSent⟩ := exists_run_applied
  obtain ⟨hHolds, hSame, hDrifted⟩ := holds_over_of_patch hRun hSent rfl rfl holds_reassigned
  exact ⟨o', hHolds, fun h => absurd (hSame.1 h) (by decide), (hDrifted rfl).trans (by decide)⟩

open Cluster in
/-- The status that is stored after a write may be another one than was written. -/
theorem stored_status_ne_written :
    ¬∀ (k : Kind) (manager : String) (key : Key) (r held : Resource k) (s : Status k)
      (o o' : Objects) (trace : List (Exchange Cluster.interface))
      (answer : Except Error (Resource k)),
      (answerStore manager (.updateStatus k r)).Runs Objects.server o trace answer o' →
        trace ≠ [] → r.key = .ok key → r.status = some s →
          o.Holds (statusRequest manager key r).objectPath held →
            o'.Holds (statusRequest manager key r).objectPath (held.withStatus s) := by
  intro hClaim
  obtain ⟨trace, answer, o', hRun, hSent⟩ := exists_run_applied
  have hWritten := hClaim _ _ _ _ _ _ _ _ _ _ hRun hSent rfl rfl holds_reassigned
  rw [eq_reply_of_patch hRun hSent rfl] at hWritten
  have hSame := hWritten.unique (reply_statusRequest (s := reassignedStatus) rfl holds_reassigned)
  exact absurd (congrArg Resource.status hSame) (by decide)

end IamReconciler
