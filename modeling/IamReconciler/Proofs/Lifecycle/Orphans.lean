import IamReconciler.Proofs.Lifecycle.Records

/-!
# No orphans

An entity that passes have created must not be left behind.  Here the remote service is reduced to
the entities that passes have created and that are still live.  It is faithful: its answers say
nothing wrong about these entities, and a creation that is taken back is gone.  Everything else may
fail at any point, and entities may disappear by themselves.

The invariant (`Tracked`) ties the three parts of a site together: the live entities, the identifier
in the status, and the finalizer.  A pass keeps it, whichever of its courses it takes, and lets the
finalizer of a live entity go only when the account cannot be opened (`leaves_of_passing`).  The
main statement is `live_recorded`, about all runs that start where nothing was created.
-/

namespace IamReconciler

open Directory (Call Entity)

/-! ## A faithful service -/

/-- An answer of a service that says nothing wrong about the live entities that passes have created.
Only a creation makes an entity live, and it gives an identifier; an update returns the entity that
it was about; an entity is not live after a deletion that succeeded, after an answer that it does
not exist, and after a failure to read it; and a deletion of an entity that the stored status does
not name, which takes a creation back, succeeds. -/
structure Faithful {k : Kind} (c : Call) (answer : c.Answer) (before : Site k (List Entity))
    (after : List Entity) : Prop where
  created : ∀ e ∈ after, e ∈ before.remote ∨ ∃ v, answer = .ok v ∧ c.created? v = some e
  named : ∀ v e, answer = .ok v → c.created? v = some e → e.id ≠ ""
  updated : ∀ v e id, answer = .ok v → c.updates? = some e → c.updatedId? v = some id → id = e.id
  deleted : ∀ v e, answer = .ok v → c.deletes? = some e → e ∉ after
  unknown : ∀ err e, answer = .error err → err.isNotFound → c.names? = some e → e ∉ after
  unreadable : ∀ err e, answer = .error err → c.reads? = some e → e ∉ after
  takenBack : ∀ e, c.deletes? = some e → e ≠ k.entity before.resource.remoteId → e ∉ after

/-- Circumstances in which the service is faithful, the store may fail, references show anything,
and accounts are opened in the ways of `opens`. -/
def faithfully (k : Kind) (opens : String → Except Error Session → Prop) :
    Circumstances k (List Entity) where
  storeMayFail := True
  opens := opens
  refers _ _ := True
  serves := Faithful

namespace Orphans

variable {k : Kind} {opens : String → Except Error Session → Prop} {settings : Settings} {key : Key}
  {scope : Scope} {s t u v : Site k (List Entity)} {r w : Resource k}
  {h : List (Exchange Pass.interface)}
  {y : Exchange Pass.interface} {x : Except Error Outcome}

/-! ## The invariant -/

/-- Every live entity is the one that the status records; while the resource is not being deleted it
has the finalizer; and a resource with the finalizer is stored. -/
structure Tracked (s : Site k (List Entity)) : Prop where
  recorded : ∀ e ∈ s.remote, e = k.entity s.resource.remoteId
  named : ∀ e ∈ s.remote, e.id ≠ ""
  held : s.remote ≠ [] → s.isDeleting = false → s.isHeld
  stored : s.isHeld → s.isStored

/-- Nothing of a site has changed but the condition and what is mirrored in the status, the spec,
and entities that have disappeared. -/
structure Quiet (s t : Site k (List Entity)) : Prop where
  remoteId : t.resource.remoteId = s.resource.remoteId
  metadata : t.resource.metadata = s.resource.metadata
  isStored : t.isStored = s.isStored
  remote : t.remote ⊆ s.remote

lemma Quiet.refl (s : Site k (List Entity)) : Quiet s s :=
  ⟨rfl, rfl, rfl, List.Subset.refl _⟩

lemma Quiet.trans (hst : Quiet s t) (htu : Quiet t u) : Quiet s u :=
  ⟨htu.remoteId.trans hst.remoteId, htu.metadata.trans hst.metadata,
    htu.isStored.trans hst.isStored, List.Subset.trans htu.remote hst.remote⟩

lemma Quiet.isHeld (h : Quiet s t) : t.isHeld = s.isHeld := by
  unfold Site.isHeld
  rw [h.metadata]

lemma Quiet.isDeleting (h : Quiet s t) : t.isDeleting = s.isDeleting := by
  unfold Site.isDeleting
  rw [h.metadata]

/-- No entity is live when none was. -/
lemma Quiet.remote_eq_nil (h : Quiet s t) (hNone : s.remote = []) : t.remote = [] :=
  List.subset_nil.1 (hNone ▸ h.remote)

/-- A quiet change keeps the invariant. -/
lemma Tracked.quiet (hs : Tracked s) (h : Quiet s t) : Tracked t where
  recorded := by
    intro e he
    rw [h.remoteId]
    exact hs.recorded e (h.remote he)
  named e he := hs.named e (h.remote he)
  held := by
    intro hLive hDeleting
    rw [h.isHeld]
    exact hs.held (fun hNone => hLive (h.remote_eq_nil hNone)) (h.isDeleting ▸ hDeleting)
  stored := by
    rw [h.isHeld, h.isStored]
    exact hs.stored

/-- A resource that is not recorded has no live entity. -/
lemma Tracked.remote_eq_nil (hs : Tracked s) (hNone : s.resource.remoteId = "") :
    s.remote = [] := by
  refine List.eq_nil_iff_forall_not_mem.2 fun e he => hs.named e he ?_
  rw [hs.recorded e he, hNone]
  rfl

/-- When the recorded entity is not live, none is. -/
lemma Tracked.remote_eq_nil_of_not_mem (hs : Tracked s)
    (hGone : k.entity s.resource.remoteId ∉ s.remote) : s.remote = [] :=
  List.eq_nil_iff_forall_not_mem.2 fun e he => hGone (hs.recorded e he ▸ he)

/-- A site without live entities is tracked. -/
lemma tracked_of_remote_eq_nil (hNone : s.remote = []) (hStored : s.isHeld → s.isStored) :
    Tracked s where
  recorded := by
    rw [hNone]
    exact nofun
  named := by
    rw [hNone]
    exact nofun
  held hLive := absurd hNone hLive
  stored := hStored

/-! ## Quiet parts of a pass -/

/-- The surroundings of a pass with a faithful service. -/
abbrev around (k : Kind) (opens : String → Except Error Session → Prop) (key : Key) :
    Surroundings Pass.interface (Site k (List Entity)) :=
  (faithfully k opens).surroundings key

/-- A call of the service that creates nothing is quiet. -/
lemma quiet_directory {c : Call} {answer : c.Answer} (hCreates : c.creates? = none)
    (hStep : around k opens key (.directory c) answer t u) : Quiet t u := by
  obtain ⟨d, hFaithful, rfl⟩ := hStep
  refine ⟨rfl, rfl, rfl, fun e he => ?_⟩
  rcases hFaithful.created e he with hOld | ⟨v, -, hNew⟩
  · exact hOld
  · rw [Call.created?_eq_none_of_creates? hCreates] at hNew
    cases hNew

/-- A creation that failed is quiet. -/
lemma quiet_of_failure {c : Call} {e : RemoteError}
    (hStep : around k opens key (.directory c) (.error e) t u) : Quiet t u := by
  obtain ⟨d, hFaithful, rfl⟩ := hStep
  refine ⟨rfl, rfl, rfl, fun entity hEntity => ?_⟩
  rcases hFaithful.created entity hEntity with hOld | ⟨v, hOk, -⟩
  · exact hOld
  · cases hOk

/-- An exchange of a quiet part of a pass: it is none with the store and creates no entity, or it
writes a status which records the same entity. -/
inductive Modest (r : Resource k) : Exchange Pass.interface → Prop where
  | elsewhere {y : Exchange Pass.interface} (hOther : y.call.isStore = false)
      (hCreates : ∀ c, y.call = .directory c → c.creates? = none) : Modest r y
  | stated {w : Resource k} (hSame : w.remoteId = r.remoteId) (answer : Except Error (Resource k)) :
      Modest r ⟨.store (.updateStatus k w), answer⟩

/-- What spares all entities is modest. -/
lemma modest_of_sparing (hOther : ∀ y ∈ h, y.call.isStore = false) (hSparing : Sparing h) :
    ∀ y ∈ h, Modest r y :=
  fun y hMem => .elsewhere (hOther y hMem) fun c hCall => (hSparing y hMem c hCall).2

/-- Looking things up is modest. -/
lemma modest_of_search (hSearch : ∀ y ∈ h, y.call.isRead) : ∀ y ∈ h, Modest r y :=
  modest_of_sparing (isStore_of_search hSearch) (sparing_of_isRead hSearch)

/-- Reading an entity is modest. -/
lemma modest_of_fetch {id : String} {result : Except Error (k.Remote × Etag)}
    (hFetch : Pass.Traces (k.strategy.fetch id) h result) : ∀ y ∈ h, Modest r y :=
  modest_of_search (isRead_of_fetch hFetch)

/-- Resolving what is to be created is modest. -/
lemma modest_of_createRequest {spec : k.Spec} {result : Except Error k.CreateRequest}
    (hResolve : Pass.Traces (k.strategy.createRequest scope spec) h result) :
    ∀ y ∈ h, Modest r y :=
  modest_of_sparing (isStore_of_createRequest hResolve) (sparing_of_createRequest hResolve)

/-- Resolving what is desired is modest. -/
lemma modest_of_updateRequest {spec : k.Spec} {result : Except Error k.UpdateRequest}
    (hResolve : Pass.Traces (k.strategy.updateRequest scope spec) h result) :
    ∀ y ∈ h, Modest r y :=
  modest_of_sparing (isStore_of_updateRequest hResolve) (sparing_of_updateRequest hResolve)

/-- What may be done while an entity is given what the spec lists is modest. -/
lemma modest_of_maySettle {accountId : String} {emails : List String} {entity : Entity}
    (hTurn : InTurn (MaySettle accountId emails entity) h) : ∀ y ∈ h, Modest r y := by
  refine hTurn.forall_mem fun before y hMay => ?_
  refine .elsewhere (Pass.Call.isStore_of_needsAccount hMay.needsAccount) fun c hCall => ?_
  cases hMay with
  | resolved hMay => exact (hMay.spares c hCall).2
  | regrouped hRegroups =>
    cases hCall
    exact Call.creates?_of_touches? (Call.touches?_of_regroups? hRegroups)

/-- Updating an entity is modest. -/
lemma modest_of_update {spec : k.Spec} {id : String} {desired : k.UpdateRequest} {remote : k.Remote}
    {etag : Etag} {result : Except Error RemoteRef}
    (hUpdate : Pass.Traces (k.strategy.update scope spec id desired remote etag) h result) :
    ∀ y ∈ h, Modest r y := by
  have hChange {c : Call} {entity : Entity} (hUpdates : c.updates? = some entity)
      (answer : c.Answer) : Modest r ⟨.directory c, answer⟩ := by
    refine .elsewhere rfl ?_
    rintro _ ⟨⟩
    exact Call.creates?_of_updates? hUpdates
  cases Kind.updating_of_traces hUpdate with
  | refused hUpdates => exact List.forall_mem_singleton.2 (hChange hUpdates _)
  | accepted hUpdates _ hRest =>
    exact List.forall_mem_cons.2 ⟨hChange hUpdates _, modest_of_maySettle hRest⟩

/-- Telling a condition is modest. -/
lemma modest_of_telling {c : Condition} (hTold : Lifecycle.Telling r c h) :
    ∀ y ∈ h, Modest r y := by
  cases hTold with
  | known => exact List.forall_mem_nil _
  | told _ answer =>
      exact List.forall_mem_singleton.2 (.stated (Resource.remoteId_moveTo r c) answer)

/-- Greeting a resource is modest. -/
lemma modest_of_greet {answer : Except Error (Resource k)}
    (hGreet : Pass.Traces (Lifecycle.greet r) h answer) : ∀ y ∈ h, Modest r y := by
  rcases Lifecycle.traces_greet_iff.1 hGreet with ⟨-, rfl⟩ | ⟨-, rfl, -⟩
  · exact List.forall_mem_singleton.2 (.stated (Resource.remoteId_moveTo r .processing) answer)
  · exact List.forall_mem_nil _

/-- Refusing a resource is modest. -/
lemma modest_of_refuse {e : Error} (hRefuse : Pass.Traces (Lifecycle.refuse settings r e) h x) :
    ∀ y ∈ h, Modest r y := by
  rcases Lifecycle.traces_refuse hRefuse with ⟨-, ⟨answer, rfl, -⟩⟩ | ⟨-, rfl, -⟩
  · exact List.forall_mem_singleton.2 (.stated (Resource.remoteId_moveTo r (.malformed e)) answer)
  · exact List.forall_mem_nil _

/-- What is modest of a resource is so of another one that records the same entity. -/
lemma Modest.of_eq (hModest : Modest r y) (hSame : w.remoteId = r.remoteId) : Modest w y := by
  cases hModest with
  | elsewhere hOther hCreates => exact .elsewhere hOther hCreates
  | stated hRecords answer => exact .stated (hRecords.trans hSame.symm) answer

/-- A modest part is quiet. -/
lemma quiet_of_modest (hPath : (around k opens key).Path s h t)
    (hModest : ∀ y ∈ h, Modest s.resource y) : Quiet s t := by
  -- being modest speaks of the first resource, whose identifier each step keeps
  refine hPath.keeps (fun y hMem u v hStep hsu => hsu.trans ?_) (Quiet.refl s)
  cases hModest y hMem with
  | stated hSame =>
    rcases Circumstances.stated_or_left hStep with rfl | ⟨rfl, -⟩
    · exact ⟨hSame.trans hsu.remoteId.symm, rfl, rfl, List.Subset.refl _⟩
    · exact .refl _
  | elsewhere hOther hCreates =>
    obtain ⟨c, answer⟩ := y
    cases c with
    | store => exact absurd hOther Bool.noConfusion
    | openAccount =>
      obtain ⟨rfl, -⟩ := hStep
      exact .refl _
    | reference =>
      obtain ⟨rfl, -⟩ := hStep
      exact .refl _
    | directory c => exact quiet_directory (hCreates c rfl) hStep

/-- What is set back is neither recorded otherwise nor released. -/
lemma quiet_of_restore {answer : Except Error (Resource k)} (hStored : s.isStored)
    (hLiving : s.isDeleting = false) (hPath : (around k opens key).Path s h t)
    (hRestore : Pass.Traces (Lifecycle.restore s.resource) h answer) : Quiet s t := by
  rcases Lifecycle.traces_restore_iff.1 hRestore with ⟨-, rfl⟩ | ⟨-, rfl, -⟩
  · obtain ⟨_, hStep, hEnd⟩ := Surroundings.path_cons_iff.1 hPath
    obtain rfl := Surroundings.path_nil_iff.1 hEnd
    have hMetadata := Resource.metadata_restoreImmutable s.resource
    -- a write takes a resource out of the store only when it is being deleted
    have hStill : (s.written s.resource.restoreImmutable).isStored := by
      refine Site.isStored_written ?_
      rw [hMetadata]
      exact hLiving
    rcases Circumstances.written_or_left hStep with rfl | ⟨rfl, -⟩
    · exact ⟨rfl, hMetadata, hStill.trans hStored.symm, List.Subset.refl _⟩
    · exact .refl _
  · obtain rfl := Surroundings.path_nil_iff.1 hPath
    exact .refl _

/-! ## Creation -/

/-- A site whose resource records nothing, and where nothing is live but an entity that was just
created. -/
structure Fresh (s : Site k (List Entity)) (id : String) (t : Site k (List Entity)) : Prop where
  named : id ≠ ""
  remoteId : t.resource.remoteId = s.resource.remoteId
  metadata : t.resource.metadata = s.resource.metadata
  isStored : t.isStored = s.isStored
  remote : ∀ e ∈ t.remote, e = k.entity id

namespace Fresh

variable {id : String}

/-- An entity that is made where none is live is fresh. -/
lemma made (hNone : s.remote = []) {c : Call} {answer : c.Value}
    (hCreated : c.created? answer = some (k.entity id))
    (hStep : around k opens key (.directory c) (.ok answer) s t) : Fresh s id t := by
  obtain ⟨d, hFaithful, rfl⟩ := hStep
  refine ⟨hFaithful.named answer _ rfl hCreated, rfl, rfl, rfl, fun entity hEntity => ?_⟩
  rcases hFaithful.created entity hEntity with hOld | ⟨v, hOk, hNew⟩
  · rw [hNone] at hOld
    cases hOld
  · cases hOk
    exact Option.some.inj (hNew.symm.trans hCreated)

/-- What is fresh after a quiet part was fresh before it. -/
lemma after (hst : Quiet s t) (hFresh : Fresh t id u) : Fresh s id u :=
  ⟨hFresh.named, hFresh.remoteId.trans hst.remoteId, hFresh.metadata.trans hst.metadata,
    hFresh.isStored.trans hst.isStored, hFresh.remote⟩

/-- A fresh entity stays fresh in a quiet part. -/
lemma quiet (hFresh : Fresh s id t) (htu : Quiet t u) : Fresh s id u :=
  ⟨hFresh.named, htu.remoteId.trans hFresh.remoteId, htu.metadata.trans hFresh.metadata,
    htu.isStored.trans hFresh.isStored, fun e he => hFresh.remote e (htu.remote he)⟩

/-- The resource is still being deleted, or still not. -/
lemma isDeleting (hFresh : Fresh s id t) : t.isDeleting = s.isDeleting := by
  rw [Site.isDeleting, hFresh.metadata, Site.isDeleting]

/-- A fresh entity that is recorded is tracked. -/
lemma tracked (hs : Tracked s) (hHeld : s.isHeld) (hFresh : Fresh s id t) (hw : w.remoteId = id) :
    Tracked (t.stated w) where
  recorded := by
    intro e he
    rw [show (t.stated w).resource.remoteId = id from hw]
    exact hFresh.remote e he
  named := by
    intro e he
    rw [hFresh.remote e he]
    exact hFresh.named
  held := by
    intro _ _
    have hMetadata : (t.stated w).resource.metadata = s.resource.metadata := hFresh.metadata
    rw [Site.isHeld, hMetadata]
    exact hHeld
  stored := by
    intro _
    exact hFresh.isStored.trans (hs.stored hHeld)

/-- A fresh entity that is deleted was never there. -/
lemma takenBack (hNone : s.resource.remoteId = "") (hFresh : Fresh s id t) {c : Call}
    (hDeletes : c.deletes? = some (k.entity id)) {answer : c.Answer}
    (hStep : around k opens key (.directory c) answer t u) : Quiet s u := by
  have htu := quiet_directory (Call.creates?_of_deletes? hDeletes) hStep
  obtain ⟨d, hFaithful, rfl⟩ := hStep
  refine ⟨hFresh.remoteId, hFresh.metadata, hFresh.isStored, fun e he => ?_⟩
  -- the deletion succeeds, as the stored status does not name the entity
  have hOther : k.entity id ≠ k.entity t.resource.remoteId := by
    rw [hFresh.remoteId, hNone, Ne, Kind.entity_inj]
    exact hFresh.named
  exact absurd (hFresh.remote e (htu.remote he) ▸ he) (hFaithful.takenBack _ hDeletes hOther)

end Fresh

/-- An entity that is created where none is live is fresh. -/
lemma fresh_of_creation {spec : k.Spec} {ref : RemoteRef} (hs : Tracked s)
    (hNone : s.resource.remoteId = "") (hPath : (around k opens key).Path s h t)
    (hCreation : Creation k scope spec h (.ok ref)) : Fresh s ref.id t := by
  cases hCreation with
  | made hSearch _ hCreated hSettled =>
    obtain ⟨u, hFirst, hRest⟩ := Surroundings.path_append_iff.1 hPath
    obtain ⟨v, hMake, hLast⟩ := Surroundings.path_cons_iff.1 hRest
    have hsu := quiet_of_modest hFirst (modest_of_search hSearch)
    have hFresh :=
      (Fresh.made (hsu.remote_eq_nil (hs.remote_eq_nil hNone)) hCreated hMake).after hsu
    exact hFresh.quiet
      (quiet_of_modest hLast (modest_of_maySettle (k.heeds_settle _ _ _ _ _ hSettled)))

/-- A creation that failed where no entity is live has left none. -/
lemma quiet_of_creation {spec : k.Spec} {e : Error} (hs : Tracked s)
    (hNone : s.resource.remoteId = "") (hPath : (around k opens key).Path s h t)
    (hCreation : Creation k scope spec h (.error e)) : Quiet s t := by
  cases hCreation with
  | unasked hSearch => exact quiet_of_modest hPath (modest_of_search hSearch)
  | refused hSearch =>
    -- a service that refuses to create has created nothing
    obtain ⟨u, hFirst, hLast⟩ := Surroundings.path_concat_iff.1 hPath
    exact (quiet_of_modest hFirst (modest_of_search hSearch)).trans (quiet_of_failure hLast)
  | takenBack answer hSearch _ hCreated hUnsettled hDeletes =>
    obtain ⟨u, hFirst, hRest⟩ := Surroundings.path_append_iff.1 hPath
    obtain ⟨v, hMake, hRest⟩ := Surroundings.path_cons_iff.1 hRest
    obtain ⟨w, hSettling, hBack⟩ := Surroundings.path_concat_iff.1 hRest
    have hsu := quiet_of_modest hFirst (modest_of_search hSearch)
    have hFresh :=
      (Fresh.made (hsu.remote_eq_nil (hs.remote_eq_nil hNone)) hCreated hMake).after hsu
    have hSettled := hFresh.quiet
      (quiet_of_modest hSettling (modest_of_maySettle (k.heeds_settle _ _ _ _ _ hUnsettled)))
    exact hSettled.takenBack hNone hDeletes hBack

/-- What a part of a pass over a living resource leaves: it is tracked, and no deletion is requested
or revoked. -/
structure Keeps (s t : Site k (List Entity)) : Prop where
  tracked : Tracked t
  isDeleting : t.isDeleting = s.isDeleting

/-- A quiet part keeps what is tracked. -/
lemma Tracked.keeps (hs : Tracked s) (hst : Quiet s t) : Keeps s t :=
  ⟨hs.quiet hst, hst.isDeleting⟩

/-- What is kept after a part is kept after the one before it, too. -/
lemma Keeps.after (hst : Keeps s t) (htu : Keeps t u) : Keeps s u :=
  ⟨htu.tracked, htu.isDeleting.trans hst.isDeleting⟩

/-- A status is recorded over one that names no live entity. -/
lemma Tracked.stated (hs : Tracked s) (hNone : s.remote = []) (w : Resource k) :
    Keeps s (s.stated w) :=
  ⟨tracked_of_remote_eq_nil hNone hs.stored, rfl⟩

/-- A pass that creates an entity. -/
lemma keeps_of_creating (hs : Tracked s) (hHeld : s.isHeld) (hNone : s.resource.remoteId = "")
    (hPath : (around k opens key).Path s h u)
    (hCreating : Lifecycle.Creating settings scope s.resource h x) : Keeps s u := by
  cases hCreating with
  | unresolved hResolve hTold =>
    exact hs.keeps (quiet_of_modest hPath (List.forall_mem_append.2
      ⟨modest_of_createRequest hResolve, modest_of_telling hTold⟩))
  | uncreated hResolve hCreate hTold =>
    -- the three parts are quiet one after the other; the last one tells of the resource as it was
    obtain ⟨t, hFirst, hRest⟩ := Surroundings.path_append_iff.1 hPath
    obtain ⟨v, hSecond, hRest⟩ := Surroundings.path_append_iff.1 hRest
    have hst := quiet_of_modest hFirst (modest_of_createRequest hResolve)
    have hsv := hst.trans (quiet_of_creation (hs.quiet hst) (hst.remoteId.trans hNone) hSecond
      (Kind.creation_of_traces hCreate))
    refine hs.keeps (hsv.trans (quiet_of_modest hRest fun y hMem => ?_))
    exact (modest_of_telling hTold y hMem).of_eq hsv.remoteId
  | @recorded _ _ _ ref hResolve hCreate stored =>
    obtain ⟨t, hFirst, hRest⟩ := Surroundings.path_append_iff.1 hPath
    obtain ⟨v, hSecond, hWrite⟩ := Surroundings.path_concat_iff.1 hRest
    have hst := quiet_of_modest hFirst (modest_of_createRequest hResolve)
    have hFresh := (fresh_of_creation (hs.quiet hst) (hst.remoteId.trans hNone) hSecond
      (Kind.creation_of_traces hCreate)).after hst
    rcases Circumstances.stated_or_left hWrite with rfl | ⟨-, e, hError⟩
    · exact ⟨hFresh.tracked hs hHeld (Resource.remoteId_recordApplied s.resource ref),
        hFresh.isDeleting⟩
    · cases hError
  | @unrecorded _ _ _ ref _ _ hResolve hCreate hDeletes answer =>
    obtain ⟨t, hFirst, hRest⟩ := Surroundings.path_append_iff.1 hPath
    obtain ⟨v, hSecond, hRest⟩ := Surroundings.path_append_iff.1 hRest
    obtain ⟨w, hWrite, hRest⟩ := Surroundings.path_cons_iff.1 hRest
    obtain ⟨_, hDelete, hEnd⟩ := Surroundings.path_cons_iff.1 hRest
    obtain rfl := Surroundings.path_nil_iff.1 hEnd
    have hst := quiet_of_modest hFirst (modest_of_createRequest hResolve)
    have hFresh := (fresh_of_creation (hs.quiet hst) (hst.remoteId.trans hNone) hSecond
      (Kind.creation_of_traces hCreate)).after hst
    rcases Circumstances.stated_or_left hWrite with rfl | ⟨rfl, -⟩
    · -- the store has taken the status unnoticed, so that the entity is recorded, live or not
      have hRecorded : Keeps s (v.stated ((s.resource.recordApplied ref).moveTo (.created k))) :=
        ⟨hFresh.tracked hs hHeld (Resource.remoteId_recordApplied s.resource ref),
          hFresh.isDeleting⟩
      have hQuiet := quiet_directory (Call.creates?_of_deletes? hDeletes) hDelete
      exact hRecorded.after (hRecorded.tracked.keeps hQuiet)
    · -- the store has refused the status, so that the deletion takes the creation back
      exact hs.keeps (hFresh.takenBack hNone hDeletes hDelete)

/-! ## Synchronization -/

/-- An entity goes by its own identifier when the service is faithful. -/
lemma eq_of_goesBy {entity : Entity} {new : String} (hPath : (around k opens key).Path s h t)
    (hMem : y ∈ h) (hGoesBy : GoesBy entity new y) : new = entity.id := by
  cases hGoesBy with
  | own _ hOwn => exact hOwn
  | @returned c answer hUpdates hNew =>
    obtain ⟨before, after, rfl⟩ := List.append_of_mem hMem
    obtain ⟨u, -, hRest⟩ := Surroundings.path_append_iff.1 hPath
    obtain ⟨v, ⟨d, hFaithful, -⟩, -⟩ := Surroundings.path_cons_iff.1 hRest
    exact hFaithful.updated answer entity new rfl hUpdates hNew

/-- When the recorded entity cannot be read, none is live. -/
lemma remote_eq_nil_of_unread {e : Error} (hs : Tracked s) (hPath : (around k opens key).Path s h t)
    (hFetch : Pass.Traces (k.strategy.fetch s.resource.remoteId) h (.error e)) : t.remote = [] := by
  have hst := quiet_of_modest hPath (modest_of_fetch hFetch)
  refine (hs.quiet hst).remote_eq_nil_of_not_mem ?_
  rw [hst.remoteId]
  obtain ⟨first, y, rfl, hUnread⟩ := Kind.failedToRead_of_traces hFetch
  obtain ⟨u, -, hStep⟩ := Surroundings.path_concat_iff.1 hPath
  cases hUnread with
  | read hReads operation e =>
    obtain ⟨d, hFaithful, rfl⟩ := hStep
    exact hFaithful.unreadable e _ rfl hReads

/-- A pass that synchronizes an entity.  When it cannot be read it is not live, and may be
forgotten. -/
lemma keeps_of_syncing (hs : Tracked s) (hPath : (around k opens key).Path s h u)
    (hSyncing : Lifecycle.Syncing settings scope s.resource h x) : Keeps s u := by
  cases hSyncing with
  | forgotten hFetch answer =>
    obtain ⟨t, hFirst, hWrite⟩ := Surroundings.path_concat_iff.1 hPath
    have hst := hs.keeps (quiet_of_modest hFirst (modest_of_fetch hFetch))
    rcases Circumstances.stated_or_left hWrite with rfl | ⟨rfl, -⟩
    · -- to forget an entity that cannot be read loses none that is live
      exact hst.after (hst.tracked.stated (remote_eq_nil_of_unread hs hFirst hFetch) _)
    · exact hst
  | unresolved hFetch hResolve hTold =>
    exact hs.keeps (quiet_of_modest hPath (List.forall_mem_append.2 ⟨modest_of_fetch hFetch,
      List.forall_mem_append.2 ⟨modest_of_updateRequest hResolve, modest_of_telling hTold⟩⟩))
  | agreed hFetch hResolve =>
    exact hs.keeps (quiet_of_modest hPath (List.forall_mem_append.2
      ⟨modest_of_fetch hFetch, modest_of_updateRequest hResolve⟩))
  | synchronized hFetch hResolve _ _ answer =>
    have hStated : Modest s.resource
        ⟨.store (.updateStatus k (s.resource.moveTo (.synchronized k))), answer⟩ :=
      .stated (Resource.remoteId_moveTo _ _) answer
    exact hs.keeps (quiet_of_modest hPath (List.forall_mem_append.2 ⟨modest_of_fetch hFetch,
      List.forall_mem_append.2
        ⟨modest_of_updateRequest hResolve, List.forall_mem_singleton.2 hStated⟩⟩))
  | unchanged hFetch hResolve _ hUpdate hTold =>
    exact hs.keeps (quiet_of_modest hPath (List.forall_mem_append.2 ⟨modest_of_fetch hFetch,
      List.forall_mem_append.2 ⟨modest_of_updateRequest hResolve,
        List.forall_mem_append.2 ⟨modest_of_update hUpdate, modest_of_telling hTold⟩⟩⟩))
  | @changed first second third _ _ ref hFetch hResolve _ hUpdate answer =>
    -- the entity that is returned is the recorded one
    have hSame : ref.id = s.resource.remoteId := by
      obtain ⟨t, -, hRest⟩ := Surroundings.path_append_iff.1 hPath
      obtain ⟨v, -, hRest⟩ := Surroundings.path_append_iff.1 hRest
      obtain ⟨w, hThird, -⟩ := Surroundings.path_concat_iff.1 hRest
      obtain ⟨y, hMem, hGoesBy⟩ := Kind.goesBy_of_traces hUpdate
      exact eq_of_goesBy hThird hMem hGoesBy
    have hStated : Modest s.resource
        ⟨.store (.updateStatus k ((s.resource.recordApplied ref).moveTo (.updated k))),
          answer⟩ := by
      refine .stated ?_ answer
      rw [Resource.remoteId_moveTo, Resource.remoteId_recordApplied, hSame]
    exact hs.keeps (quiet_of_modest hPath (List.forall_mem_append.2 ⟨modest_of_fetch hFetch,
      List.forall_mem_append.2 ⟨modest_of_updateRequest hResolve, List.forall_mem_append.2
        ⟨modest_of_update hUpdate, List.forall_mem_singleton.2 hStated⟩⟩⟩))

/-! ## A resource that is not being deleted -/

/-- A resource that is given the finalizer is tracked with it. -/
lemma keeps_of_hold {answer : Except Error (Resource k)} (hs : Tracked s)
    (hLiving : s.isDeleting = false) (hPath : (around k opens key).Path s h t)
    (hHold : Pass.Traces (Lifecycle.hold s.resource) h answer) :
    Keeps s t ∧ ∀ w, answer = .ok w → t.isHeld := by
  rcases Lifecycle.traces_hold_iff.1 hHold with ⟨hHeld, rfl, -⟩ | ⟨-, rfl⟩
  · obtain rfl := Surroundings.path_nil_iff.1 hPath
    exact ⟨⟨hs, rfl⟩, fun _ _ => hHeld⟩
  · obtain ⟨_, hStep, hEnd⟩ := Surroundings.path_cons_iff.1 hPath
    obtain rfl := Surroundings.path_nil_iff.1 hEnd
    rcases Circumstances.written_or_left hStep with rfl | ⟨rfl, e, rfl⟩
    · -- the write may be taken though it is answered by an error, and then it is held all the same
      have hHeld : (s.written (s.resource.withFinalizers
          (s.resource.metadata.finalizerSet.add k.finalizer))).isHeld := by
        change (s.resource.withFinalizers _).metadata.finalizerSet.has k.finalizer
        rw [Resource.finalizerSet_withFinalizers, Finalizers.has_add]
      refine ⟨⟨⟨hs.recorded, hs.named, fun _ _ => hHeld, fun _ => ?_⟩, rfl⟩, fun _ _ => hHeld⟩
      exact Site.isStored_written hLiving
    · exact ⟨⟨hs, rfl⟩, fun _ hOk => nomatch hOk⟩

/-- A pass that is prepared for a resource has restored it, and holds the finalizer. -/
lemma keeps_of_preparing {session : Session} {held : Resource k} (hs : Tracked s)
    (hStored : s.isStored) (hLiving : s.isDeleting = false)
    (hPath : (around k opens key).Path s h t)
    (hPrepared : Lifecycle.Preparing key s.resource h session held) :
    Keeps s t ∧ t.isHeld ∧ held = t.resource := by
  obtain ⟨-, hRestore, hHold⟩ := hPrepared
  obtain ⟨u, hFirst, hRest⟩ := Surroundings.path_append_iff.1 hPath
  obtain rfl := stored_of_restore hFirst hRestore
  obtain ⟨_, ⟨rfl, -⟩, hLast⟩ := Surroundings.path_cons_iff.1 hRest
  have hsu := hs.keeps (quiet_of_restore hStored hLiving hFirst hRestore)
  obtain ⟨hut, hHeld⟩ := keeps_of_hold hsu.tracked (hsu.isDeleting.trans hLiving) hLast hHold
  exact ⟨hsu.after hut, hHeld held rfl, (stored_of_hold hLast hHold).symm⟩

/-- A pass over a resource that is not being deleted. -/
lemma keeps_of_living (hs : Tracked s) (hStored : s.isStored) (hLiving : s.isDeleting = false)
    (hPath : (around k opens key).Path s h u)
    (hLives : Lifecycle.Living settings key s.resource h x) : Keeps s u := by
  cases hLives with
  | refused _ hRefuse => exact hs.keeps (quiet_of_modest hPath (modest_of_refuse hRefuse))
  | unrestored _ hRestore => exact hs.keeps (quiet_of_restore hStored hLiving hPath hRestore)
  | unopened _ hRestore hTold =>
    obtain ⟨t, hFirst, hRest⟩ := Surroundings.path_append_iff.1 hPath
    obtain ⟨_, ⟨rfl, -⟩, hLast⟩ := Surroundings.path_cons_iff.1 hRest
    obtain rfl := stored_of_restore hFirst hRestore
    have hst := quiet_of_restore hStored hLiving hFirst hRestore
    exact hs.keeps (hst.trans (quiet_of_modest hLast (modest_of_telling hTold)))
  | unheld _ hRestore hHold =>
    obtain ⟨t, hFirst, hRest⟩ := Surroundings.path_append_iff.1 hPath
    obtain rfl := stored_of_restore hFirst hRestore
    obtain ⟨_, ⟨rfl, -⟩, hLast⟩ := Surroundings.path_cons_iff.1 hRest
    have hst := hs.keeps (quiet_of_restore hStored hLiving hFirst hRestore)
    exact hst.after (keeps_of_hold hst.tracked (hst.isDeleting.trans hLiving) hLast hHold).1
  | synced hPrepared _ hSync =>
    obtain ⟨t, hFirst, hRest⟩ := Surroundings.path_append_iff.1 hPath
    obtain ⟨hst, -, rfl⟩ := keeps_of_preparing hs hStored hLiving hFirst hPrepared
    exact hst.after (keeps_of_syncing hst.tracked hRest hSync)
  | created hPrepared hUnrecorded hCreate =>
    obtain ⟨t, hFirst, hRest⟩ := Surroundings.path_append_iff.1 hPath
    obtain ⟨hst, hHeld, rfl⟩ := keeps_of_preparing hs hStored hLiving hFirst hPrepared
    have hNone := Resource.not_isRecorded_iff.1 hUnrecorded
    exact hst.after (keeps_of_creating hst.tracked hHeld hNone hRest hCreate)

/-! ## A resource that is being deleted -/

/-- Letting a resource go that is being deleted touches no entity. -/
lemma tracked_of_release (hs : Tracked s) (hDeleting : s.isDeleting)
    (hPath : (around k opens key).Path s h t)
    (hRelease : Pass.Traces (Lifecycle.release s.resource) h x) :
    Tracked t ∧ t.remote = s.remote := by
  rcases Lifecycle.traces_release hRelease with ⟨-, ⟨answer, rfl, -⟩⟩ | ⟨-, rfl, -⟩
  · obtain ⟨_, hStep, hEnd⟩ := Surroundings.path_cons_iff.1 hPath
    obtain rfl := Surroundings.path_nil_iff.1 hEnd
    rcases Circumstances.written_or_left hStep with rfl | ⟨rfl, -⟩
    · -- what is being deleted needs no finalizer, and what is not held need not be stored
      refine ⟨⟨hs.recorded, hs.named, fun _ hLiving => ?_, fun hHeld => ?_⟩, rfl⟩
      · exact absurd (hDeleting.symm.trans hLiving) Bool.noConfusion
      · change (s.resource.withFinalizers _).metadata.finalizerSet.has k.finalizer at hHeld
        rw [Resource.finalizerSet_withFinalizers, Finalizers.has_erase] at hHeld
        cases hHeld
    · exact ⟨hs, rfl⟩
  · obtain rfl := Surroundings.path_nil_iff.1 hPath
    exact ⟨hs, rfl⟩

/-- Once the recorded entity is gone, none is live. -/
lemma remote_eq_nil_of_removing (hs : Tracked s) (hPath : (around k opens key).Path s h t)
    (hRemoving : Lifecycle.Removing s.resource h) : Quiet s t ∧ t.remote = [] := by
  cases hRemoving with
  | unrecorded hNone =>
    obtain rfl := Surroundings.path_nil_iff.1 hPath
    exact ⟨.refl _, hs.remote_eq_nil (Resource.not_isRecorded_iff.1 hNone)⟩
  | @removed c answer _ hDeletes hGone =>
    obtain ⟨_, hStep, hEnd⟩ := Surroundings.path_cons_iff.1 hPath
    obtain rfl := Surroundings.path_nil_iff.1 hEnd
    have hst := quiet_directory (Call.creates?_of_deletes? hDeletes) hStep
    refine ⟨hst, (hs.quiet hst).remote_eq_nil_of_not_mem ?_⟩
    obtain ⟨d, hFaithful, rfl⟩ := hStep
    -- a deletion is done with when the service carries it out, and when it knows no such entity
    cases answer with
    | ok v => exact hFaithful.deleted v _ rfl hDeletes
    | error e => exact hFaithful.unknown e _ rfl hGone (Call.names?_of_deletes? hDeletes)

/-- A deletion keeps the finalizer as long as an entity is live. -/
lemma tracked_of_deleting (hs : Tracked s) (hDeleting : s.isDeleting) (hHeld : s.isHeld)
    (hPath : (around k opens key).Path s h u) (hDeletes : Lifecycle.Deleting s.resource h x) :
    Tracked u ∧ (u.remote ≠ [] → u.isHeld) := by
  have hEmpty {t : Site k (List Entity)} (hNone : t.remote = []) : t.remote ≠ [] → t.isHeld :=
    fun hLive => absurd hNone hLive
  cases hDeletes with
  | @kept c _ _ _ hDeletes _ hTold =>
    have hDeletion : ∀ c', (.directory c : Pass.Call) = .directory c' → c'.creates? = none := by
      rintro _ ⟨⟩
      exact Call.creates?_of_deletes? hDeletes
    have hsu := quiet_of_modest hPath
      (List.forall_mem_cons.2 ⟨.elsewhere rfl hDeletion, modest_of_telling hTold⟩)
    exact ⟨hs.quiet hsu, fun _ => hsu.isHeld.trans hHeld⟩
  | unstated hRemoving =>
    obtain ⟨t, hFirst, hWrite⟩ := Surroundings.path_concat_iff.1 hPath
    obtain ⟨hst, hNone⟩ := remote_eq_nil_of_removing hs hFirst hRemoving
    rcases Circumstances.stated_or_left hWrite with rfl | ⟨rfl, -⟩
    · exact ⟨((hs.quiet hst).stated hNone _).tracked, hEmpty hNone⟩
    · exact ⟨hs.quiet hst, hEmpty hNone⟩
  | stated hRemoving hRelease =>
    obtain ⟨t, hFirst, hRest⟩ := Surroundings.path_append_iff.1 hPath
    obtain ⟨v, hWrite, hLast⟩ := Surroundings.path_cons_iff.1 hRest
    obtain ⟨hst, hNone⟩ := remote_eq_nil_of_removing hs hFirst hRemoving
    obtain rfl := resource_of_returns hWrite (.updateStatus _)
    rcases Circumstances.stated_or_left hWrite with rfl | ⟨-, e, hError⟩
    · have hStated := ((hs.quiet hst).stated hNone (s.resource.moveTo (.deleted k)).forgetRemote)
      have hStill := hStated.isDeleting.trans (hst.isDeleting.trans hDeleting)
      obtain ⟨hTracked, hSame⟩ := tracked_of_release hStated.tracked hStill hLast hRelease
      exact ⟨hTracked, hEmpty (hSame.trans hNone)⟩
    · cases hError

/-- A pass over a resource that is being deleted lets the finalizer of a live entity go only without
an account. -/
lemma tracked_of_dying (hs : Tracked s) (hDeleting : s.isDeleting) (hHeld : s.isHeld)
    (hPath : (around k opens key).Path s h u) (hDies : Lifecycle.Dying key s.resource h x) :
    Tracked u ∧ (u.remote ≠ [] → ¬u.isHeld → ∃ ns e, ⟨.openAccount ns, .error e⟩ ∈ h) := by
  cases hDies with
  | abandoned hAbandoned hRelease =>
    -- a malformed resource is let go without an account only when it records nothing
    have hNone : s.remote = [] := by
      refine hs.remote_eq_nil (Resource.not_isRecorded_iff.1 fun hRecorded => ?_)
      simp [Lifecycle.isAbandoned, hRecorded] at hAbandoned
    obtain ⟨hTracked, hSame⟩ := tracked_of_release hs hDeleting hPath hRelease
    exact ⟨hTracked, fun hLive => absurd (hSame.trans hNone) hLive⟩
  | unopened _ e hRelease =>
    -- here the entity may be live, and the trace has the account that could not be opened
    obtain ⟨_, ⟨rfl, -⟩, hRest⟩ := Surroundings.path_cons_iff.1 hPath
    have hTracked := (tracked_of_release hs hDeleting hRest hRelease).1
    exact ⟨hTracked, fun _ _ => ⟨key.ns, e, List.mem_cons_self⟩⟩
  | opened _ session hDelete =>
    obtain ⟨_, ⟨rfl, -⟩, hRest⟩ := Surroundings.path_cons_iff.1 hPath
    obtain ⟨hTracked, hStill⟩ := tracked_of_deleting hs hDeleting hHeld hRest hDelete
    exact ⟨hTracked, fun hLive hLost => absurd (hStill hLive) hLost⟩

/-! ## Passes and runs -/

/-- How a pass may leave a site: tracked, and if an entity is live without the finalizer, then
either the finalizer was there before the pass, and the account could not be opened, or the
finalizer was missing already, and an entity was live. -/
structure Leaves (s : Site k (List Entity)) (h : List (Exchange Pass.interface))
    (u : Site k (List Entity)) : Prop where
  tracked : Tracked u
  lost : u.remote ≠ [] → ¬u.isHeld → s.isHeld → ∃ ns e, ⟨.openAccount ns, .error e⟩ ∈ h
  missing : u.remote ≠ [] → ¬u.isHeld → ¬s.isHeld → s.remote ≠ []

/-- A quiet pass. -/
lemma Leaves.of_quiet (hs : Tracked s) (hsu : Quiet s u) : Leaves s h u where
  tracked := hs.quiet hsu
  lost _ hLost hHeld := absurd (hsu.isHeld.trans hHeld) hLost
  missing hLive _ _ hNone := hLive (hsu.remote_eq_nil hNone)

/-- A pass over a resource that is not being deleted. -/
lemma Leaves.of_living (hKeeps : Keeps s u) (hLiving : s.isDeleting = false) : Leaves s h u where
  tracked := hKeeps.tracked
  lost hLive hLost :=
    absurd (hKeeps.tracked.held hLive (hKeeps.isDeleting.trans hLiving)) hLost
  missing hLive hLost :=
    absurd (hKeeps.tracked.held hLive (hKeeps.isDeleting.trans hLiving)) hLost

/-- A pass keeps the invariant and lets the finalizer of a live entity go only without an
account. -/
theorem leaves_of_passing (hs : Tracked s) (hPath : (around k opens key).Path s h u)
    (hPassing : Lifecycle.Passing settings k key h x) : Leaves s h u := by
  -- the store is read first, and shows what is stored
  cases hPassing with
  | unread e =>
    obtain ⟨_, hStep, hEnd⟩ := Surroundings.path_cons_iff.1 hPath
    obtain rfl := Surroundings.path_nil_iff.1 hEnd
    cases hStep
    exact .of_quiet hs (.refl _)
  | absent =>
    obtain ⟨_, hStep, hEnd⟩ := Surroundings.path_cons_iff.1 hPath
    obtain rfl := Surroundings.path_nil_iff.1 hEnd
    cases hStep
    exact .of_quiet hs (.refl _)
  | lost =>
    obtain ⟨_, hStep, hEnd⟩ := Surroundings.path_cons_iff.1 hPath
    obtain rfl := Surroundings.path_nil_iff.1 hEnd
    cases hStep
    exact .of_quiet hs (.refl _)
  | ungreeted _ hGreet =>
    obtain ⟨rfl, hRest⟩ := found_of_path hPath
    exact .of_quiet hs (quiet_of_modest hRest (modest_of_greet hGreet))
  | dying hDeleting hHeld hGreet hDies =>
    obtain ⟨rfl, hRest⟩ := found_of_path hPath
    obtain ⟨t, hGreeting, hLast⟩ := Surroundings.path_append_iff.1 hRest
    obtain rfl := stored_of_greet hGreeting hGreet
    have hst := quiet_of_modest hGreeting (modest_of_greet hGreet)
    obtain ⟨hTracked, hLost⟩ := tracked_of_dying (hs.quiet hst) (hst.isDeleting.trans hDeleting)
      (hst.isHeld.trans hHeld) hLast hDies
    refine ⟨hTracked, fun hLive hNot _ => ?_, fun _ _ hNot => absurd hHeld hNot⟩
    obtain ⟨ns, e, hMem⟩ := hLost hLive hNot
    exact ⟨ns, e, List.mem_cons_of_mem _ (List.mem_append_right _ hMem)⟩
  | living hNotDeleting hGreet hLives =>
    obtain ⟨_, hStep, hRest⟩ := Surroundings.path_cons_iff.1 hPath
    obtain ⟨t, hGreeting, hLast⟩ := Surroundings.path_append_iff.1 hRest
    cases hStep with
    | found hStored =>
      have hLiving : s.isDeleting = false := Bool.eq_false_iff.2 hNotDeleting
      obtain rfl := stored_of_greet hGreeting hGreet
      have hst := quiet_of_modest hGreeting (modest_of_greet hGreet)
      have hKeeps := keeps_of_living (hs.quiet hst) (hst.isStored.trans hStored)
        (hst.isDeleting.trans hLiving) hLast hLives
      exact .of_living ((hs.keeps hst).after hKeeps) hLiving

/-- A request for deletion keeps the invariant. -/
lemma Tracked.condemned (hs : Tracked s) (time : Timestamp) : Tracked (s.condemned time) where
  recorded := hs.recorded
  named := hs.named
  held _ hLiving := nomatch hLiving
  stored := by
    intro hHeld
    have hSame : s.resource.metadata.finalizerSet.isEmpty = false := Finalizers.isEmpty_of_has hHeld
    change (!(true && s.resource.metadata.finalizerSet.isEmpty)) = true
    rw [hSame]
    rfl

/-- What a run keeps: the invariant, and the account of every finalizer that was let go. -/
structure Accounted (site : Site k (List Entity)) (records : List (PassRecord k (List Entity))) :
    Prop where
  tracked : Tracked site
  lost : site.remote ≠ [] → ¬site.isHeld → ∃ p ∈ records, p.AccountFailed ∧ p.RemovesFinalizer
  removed : ∀ p ∈ records, p.RemovesFinalizer → ¬p.AccountFailed → p.after.remote = []

/-- A change from outside that keeps the invariant, the finalizer, and the absence of live
entities. -/
lemma Accounted.outside {records : List (PassRecord k (List Entity))} (h : Accounted s records)
    (hu : Tracked u) (hHeld : u.isHeld = s.isHeld) (hRemote : u.remote ⊆ s.remote) :
    Accounted u records where
  tracked := hu
  lost hLive hLost := by
    refine h.lost (fun hNone => hLive ?_) (hHeld ▸ hLost)
    rw [hNone] at hRemote
    exact List.subset_nil.1 hRemote
  removed := h.removed

/-- A pass. -/
lemma Accounted.pass {records : List (PassRecord k (List Entity))}
    {trace : List (Exchange Pass.interface)} {outcome : Outcome} (hAccounted : Accounted s records)
    (hPass : (reconcile settings k key).Runs (around k opens key) s trace outcome u) :
    Accounted u (records ++ [⟨s, trace, outcome, u⟩]) := by
  obtain ⟨hTrace, hPath⟩ := Program.runs_iff.1 hPass
  obtain ⟨x, hPassing, -⟩ := Lifecycle.passing_of_reconcile hTrace
  have hLeaves := leaves_of_passing hAccounted.tracked hPath hPassing
  refine ⟨hLeaves.tracked, fun hLive hLost => ?_, fun p hp hRemoves hOpened => ?_⟩
  · -- the finalizer was let go by this pass, or by one of those recorded before
    by_cases hHeld : s.isHeld
    · exact ⟨_, List.mem_concat_self, hLeaves.lost hLive hLost hHeld, hHeld, hLost⟩
    · obtain ⟨p, hp, hFailed⟩ := hAccounted.lost (hLeaves.missing hLive hLost hHeld) hHeld
      exact ⟨p, List.mem_append_left _ hp, hFailed⟩
  · rcases List.mem_append.1 hp with hp | hp
    · exact hAccounted.removed p hp hRemoves hOpened
    · obtain rfl := List.mem_singleton.1 hp
      refine Classical.byContradiction fun hLive => hOpened ?_
      exact hLeaves.lost hLive hRemoves.2 hRemoves.1

/-- A whole run. -/
lemma Accounted.run {start site : Site k (List Entity)}
    {records : List (PassRecord k (List Entity))}
    (hRun : Site.Run (faithfully k fun _ _ => True) (fun before after => after ⊆ before) settings
      key start records site)
    (hStored : start.isStored) (hNone : start.remote = []) : Accounted site records := by
  induction hRun with
  | start =>
    exact ⟨tracked_of_remote_eq_nil hNone fun _ => hStored, fun hLive => absurd hNone hLive,
      fun _ hp => absurd hp List.not_mem_nil⟩
  | pass _ hPass ih => exact ih.pass hPass
  | edit _ spec _ ih =>
    exact ih.outside (ih.tracked.quiet ⟨rfl, rfl, rfl, List.Subset.refl _⟩) rfl (List.Subset.refl _)
  | condemn _ time _ ih => exact ih.outside (ih.tracked.condemned time) rfl (List.Subset.refl _)
  | drift _ hDrift ih => exact ih.outside (ih.tracked.quiet ⟨rfl, rfl, rfl, hDrift⟩) rfl hDrift

end Orphans

/-- In every run from a site where passes have created nothing, in which passes are interleaved with
edits of the spec, requests for deletion and the disappearance of entities, and in which accounts,
references, the store and the service may fail at any point: a live entity that passes have created
is the one that the status stored last records, so that there is never more than one; it is live
only while the resource is stored with its finalizer, unless a pass without an account let the
finalizer go; and no entity is live after a pass that let the finalizer go with an account. -/
theorem live_recorded {settings : Settings} {k : Kind} {key : Key}
    {start site : Site k (List Entity)} {records : List (PassRecord k (List Entity))}
    (hRun : Site.Run (faithfully k fun _ _ => True) (fun before after => after ⊆ before) settings
      key start records site)
    (hStored : start.isStored) (hNone : start.remote = []) :
    (∀ e ∈ site.remote, e = k.entity site.resource.remoteId) ∧
      (site.remote ≠ [] →
        site.isStored ∧ site.isHeld ∨ ∃ p ∈ records, p.AccountFailed ∧ p.RemovesFinalizer) ∧
      ∀ p ∈ records, p.RemovesFinalizer → ¬p.AccountFailed → p.after.remote = [] := by
  have hAccounted := Orphans.Accounted.run hRun hStored hNone
  refine ⟨hAccounted.tracked.recorded, fun hLive => ?_, hAccounted.removed⟩
  by_cases hHeld : site.isHeld
  · exact .inl ⟨hAccounted.tracked.stored hHeld, hHeld⟩
  · exact .inr (hAccounted.lost hLive hHeld)

/-! ## A role whose account is gone -/

namespace Orphans

/-- A custom role that no pass has seen. -/
def unseenRole : Resource .customRole where
  metadata := { name := some "reader", ns := some "team" }
  spec := ⟨"Reader", "storage", "Reader", "", ["read"]⟩
  status := none

/-- The role that the service makes of a request. -/
def roleMade (request : RoleRequest) : RemoteRole :=
  ⟨"role-1", "crn:role-1", request.name, request.serviceName, request.displayName,
    request.description, request.actions⟩

/-- The role that the service makes of what `unseenRole` asks for. -/
def firstRole : RemoteRole :=
  roleMade (CustomRoles.request ⟨⟨"account"⟩, "team"⟩ unseenRole.spec)

/-- The account of the role is gone. -/
def accountGone : Error := .account "team" "no credentials"

/-- The site before the first pass. -/
def unseen : Site .customRole (List Entity) := ⟨unseenRole, true, []⟩

/-- The site after the role was written as pending and was given its finalizer. -/
def heldUnseen : Site .customRole (List Entity) :=
  let pending := unseen.stated (unseenRole.moveTo .processing)
  pending.written
    (pending.resource.withFinalizers
      (pending.resource.metadata.finalizerSet.add Kind.customRole.finalizer))

/-- The site after the pass that created the role. -/
def created : Site .customRole (List Entity) :=
  { heldUnseen with remote := [Kind.customRole.entity "role-1"] }.stated
    ((heldUnseen.resource.recordApplied (CustomRoles.reference firstRole)).moveTo
      (.created .customRole))

/-- The day and the time at which deletion is requested exist. -/
lemma valid_requested : Day.IsValid ⟨2024, 1, 1⟩ ∧ 0 < 24 ∧ 0 < 60 ∧ 0 ≤ 60 := by
  decide

/-- The site after deletion was requested. -/
def doomed : Site .customRole (List Entity) :=
  created.condemned ⟨⟨2024, 1, 1⟩, 0, 0, 0, valid_requested⟩

/-- The site after the pass that could not open the account. -/
def orphaned : Site .customRole (List Entity) :=
  doomed.written
    (doomed.resource.withFinalizers
      (doomed.resource.metadata.finalizerSet.erase Kind.customRole.finalizer))

/-- The service has no role of the name yet. -/
lemma faithful_of_noRoles :
    Faithful (.listRoles "account" "storage") (.ok []) heldUnseen heldUnseen.remote where
  created _ he := .inl he
  named := nofun
  updated := nofun
  deleted := nofun
  unknown := nofun
  unreadable := nofun
  takenBack := nofun

/-- The service makes the role. -/
lemma faithful_of_roleMade :
    Faithful (.createRole (CustomRoles.request ⟨⟨"account"⟩, "team"⟩ unseenRole.spec))
      (.ok firstRole) heldUnseen [Kind.customRole.entity "role-1"] where
  created e he := .inr ⟨firstRole, rfl, congrArg some (List.mem_singleton.1 he).symm⟩
  named := by
    rintro v e hv he
    cases hv
    cases he
    decide
  updated := nofun
  deleted := nofun
  unknown := nofun
  unreadable := nofun
  takenBack := nofun

/-- The pass that creates the role. -/
lemma runs_created :
    ∃ trace, (reconcile {} .customRole ⟨"team", "reader"⟩).Runs
      (around .customRole (fun _ _ => True) ⟨"team", "reader"⟩) unseen trace
        (.requeue 150) created := by
  have hOpened : (faithfully .customRole fun _ _ => True).opens "team" (.ok ⟨"account"⟩) := trivial
  exact ⟨_, .ask (.found rfl) <| .ask (.stated _ rfl) <|
    .ask (Circumstances.surroundings_openAccount hOpened) <| .ask (.written _ rfl) <|
    .ask (Circumstances.surroundings_directory faithful_of_noRoles) <|
    .ask (Circumstances.surroundings_directory faithful_of_roleMade) <|
    .ask (.stated _ rfl) <| .done _ _⟩

/-- The pass that cannot open the account. -/
lemma runs_orphaned :
    ∃ trace, (reconcile {} .customRole ⟨"team", "reader"⟩).Runs
      (around .customRole (fun _ _ => True) ⟨"team", "reader"⟩) doomed trace
      .finished orphaned := by
  have hFailed : (faithfully .customRole fun _ _ => True).opens "team" (.error accountGone) :=
    trivial
  exact ⟨_, .ask (.found rfl) <| .ask (Circumstances.surroundings_openAccount hFailed) <|
    .ask (.written _ rfl) <| .done _ _⟩

/-- The run that leaves the role behind. -/
lemma exists_run_orphaned :
    ∃ records,
      Site.Run (faithfully .customRole fun _ _ => True) (fun before after => after ⊆ before) {}
        ⟨"team", "reader"⟩ unseen records orphaned := by
  obtain ⟨_, hCreated⟩ := runs_created
  obtain ⟨_, hOrphaned⟩ := runs_orphaned
  exact ⟨_, .pass (.condemn (.pass (.start _) hCreated) _ rfl) hOrphaned⟩

end Orphans

/-- The role that was left behind is the one that its status recorded, and a pass without an account
let it go. -/
theorem live_recorded_of_orphaned :
    ∃ records,
      Site.Run (faithfully .customRole fun _ _ => True) (fun before after => after ⊆ before) {}
        ⟨"team", "reader"⟩ Orphans.unseen records Orphans.orphaned ∧
      (∀ e ∈ Orphans.orphaned.remote,
        e = Kind.customRole.entity Orphans.orphaned.resource.remoteId) ∧
      ∃ p ∈ records, p.AccountFailed ∧ p.RemovesFinalizer := by
  obtain ⟨records, hRun⟩ := Orphans.exists_run_orphaned
  have hLive := live_recorded hRun rfl rfl
  refine ⟨records, hRun, hLive.1, (hLive.2.1 (List.cons_ne_nil _ _)).resolve_left fun hKept => ?_⟩
  exact absurd hKept.1 Bool.false_ne_true

/-- A live entity may be left behind without a stored resource. -/
theorem orphan_of_lost_account :
    ¬∀ (settings : Settings) (k : Kind) (key : Key) (start site : Site k (List Entity))
      (records : List (PassRecord k (List Entity))),
      Site.Run (faithfully k fun _ _ => True) (fun before after => after ⊆ before) settings key
          start records site →
        start.isStored → start.resource.status = none → start.remote = [] →
          ∀ e ∈ site.remote, site.isStored ∧ e = k.entity site.resource.remoteId := by
  intro hClaim
  obtain ⟨_, hRun⟩ := Orphans.exists_run_orphaned
  have hStored := hClaim _ _ _ _ _ _ hRun rfl rfl rfl (Kind.customRole.entity "role-1")
    List.mem_cons_self
  exact absurd hStored.1 Bool.false_ne_true

end IamReconciler
