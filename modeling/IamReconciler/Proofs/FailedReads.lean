import IamReconciler.Proofs.Isolation

/-!
# Failed reads

The search for the session of a namespace makes up to six reads of secrets and config maps, and any
of them may fail, even when the same object was read before.  Here is what comes of it, whatever the
cluster contains.

The read of the config map that names the management namespace is the only one whose failure does
not end the search: the default namespace takes the place of the management namespace, for the
credentials or for the context that were looked up with this read.  All else is as the cluster
contains it.  Hence a session is opened for nothing but the credentials and the context of the
cluster, each under the management namespace or under the default one, and under the management
namespace when no read has failed (`opens_of_unreliable`).
-/

namespace IamReconciler

namespace Account

/-- The objects that a cluster contains, whether or not a read of them succeeds. -/
structure Inventory where
  secrets : Place → Option (NameMap String)
  configMaps : Place → Option (NameMap String)

/-- The call reads an object. -/
def Call.isRead : Call → Bool
  | .secretData .. => true
  | .configMapData .. => true
  | .openSession .. => false

/-- The exchange is a read that failed. -/
def isUnread : Exchange interface → Bool
  | ⟨.secretData .., .error _⟩ => true
  | ⟨.configMapData .., .error _⟩ => true
  | _ => false

/-- A session is opened for credentials and a context. -/
def Opens (credentials : Credentials) (context : AccountContext)
    (trace : List (Exchange interface)) : Prop :=
  ∃ answer, ⟨.openSession credentials context, answer⟩ ∈ trace

namespace Inventory

/-- The object of a namespace: its own, or else the one that the management namespace keeps for
it. -/
def object (objects : Place → Option (NameMap String)) (objectName management ns : String) :
    Option (NameMap String) :=
  (objects (ns, objectName)).or (objects (management, managementName management ns objectName))

variable (inv : Inventory)

/-- The management namespace that is configured, or the default one when none is. -/
def management (controllerNamespace : String) : String :=
  ((inv.configMaps (controllerNamespace, managementConfigMap)).map managementNamespaceOf).getD
    defaultNamespace

/-- The credentials of a namespace under a management namespace, if the cluster contains them. -/
def credentials? (management ns : String) : Option Credentials :=
  (object inv.secrets credentialsSecret management ns).bind fun data =>
    (Credentials.ofSecret data).toOption

/-- The context of a namespace under a management namespace, if the cluster contains it. -/
def context? (management ns : String) : Option AccountContext :=
  (object inv.configMaps contextConfigMap management ns).map AccountContext.ofConfigMap

/-- The answers to a call: a read shows what the cluster contains, or it fails; a session is opened
or refused. -/
inductive Answers (inv : Inventory) : (c : Call) → c.Answer → Prop where
  | secret (ns name : String) : Answers inv (.secretData ns name) (.ok (inv.secrets (ns, name)))
  | secretUnread (ns name : String) (e : Error) : Answers inv (.secretData ns name) (.error e)
  | configMap (ns name : String) : Answers inv (.configMapData ns name)
      (.ok (inv.configMaps (ns, name)))
  | configMapUnread (ns name : String) (e : Error) : Answers inv (.configMapData ns name) (.error e)
  | session (credentials : Credentials) (context : AccountContext)
      (answer : Except RemoteError Session) : Answers inv (.openSession credentials context) answer

/-- The surroundings in which any read may fail at any time. -/
def unreliable : Surroundings interface Unit :=
  fun c answer _ _ => inv.Answers c answer

/-- The cluster in which no read fails. -/
def cluster : Cluster where
  secrets place := .ok (inv.secrets place)
  configMaps place := .ok (inv.configMaps place)

/-- The management namespace that a part of a search goes by. -/
def managementSeen (controllerNamespace : String) (trace : List (Exchange interface)) : String :=
  if trace.any isUnread then defaultNamespace else inv.management controllerNamespace

/-- How a part of a search that looks for something may end: with what the cluster contains under
the management namespace that the part goes by; with an error after a failed read; or with an error
when the cluster contains nothing. -/
inductive Reflects {α : Type} (inv : Inventory) (controllerNamespace : String)
    (wanted : String → Option α) (trace : List (Exchange interface)) : Except Error α → Prop where
  | found {a : α} (hReads : ∀ x ∈ trace, x.call.isRead)
      (hFound : wanted (inv.managementSeen controllerNamespace trace) = some a)
      (hUnread : ∀ x ∈ trace, isUnread x →
        x.call = .configMapData controllerNamespace managementConfigMap) :
      Reflects inv controllerNamespace wanted trace (.ok a)
  | unread {e : Error} (hReads : ∀ x ∈ trace, x.call.isRead) (hUnread : ∃ x ∈ trace, isUnread x) :
      Reflects inv controllerNamespace wanted trace (.error e)
  | missing {e : Error} (hReads : ∀ x ∈ trace, x.call.isRead)
      (hMissing : wanted (inv.management controllerNamespace) = none) :
      Reflects inv controllerNamespace wanted trace (.error e)

end Inventory

/-! ## Runs of searches -/

section Runs

variable {α β : Type} {inv : Inventory} {trace : List (Exchange interface)}

/-- A run of a sequence ends with the error of its first part, or it goes on with the second one. -/
lemma runs_bind {first : Search α} {rest : α → Search β} {outcome : Except Error β}
    (hRun : (first >>= rest).run.Runs inv.unreliable () trace outcome ()) :
    (∃ e, first.run.Runs inv.unreliable () trace (.error e) () ∧ outcome = .error e) ∨
      ∃ before a after, first.run.Runs inv.unreliable () before (.ok a) () ∧
        (rest a).run.Runs inv.unreliable () after outcome () ∧ trace = before ++ after := by
  rw [ExceptT.run_bind] at hRun
  obtain ⟨before, e | a, ⟨⟩, after, hFirst, hRest, rfl⟩ := Program.runs_bind_iff.1 hRun
  · obtain ⟨rfl, rfl, -⟩ := Program.runs_done_iff.1 hRest
    rw [List.append_nil]
    exact .inl ⟨e, hFirst, rfl⟩
  · exact .inr ⟨before, a, after, hFirst, hRest, rfl⟩

/-- A run of a single call is its exchange. -/
lemma runs_call {c : interface.Call} {answer : interface.Answer c}
    (hRun : (Program.call c).Runs inv.unreliable () trace answer ()) :
    trace = [⟨c, answer⟩] ∧ inv.Answers c answer := by
  obtain ⟨given, ⟨⟩, rest, hAnswer, hRest, rfl⟩ := Program.runs_ask_iff.1 hRun
  obtain ⟨rfl, rfl, -⟩ := Program.runs_done_iff.1 hRest
  exact ⟨rfl, hAnswer⟩

/-- The reads of one sort of objects. -/
structure Reads (inv : Inventory) (read : String → String → Search (Option (NameMap String)))
    (objects : Place → Option (NameMap String)) : Prop where
  of_run :
    ∀ {ns name : String} {trace : List (Exchange interface)}
    {outcome : Except Error (Option (NameMap String))}, (read ns name).run.Runs inv.unreliable
      () trace outcome () → ∃ x, trace = [x] ∧ x.call.isRead ∧
      ((∃ e, outcome = .error e) ∧ isUnread x ∨ outcome = .ok (objects (ns, name)) ∧
        isUnread x = false)

/-- A secret is read by one call, which may fail. -/
lemma reads_secretData : Reads inv secretData inv.secrets where
  of_run hRun := by
    obtain ⟨rfl, hAnswer⟩ := runs_call hRun
    refine ⟨_, rfl, rfl, ?_⟩
    cases hAnswer with
    | secret => exact .inr ⟨rfl, rfl⟩
    | secretUnread _ _ e => exact .inl ⟨⟨e, rfl⟩, rfl⟩

/-- A config map is read by one call, which may fail. -/
lemma reads_configMapData : Reads inv configMapData inv.configMaps where
  of_run hRun := by
    obtain ⟨rfl, hAnswer⟩ := runs_call hRun
    refine ⟨_, rfl, rfl, ?_⟩
    cases hAnswer with
    | configMap => exact .inr ⟨rfl, rfl⟩
    | configMapUnread _ _ e => exact .inl ⟨⟨e, rfl⟩, rfl⟩

variable {controllerNamespace ns management objectName what : String}

/-- The management namespace is the configured one, or the default one when the read that should
tell it fails. -/
lemma runs_managementNamespace
    (hRun : (managementNamespace controllerNamespace).Runs inv.unreliable () trace management ()) :
    ∃ x, trace = [x] ∧ x.call = .configMapData controllerNamespace managementConfigMap ∧
      management = inv.managementSeen controllerNamespace trace := by
  obtain ⟨first, found, ⟨⟩, rest, hFirst, hRest, rfl⟩ := Program.runs_bind_iff.1 hRun
  obtain ⟨rfl, hAnswer⟩ := runs_call hFirst
  cases hAnswer with
  | configMap =>
    cases hFound : inv.configMaps (controllerNamespace, managementConfigMap) with
    | some data =>
      rw [hFound] at hRest
      obtain ⟨rfl, rfl, -⟩ := Program.runs_done_iff.1 hRest
      refine ⟨_, rfl, rfl, ?_⟩
      simp [Inventory.managementSeen, Inventory.management, isUnread, hFound]
    | none =>
      rw [hFound] at hRest
      obtain ⟨rfl, rfl, -⟩ := Program.runs_done_iff.1 hRest
      refine ⟨_, rfl, rfl, ?_⟩
      simp [Inventory.managementSeen, Inventory.management, isUnread, hFound]
  | configMapUnread _ _ e =>
    obtain ⟨rfl, rfl, -⟩ := Program.runs_done_iff.1 hRest
    exact ⟨_, rfl, rfl, rfl⟩

/-- The courses of looking an object up.  The management namespace is asked for when the namespace
has no object of its own, and the object is then read where the answer says. -/
inductive Looking (inv : Inventory) (objects : Place → Option (NameMap String))
    (controllerNamespace ns : String) (objectName : String) : List (Exchange interface) →
    Except Error (NameMap String) → Prop where
  | unread {x : Exchange interface} {e : Error} (hReads : ∀ w ∈ [x], w.call.isRead)
      (hUnread : isUnread x) : Looking inv objects controllerNamespace ns objectName [x] (.error e)
  | own {x : Exchange interface} {data : NameMap String} (hReads : ∀ w ∈ [x], w.call.isRead)
      (hShown : isUnread x = false) (hOwn : objects (ns, objectName) = some data) :
      Looking inv objects controllerNamespace ns objectName [x] (.ok data)
  | keptUnread {x y z : Exchange interface} {e : Error} (hReads : ∀ w ∈ [x, y, z], w.call.isRead)
      (hUnread : isUnread z) : Looking inv objects controllerNamespace ns objectName
        [x, y, z] (.error e)
  | kept {x y z : Exchange interface} {data : NameMap String}
      (hReads : ∀ w ∈ [x, y, z], w.call.isRead) (hShown : isUnread x = false ∧ isUnread z = false)
      (hAsked : y.call = .configMapData controllerNamespace managementConfigMap)
      (hObject : Inventory.object objects objectName (inv.managementSeen controllerNamespace [y])
        ns = some data) :
      Looking inv objects controllerNamespace ns objectName [x, y, z] (.ok data)
  | absent {x y z : Exchange interface} {e : Error} (hReads : ∀ w ∈ [x, y, z], w.call.isRead)
      (hObject : Inventory.object objects objectName (inv.managementSeen controllerNamespace
        [y]) ns = none) :
      Looking inv objects controllerNamespace ns objectName [x, y, z] (.error e)

/-- A look-up takes one of its courses. -/
lemma looking_of_runs {read : String → String → Search (Option (NameMap String))}
    {objects : Place → Option (NameMap String)} (hReads : Reads inv read objects)
    {outcome : Except Error (NameMap String)}
    (hRun : (lookUp read what controllerNamespace ns objectName).run.Runs inv.unreliable
      () trace outcome ()) :
    Looking inv objects controllerNamespace ns objectName trace outcome := by
  rcases runs_bind hRun with ⟨e, hOwn, rfl⟩ | ⟨before, found, after, hOwn, hRest, rfl⟩
  · obtain ⟨x, rfl, hRead, ⟨-, hUnread⟩ | ⟨hOk, -⟩⟩ := hReads.of_run hOwn
    · exact .unread (List.forall_mem_singleton.2 hRead) hUnread
    · cases hOk
  obtain ⟨x, rfl, hRead, ⟨⟨e, hError⟩, -⟩ | ⟨hOk, hShown⟩⟩ := hReads.of_run hOwn
  · cases hError
  cases found with
  | some data =>
    obtain ⟨rfl, rfl, -⟩ := Program.runs_done_iff.1 hRest
    exact .own (List.forall_mem_singleton.2 hRead) hShown (Except.ok.inj hOk).symm
  | none =>
    -- the management namespace is told by a program without errors of its own
    replace hRest : (ExceptT.lift (managementNamespace controllerNamespace) >>= _ :
      Search _).run.Runs _ _ _ _ _ := hRest
    rw [ExceptT.run_bind_lift] at hRest
    obtain ⟨asked, management, ⟨⟩, later, hAsked, hLater, rfl⟩ := Program.runs_bind_iff.1 hRest
    obtain ⟨y, rfl, hCall, rfl⟩ := runs_managementNamespace hAsked
    have hObject : Inventory.object objects objectName
      (inv.managementSeen controllerNamespace [y]) ns =
        objects (inv.managementSeen controllerNamespace [y],
          managementName (inv.managementSeen controllerNamespace [y]) ns objectName) := by
      rw [Inventory.object, ← Except.ok.inj hOk, Option.none_or]
    have hAllRead {z : Exchange interface} (hKeptRead : z.call.isRead) :
        ∀ w ∈ [x, y, z], w.call.isRead := by
      refine List.forall_mem_cons.2
        ⟨hRead, List.forall_mem_cons.2 ⟨?_, List.forall_mem_singleton.2 hKeptRead⟩⟩
      rw [hCall]
      rfl
    rcases runs_bind hLater with ⟨e, hKept, rfl⟩ | ⟨read, kept, last, hKept, hLast, rfl⟩
    · obtain ⟨z, rfl, hKeptRead, ⟨-, hUnread⟩ | ⟨hOk, -⟩⟩ := hReads.of_run hKept
      · exact .keptUnread (hAllRead hKeptRead) hUnread
      · cases hOk
    obtain ⟨z, rfl, hKeptRead, ⟨⟨e, hError⟩, -⟩ | ⟨hKeptOk, hKeptShown⟩⟩ := hReads.of_run hKept
    · cases hError
    replace hObject := hObject.trans (Except.ok.inj hKeptOk).symm
    cases kept with
    | some data =>
      obtain ⟨rfl, rfl, -⟩ := Program.runs_done_iff.1 hLast
      exact .kept (hAllRead hKeptRead) ⟨hShown, hKeptShown⟩ hCall hObject
    | none =>
      obtain ⟨rfl, rfl, -⟩ := Program.runs_done_iff.1 hLast
      exact .absent (hAllRead hKeptRead) hObject

/-- A look-up ends with the object that the cluster contains under the management namespace that it
goes by. -/
lemma Looking.reflects {objects : Place → Option (NameMap String)}
    {outcome : Except Error (NameMap String)}
    (hLooking : Looking inv objects controllerNamespace ns objectName trace outcome) :
    inv.Reflects controllerNamespace (Inventory.object objects objectName · ns) trace outcome := by
  cases hLooking with
  | unread hReads hUnread => exact .unread hReads ⟨_, List.mem_cons_self, hUnread⟩
  | own hReads hShown hOwn =>
    refine .found hReads ?_ (by simp [hShown])
    rw [Inventory.object, hOwn, Option.some_or]
  | keptUnread hReads hUnread => exact .unread hReads ⟨_, by simp, hUnread⟩
  | @kept x y z data hReads hShown hAsked hObject =>
    have hSeen : inv.managementSeen controllerNamespace [x, y, z] =
        inv.managementSeen controllerNamespace [y] := by
      simp [Inventory.managementSeen, hShown]
    have hUnread : ∀ w ∈ [x, y, z], isUnread w →
        w.call = .configMapData controllerNamespace managementConfigMap := by
      simpa [hShown] using fun _ => hAsked
    exact .found hReads (hSeen.symm ▸ hObject) hUnread
  | @absent x y z e hReads hObject =>
    cases hUnread : isUnread y with
    | true => exact .unread hReads ⟨y, by simp, hUnread⟩
    | false =>
      refine .missing hReads ?_
      simpa [Inventory.managementSeen, hUnread] using hObject

/-- What is made of an object that is looked up reflects the cluster as the object does. -/
lemma Inventory.Reflects.bind {wanted : String → Option α} {outcome : Except Error α}
    (f : α → Except Error β) (h : inv.Reflects controllerNamespace wanted trace outcome) :
    inv.Reflects controllerNamespace (fun management => (wanted management).bind fun a =>
      (f a).toOption) trace (outcome >>= f) := by
  cases h with
  | unread hReads hUnread => exact .unread hReads hUnread
  | missing hReads hMissing => exact .missing hReads (by rw [hMissing]; rfl)
  | @found a hReads hFound hUnread =>
    change inv.Reflects _ _ _ (f a)
    cases hMade : f a with
    | ok b =>
      refine .found hReads ?_ hUnread
      rw [hFound, Option.bind_some, hMade]
      rfl
    | error e =>
      -- what was found is of no use; that is for want of a better object unless a failed read was
      -- to blame
      cases hAny : trace.any isUnread with
      | true => exact .unread hReads (List.any_eq_true.1 hAny)
      | false =>
        have hSeen : inv.managementSeen controllerNamespace trace =
            inv.management controllerNamespace := by
          rw [Inventory.managementSeen, hAny, if_neg Bool.false_ne_true]
        refine .missing hReads ?_
        rw [← hSeen, hFound, Option.bind_some, hMade]
        rfl

/-- A run of a search that goes on with something fallible, but makes no more calls, ends with what
that returns. -/
lemma runs_bind_const {first : Search α} {f : α → Except Error β} {outcome : Except Error β}
    (hRun : (first >>= fun a => ExceptT.mk (.done (f a))).run.Runs inv.unreliable
      () trace outcome ()) :
    ∃ found, first.run.Runs inv.unreliable () trace found () ∧ outcome = found >>= f := by
  rcases runs_bind hRun with ⟨e, hFirst, rfl⟩ | ⟨before, a, after, hFirst, hRest, rfl⟩
  · exact ⟨.error e, hFirst, rfl⟩
  · obtain ⟨rfl, rfl, -⟩ := Program.runs_done_iff.1 hRest
    exact ⟨.ok a, (List.append_nil before).symm ▸ hFirst, rfl⟩

/-- The search for credentials reflects the cluster. -/
lemma reflects_credentials {outcome : Except Error Credentials}
    (hRun : (credentials controllerNamespace ns).run.Runs inv.unreliable () trace outcome ()) :
    inv.Reflects controllerNamespace (inv.credentials? · ns) trace outcome := by
  obtain ⟨found, hLookUp, rfl⟩ := runs_bind_const (f := Credentials.ofSecret) hRun
  exact (looking_of_runs reads_secretData hLookUp).reflects.bind Credentials.ofSecret

/-- The search for a context reflects the cluster. -/
lemma reflects_context {outcome : Except Error AccountContext}
    (hRun : (context controllerNamespace ns).run.Runs inv.unreliable () trace outcome ()) :
    inv.Reflects controllerNamespace (inv.context? · ns) trace outcome := by
  obtain ⟨found, hLookUp, rfl⟩ :=
    runs_bind_const (f := fun data => .ok (AccountContext.ofConfigMap data)) hRun
  have hReflects := (looking_of_runs reads_configMapData hLookUp).reflects.bind fun data =>
    .ok (AccountContext.ofConfigMap data)
  simp only [Inventory.context?, Option.map_eq_bind]
  exact hReflects

/-- The ways in which a search for the session of a namespace may end: with an error, before a
session is asked for, because a read failed or the cluster lacks the credentials or the context; or
by opening a session for what its two parts have found. -/
inductive Resolves (inv : Inventory) (controllerNamespace ns : String) :
    List (Exchange interface) → Except Error Session → Prop where
  | failed {trace : List (Exchange interface)} {e : Error} (hReads : ∀ x ∈ trace, x.call.isRead)
      (hReason : (∃ x ∈ trace, isUnread x) ∨
        inv.credentials? (inv.management controllerNamespace) ns = none ∨
        inv.context? (inv.management controllerNamespace) ns = none) :
      Resolves inv controllerNamespace ns trace (.error e)
  | opened {forCredentials forContext : List (Exchange interface)} {credentials : Credentials}
      {context : AccountContext} {answer : Except RemoteError Session}
      (hFirst : (Account.credentials controllerNamespace ns).run.Runs inv.unreliable
        () forCredentials (.ok credentials) ())
      (hSecond : (Account.context controllerNamespace ns).run.Runs inv.unreliable () forContext
        (.ok context) ())
      (hCredentials : inv.Reflects controllerNamespace (inv.credentials? · ns) forCredentials
        (.ok credentials))
      (hContext : inv.Reflects controllerNamespace (inv.context? · ns) forContext (.ok context)) :
      Resolves inv controllerNamespace ns
        (forCredentials ++ forContext ++ [⟨.openSession credentials context, answer⟩])
          (answer.mapError fun e => .account ns e.message)

/-- A search that ends with an error ends for one of the two reasons. -/
lemma Inventory.Reflects.reason {wanted : String → Option α} {e : Error}
    (h : inv.Reflects controllerNamespace wanted trace (.error e)) :
    (∀ x ∈ trace, x.call.isRead) ∧
      ((∃ x ∈ trace, isUnread x) ∨ wanted (inv.management controllerNamespace) = none) := by
  cases h with
  | unread hReads hUnread => exact ⟨hReads, .inl hUnread⟩
  | missing hReads hMissing => exact ⟨hReads, .inr hMissing⟩

/-- A part of a search makes nothing but reads. -/
lemma Inventory.Reflects.reads {wanted : String → Option α} {outcome : Except Error α}
    (h : inv.Reflects controllerNamespace wanted trace outcome) : ∀ x ∈ trace, x.call.isRead := by
  cases h with
  | found hReads => exact hReads
  | unread hReads => exact hReads
  | missing hReads => exact hReads

/-- A search for the session of a namespace ends in one of the ways. -/
lemma resolves_of_runs {outcome : Except Error Session}
    (hRun : (resolve controllerNamespace ns).run.Runs inv.unreliable () trace outcome ()) :
    Resolves inv controllerNamespace ns trace outcome := by
  rcases runs_bind hRun with ⟨e, hCredentials, rfl⟩ | ⟨forCredentials, credentials, later,
    hCredentials, hLater, rfl⟩
  · obtain ⟨hReads, hReason⟩ := (reflects_credentials hCredentials).reason
    exact .failed hReads (hReason.imp_right .inl)
  have hFound := reflects_credentials hCredentials
  rcases runs_bind hLater with ⟨e, hContext, rfl⟩ | ⟨forContext, context, last,
    hContext, hLast, rfl⟩
  · obtain ⟨hReads, hReason⟩ := (reflects_context hContext).reason
    refine .failed (List.forall_mem_append.2 ⟨hFound.reads, hReads⟩) ?_
    exact hReason.imp (fun ⟨x, hMem, hUnread⟩ => ⟨x, List.mem_append_right _ hMem, hUnread⟩) .inr
  replace hLast :
      (ExceptT.lift (Program.call (I := interface) (.openSession credentials context)) >>= _ :
        Search _).run.Runs _ _ _ _ _ := hLast
  rw [ExceptT.run_bind_lift] at hLast
  obtain ⟨opening, answer, ⟨⟩, rest, hOpening, hRest, rfl⟩ := Program.runs_bind_iff.1 hLast
  obtain ⟨rfl, -⟩ := runs_call hOpening
  have hOpened : Resolves inv controllerNamespace ns
      (forCredentials ++ forContext ++ [⟨.openSession credentials context, answer⟩])
      (answer.mapError fun e => .account ns e.message) :=
    .opened hCredentials hContext hFound (reflects_context hContext)
  cases answer with
  | ok session =>
    obtain ⟨rfl, rfl, -⟩ := Program.runs_done_iff.1 hRest
    rw [List.append_nil, ← List.append_assoc]
    exact hOpened
  | error e =>
    obtain ⟨rfl, rfl, -⟩ := Program.runs_done_iff.1 hRest
    rw [List.append_nil, ← List.append_assoc]
    exact hOpened

/-- Reads open no session. -/
lemma not_opens_of_reads {credentials : Credentials} {context : AccountContext}
    (hReads : ∀ x ∈ trace, x.call.isRead) : ¬ Opens credentials context trace :=
  fun ⟨_, hMem⟩ => absurd (hReads _ hMem) Bool.false_ne_true

/-- A part of a search in which no read fails finds what the cluster contains. -/
lemma Inventory.Reflects.found_of_shown {wanted : String → Option α} {a : α}
    (h : inv.Reflects controllerNamespace wanted trace (.ok a))
    (hShown : ∀ x ∈ trace, isUnread x = false) :
    wanted (inv.management controllerNamespace) = some a := by
  cases h with
  | found _ hFound =>
    have hNone : trace.any isUnread = false := List.any_eq_false.2 fun x hMem => by
      simp [hShown x hMem]
    rwa [Inventory.managementSeen, hNone, if_neg Bool.false_ne_true] at hFound

/-- A search in which no read fails opens a session for what the cluster contains, and for nothing
else. -/
lemma Resolves.opens_iff {outcome : Except Error Session}
    (h : Resolves inv controllerNamespace ns trace outcome)
    (hShown : ∀ x ∈ trace, isUnread x = false) {credentials : Credentials}
    {context : AccountContext} :
    Opens credentials context trace ↔ inv.credentials? (inv.management controllerNamespace) ns =
      some credentials ∧ inv.context? (inv.management controllerNamespace) ns = some context := by
  cases h with
  | failed hReads hReason =>
    refine iff_of_false (not_opens_of_reads hReads) ?_
    rintro ⟨hCredentials, hContext⟩
    rcases hReason with ⟨x, hMem, hUnread⟩ | hNone | hNone
    · rw [hShown x hMem] at hUnread
      cases hUnread
    · rw [hNone] at hCredentials
      cases hCredentials
    · rw [hNone] at hContext
      cases hContext
  | opened _ _ hCredentials hContext =>
    obtain ⟨hBoth, -⟩ := List.forall_mem_append.1 hShown
    obtain ⟨hFirst, hSecond⟩ := List.forall_mem_append.1 hBoth
    rw [hCredentials.found_of_shown hFirst, hContext.found_of_shown hSecond]
    constructor
    · rintro ⟨answer', hMem⟩
      rcases List.mem_append.1 hMem with hRead | hLast
      · exact absurd ⟨answer', hRead⟩
          (not_opens_of_reads (List.forall_mem_append.2 ⟨hCredentials.reads, hContext.reads⟩))
      · cases List.mem_singleton.1 hLast
        exact ⟨rfl, rfl⟩
    · rintro ⟨⟨⟩, ⟨⟩⟩
      exact ⟨_, List.mem_append_right _ List.mem_cons_self⟩

end Runs

/-! ## The cluster in which no read fails -/

section Cluster

variable {inv : Inventory} (sessions : Sessions)

/-- No read fails. -/
lemma shown_of_exchanges {α : Type} (p : Program interface α) :
    ∀ x ∈ p.exchanges (inv.cluster.answer sessions) (), isUnread x = false := by
  induction p with
  | done a => exact List.forall_mem_nil _
  | ask c next ih =>
    refine List.forall_mem_cons.2 ⟨?_, ih _⟩
    cases c with
    | secretData => rfl
    | configMapData => rfl
    | openSession => rfl

/-- When no read fails, a session is opened for what the cluster contains, and for nothing else. -/
lemma opens_iff_of_cluster {controllerNamespace ns : String} {credentials : Credentials}
    {context : AccountContext} :
    Opens credentials context (inv.cluster.exchanges sessions (resolve controllerNamespace ns)) ↔
      inv.credentials? (inv.management controllerNamespace) ns = some credentials ∧
        inv.context? (inv.management controllerNamespace) ns = some context := by
  have hAnswers (c : Call) (s : Unit) :
      inv.unreliable c (inv.cluster.answer sessions c s).1 s
        (inv.cluster.answer sessions c s).2 := by
    cases c with
    | secretData ns name => exact .secret ns name
    | configMapData ns name => exact .configMap ns name
    | openSession credentials context => exact .session credentials context _
  have hRun := Program.runs_run hAnswers (resolve controllerNamespace ns).run ()
  exact (resolves_of_runs hRun).opens_iff (shown_of_exchanges sessions _)

end Cluster

/-- **Failed reads change nothing but the management namespace.**  Whatever a cluster contains and
whichever reads fail, the search for the session of a namespace ends with an error, or it opens one
session at its end.  When it opens one, no read has failed but reads of the config map that names
the management namespace; the credentials and the context are each what the cluster contains under
the management namespace, or under the default one when the read that was made for them failed.  In
particular they are what is passed when no read fails, unless such a read failed. -/
theorem opens_of_unreliable {inv : Inventory} {controllerNamespace ns : String}
    {trace : List (Exchange interface)} {outcome : Except Error Session}
    (hRun : (resolve controllerNamespace ns).run.Runs inv.unreliable () trace outcome ()) :
    Resolves inv controllerNamespace ns trace outcome ∧
      (∀ sessions credentials context,
        Opens credentials context
            (inv.cluster.exchanges sessions (resolve controllerNamespace ns)) ↔
          inv.credentials? (inv.management controllerNamespace) ns = some credentials ∧
            inv.context? (inv.management controllerNamespace) ns = some context) ∧
      ((∀ x ∈ trace, isUnread x = false) → ∀ sessions credentials context,
        Opens credentials context trace ↔
          Opens credentials context
            (inv.cluster.exchanges sessions (resolve controllerNamespace ns))) := by
  have hResolves := resolves_of_runs hRun
  refine ⟨hResolves, fun sessions _ _ => opens_iff_of_cluster sessions, fun hShown sessions _ _ =>
    ?_⟩
  exact (hResolves.opens_iff hShown).trans (opens_iff_of_cluster sessions).symm

namespace FailedReads

/-- A cluster whose management namespace keeps the key and the context of a team, and whose default
namespace holds another key. -/
def kept : Inventory where
  secrets place :=
    if place = ("iam-admin", "team-a-" ++ credentialsSecret) then
      some (.ofList [("api-key", "key-a")])
    else if place = ("default", credentialsSecret) then some (.ofList [("api-key", "other-key")])
    else none
  configMaps place :=
    if place = ("iam-system", managementConfigMap) then some Isolation.managed
    else if place = ("iam-admin", "team-a-" ++ contextConfigMap) then
      some (.ofList [("org", "org-a")])
    else none

/-- The key of the default namespace. -/
def otherKey : Credentials := ⟨"other-key", defaultRegion⟩

/-- The context of the team. -/
def teamContext : AccountContext := ⟨"org-a", "", defaultRegion, "default"⟩

/-- What is read for the credentials, when the management namespace cannot be told. -/
def forCredentials : List (Exchange interface) :=
  [⟨.secretData "team-a" credentialsSecret, .ok none⟩,
    ⟨.configMapData "iam-system" managementConfigMap, .error (.internal "connection reset" "")⟩,
    ⟨.secretData "default" credentialsSecret, .ok (some (.ofList [("api-key", "other-key")]))⟩]

/-- What is read for the context, when the management namespace can be told again. -/
def forContext : List (Exchange interface) :=
  [⟨.configMapData "team-a" contextConfigMap, .ok none⟩,
    ⟨.configMapData "iam-system" managementConfigMap, .ok (some Isolation.managed)⟩,
    ⟨.configMapData "iam-admin" ("team-a-" ++ contextConfigMap),
      .ok (some (.ofList [("org", "org-a")]))⟩]

/-- A search in which the first read of the management namespace fails. -/
def unreadOnce : List (Exchange interface) :=
  forCredentials ++ forContext ++ [⟨.openSession otherKey teamContext, .ok ⟨"other-account"⟩⟩]

/-- It is a run. -/
lemma runs_unreadOnce :
    (resolve "iam-system" "team-a").run.Runs kept.unreliable () unreadOnce
      (.ok ⟨"other-account"⟩) () := by
  refine .ask (t := ()) (Inventory.Answers.secret "team-a" credentialsSecret) ?_
  refine .ask (t := ()) (Inventory.Answers.configMapUnread "iam-system" managementConfigMap _) ?_
  refine .ask (t := ()) (Inventory.Answers.secret "default" credentialsSecret) ?_
  refine .ask (t := ()) (Inventory.Answers.configMap "team-a" contextConfigMap) ?_
  refine .ask (t := ()) (Inventory.Answers.configMap "iam-system" managementConfigMap) ?_
  refine .ask (t := ()) (Inventory.Answers.configMap "iam-admin" ("team-a-" ++ contextConfigMap)) ?_
  refine .ask (t := ()) (Inventory.Answers.session otherKey teamContext _) ?_
  exact .done _ _

end FailedReads

open FailedReads in
/-- When the management namespace cannot be told for the credentials, but can be for the context, a
session is opened for the key of the default namespace and the context of the management
namespace. -/
theorem resolves_unreadOnce :
    (resolve "iam-system" "team-a").run.Runs kept.unreliable () unreadOnce
        (.ok ⟨"other-account"⟩) () ∧
      Resolves kept "iam-system" "team-a" unreadOnce (.ok ⟨"other-account"⟩) ∧
      Opens otherKey teamContext unreadOnce ∧
      kept.managementSeen "iam-system" forCredentials = "default" ∧
      kept.managementSeen "iam-system" forContext = "iam-admin" ∧
      ∀ sessions, Opens ⟨"key-a", defaultRegion⟩ teamContext
        (kept.cluster.exchanges sessions (resolve "iam-system" "team-a")) := by
  obtain ⟨hResolves, hUndisturbed, -⟩ := opens_of_unreliable runs_unreadOnce
  refine ⟨runs_unreadOnce, hResolves, ⟨_, List.mem_append_right _ List.mem_cons_self⟩, rfl, rfl,
    fun sessions => ?_⟩
  exact (hUndisturbed sessions _ _).2 ⟨rfl, rfl⟩

open FailedReads in
/-- A failed read may switch the account: a session may be opened for credentials that are not
passed when no read fails. -/
theorem switched_of_unread :
    ¬ ∀ (inv : Inventory) (controllerNamespace ns : String) (trace : List (Exchange interface))
        (outcome : Except Error Session),
      (resolve controllerNamespace ns).run.Runs inv.unreliable () trace outcome () →
        ∀ credentials context, Opens credentials context trace → ∀ sessions,
          Opens credentials context
            (inv.cluster.exchanges sessions (resolve controllerNamespace ns)) := by
  intro h
  have hOpens : Opens otherKey teamContext unreadOnce :=
    ⟨_, List.mem_append_right _ List.mem_cons_self⟩
  have hPassed := h kept _ _ _ _ runs_unreadOnce otherKey teamContext hOpens Isolation.byKey
  have hKey := ((opens_iff_of_cluster Isolation.byKey).1 hPassed).1
  exact absurd hKey (by decide)

end Account

end IamReconciler
