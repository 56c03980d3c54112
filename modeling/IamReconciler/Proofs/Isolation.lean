import IamReconciler.Account
import IamReconciler.Proofs.Runs
import Mathlib.Data.Set.BooleanAlgebra
import Mathlib.Data.Set.Disjoint
import Mathlib.Order.CompletePartialOrder

/-!
# Isolation of accounts

A cluster holds the secrets and config maps from which the session for a namespace is opened.  The
session for a namespace consults at most two secrets and two config maps besides the one that names
the management namespace: those of the namespace itself, and those that the management namespace
keeps under a name that carries the namespace (`called_of_resolve`).

Unless the management namespace is the default one, these objects are different for different
namespaces (`disjoint_consulted`), although objects of both kinds of names meet in the management
namespace.  Hence what is consulted for one namespace has no influence on the session of another.
-/

namespace IamReconciler

namespace Account

/-- The place of an object in a cluster: its namespace and its name. -/
abbrev Place := String × String

/-- What reads of a cluster return. -/
structure Cluster where
  secrets : Place → Except Error (Option (NameMap String))
  configMaps : Place → Except Error (Option (NameMap String))

/-- How sessions are opened. -/
abbrev Sessions := Credentials → AccountContext → Except RemoteError Session

namespace Cluster

/-- What a cluster answers to a call, together with the service that opens sessions. -/
def answerTo (cluster : Cluster) (sessions : Sessions) : (c : Call) → c.Answer
  | .secretData ns name => cluster.secrets (ns, name)
  | .configMapData ns name => cluster.configMaps (ns, name)
  | .openSession credentials context => sessions credentials context

/-- The answerer of a cluster, which keeps no state. -/
def answer (cluster : Cluster) (sessions : Sessions) (c : interface.Call) (_ : Unit) :
    interface.Answer c × Unit :=
  (cluster.answerTo sessions c, ())

variable (cluster : Cluster) (sessions : Sessions)

/-- What a search returns. -/
def result {α : Type} (search : Search α) : Except Error α :=
  (search.run.run (cluster.answer sessions) ()).1

/-- The calls of a search, with their answers. -/
def exchanges {α : Type} (search : Search α) : List (Exchange interface) :=
  search.run.exchanges (cluster.answer sessions) ()

variable (controllerNamespace ns : String)

/-- What the search for the session of a namespace returns. -/
def session : Except Error Session :=
  cluster.result sessions (resolve controllerNamespace ns)

/-- The secrets that are read for a namespace. -/
def secretsRead : Set Place :=
  {place | ∃ x ∈ cluster.exchanges sessions (resolve controllerNamespace ns),
    x.call = .secretData place.1 place.2}

/-- The config maps with a context that are read for a namespace, which are all but the one that
names the management namespace. -/
def contextsRead : Set Place :=
  {place | place ≠ (controllerNamespace, managementConfigMap) ∧
    ∃ x ∈ cluster.exchanges sessions (resolve controllerNamespace ns),
    x.call = .configMapData place.1 place.2}

end Cluster

/-- The places at which an object for a namespace is looked up. -/
def consulted (management objectName ns : String) : Set Place :=
  {(ns, objectName), (management, managementName management ns objectName)}

/-- Two clusters differ at most in the credentials and the context that are consulted for a
namespace. -/
structure Cluster.DiffersFor (management ns : String) (before after : Cluster) : Prop where
  secrets : ∀ place ∉ consulted management credentialsSecret ns, after.secrets place =
    before.secrets place
  configMaps : ∀ place ∉ consulted management contextConfigMap ns, after.configMaps place =
  before.configMaps place

/-! ## Places of different namespaces -/

/-- A name that carries a namespace is longer than the name alone. -/
lemma length_lt_managementName {management : String} (hNamed : management ≠ defaultNamespace)
    (ns objectName : String) :
    objectName.length < (managementName management ns objectName).length := by
  have hDash : "-".length = 1 := rfl
  rw [managementName, if_neg hNamed, String.length_append, String.length_append, hDash]
  omega

/-- Names that carry namespaces tell the namespaces apart. -/
lemma managementName_inj {management a b objectName : String}
    (hNamed : management ≠ defaultNamespace)
    (h : managementName management a objectName = managementName management b objectName) :
    a = b := by
  rw [managementName, managementName, if_neg hNamed, if_neg hNamed] at h
  simpa only [String.append_left_inj] using h

/-- An object is looked up at different places for different namespaces. -/
theorem disjoint_consulted {management a b : String} (objectName : String)
    (hNamed : management ≠ defaultNamespace) (hNe : a ≠ b) :
    Disjoint (consulted management objectName a) (consulted management objectName b) := by
  have hLonger (ns : String) : objectName ≠ managementName management ns objectName := by
    intro hEq
    have hLt := length_lt_managementName hNamed ns objectName
    rw [← hEq] at hLt
    exact Nat.lt_irrefl _ hLt
  refine Set.disjoint_left.2 fun place hA hB => ?_
  rcases hA with rfl | rfl
  · rcases hB with hOwn | hKept
    · exact hNe (congrArg Prod.fst hOwn)
    · exact hLonger b (congrArg Prod.snd hKept)
  · rcases hB with hOwn | hKept
    · exact hLonger a (congrArg Prod.snd hOwn).symm
    · exact hNe (managementName_inj hNamed (congrArg Prod.snd hKept))

/-- No context is looked up at the place that names the management namespace. -/
lemma not_mem_consulted {management ns controllerNamespace : String}
    (hNamed : management ≠ defaultNamespace) : (controllerNamespace, managementConfigMap) ∉
    consulted management contextConfigMap ns := by
  rintro (hOwn | hKept)
  · have hName : managementConfigMap = contextConfigMap := congrArg Prod.snd hOwn
    exact absurd hName (by decide)
  · have hName : managementConfigMap = managementName management ns contextConfigMap :=
      congrArg Prod.snd hKept
    have hLt := length_lt_managementName hNamed ns contextConfigMap
    rw [← hName] at hLt
    exact absurd hLt (by decide)

/-! ## What a search calls -/

namespace Cluster

variable {cluster : Cluster} {sessions : Sessions} {controllerNamespace management ns : String}

/-- All calls of a search have a property when a cluster answers them. -/
def Heeds {α : Type} (cluster : Cluster) (sessions : Sessions) (P : Call → Prop)
    (search : Search α) : Prop :=
  ∀ x ∈ cluster.exchanges sessions search, P x.call

variable {α β : Type} {P : Call → Prop}

/-- A search that is over calls nothing. -/
lemma heeds_done (outcome : Except Error α) :
    cluster.Heeds sessions P (ExceptT.mk (Program.done outcome)) := by
  intro x hMem
  cases hMem

/-- A search in two parts makes the calls of its first part and, when that succeeds, those of its
second. -/
lemma Heeds.bind {first : Search α} {rest : α → Search β} (hFirst : cluster.Heeds sessions P first)
    (hRest : ∀ a, cluster.result sessions first = .ok a → cluster.Heeds sessions P (rest a)) :
    cluster.Heeds sessions P (first >>= rest) := by
  intro x hMem
  rw [exchanges, ExceptT.run_bind, Program.exchanges_bind] at hMem
  rcases List.mem_append.1 hMem with hMem | hMem
  · exact hFirst x hMem
  · cases hResult : (first.run.run (cluster.answer sessions) ()).1 with
    | ok a =>
      rw [hResult] at hMem
      exact hRest a hResult x hMem
    | error e =>
      rw [hResult] at hMem
      cases hMem

/-- A search that succeeds whatever a program of calls returns makes the calls of the program. -/
lemma heeds_lift {program : Program interface α}
    (hCalls : ∀ x ∈ program.exchanges (cluster.answer sessions) (), P x.call) :
    cluster.Heeds sessions P (liftM program : Search α) := by
  intro x hMem
  change
    x ∈ Program.exchanges (cluster.answer sessions) (ExceptT.run (ExceptT.lift program)) () at hMem
  rw [ExceptT.run_lift, map_eq_pure_bind, Program.exchanges_bind] at hMem
  rcases List.mem_append.1 hMem with hMem | hMem
  · exact hCalls x hMem
  · cases hMem

/-- A program of calls succeeds with what it returns. -/
lemma result_lift {program : Program interface α} :
    cluster.result sessions (liftM program : Search α) = .ok
      (program.run (cluster.answer sessions) ()).1 := by
  change (Program.run (cluster.answer sessions) (ExceptT.run (ExceptT.lift program)) ()).1 = _
  rw [ExceptT.run_lift, map_eq_pure_bind, Program.run_bind]
  rfl

/-- Where a config map names the management namespace, it is found with one call. -/
lemma run_managementNamespace (sessions : Sessions) {data : NameMap String}
    (hManagement : cluster.configMaps (controllerNamespace, managementConfigMap) =
      .ok (some data)) :
    ((managementNamespace controllerNamespace).run (cluster.answer sessions) ()).1 =
      managementNamespaceOf data ∧
      ∀ x ∈ (managementNamespace controllerNamespace).exchanges (cluster.answer sessions) (),
        x.call = .configMapData controllerNamespace managementConfigMap := by
  unfold managementNamespace
  rw [Program.exchanges_bind, Program.run_bind]
  have hRun : (configMapData controllerNamespace managementConfigMap).run.run
    (cluster.answer sessions) () =
      (cluster.configMaps (controllerNamespace, managementConfigMap), ()) := rfl
  rw [hRun, hManagement]
  refine ⟨rfl, fun x hMem => ?_⟩
  rcases List.mem_append.1 hMem with hMem | hMem
  · rw [List.mem_singleton.1 hMem]
  · cases hMem

/-- A look-up makes the two reads of the object and the one that names the management namespace. -/
lemma heeds_lookUp {data : NameMap String}
    {read : String → String → Search (Option (NameMap String))}
    {what objectName : String}
    (hManagement : cluster.configMaps (controllerNamespace, managementConfigMap) = .ok (some data))
    (hCall : P (.configMapData controllerNamespace managementConfigMap))
    (hRead : ∀ place ∈ consulted (managementNamespaceOf data) objectName ns,
      cluster.Heeds sessions P (read place.1 place.2)) :
    cluster.Heeds sessions P (lookUp read what controllerNamespace ns objectName) := by
  obtain ⟨hValue, hCalls⟩ := run_managementNamespace sessions hManagement
  refine Heeds.bind (hRead (ns, objectName) (.inl rfl)) fun found _ => ?_
  cases found with
  | some found => exact heeds_done _
  | none =>
    refine Heeds.bind (heeds_lift fun x hMem => (hCalls x hMem).symm ▸ hCall)
      fun management hResult => ?_
    obtain rfl : managementNamespaceOf data = management := by
      rw [result_lift, hValue] at hResult
      exact Except.ok.inj hResult
    refine Heeds.bind (hRead (managementNamespaceOf data, _) (.inr rfl)) fun kept _ => ?_
    cases kept with
    | some kept => exact heeds_done _
    | none => exact heeds_done _

end Cluster

/-- The calls by which the session for a namespace may be found. -/
inductive Concerns (controllerNamespace management ns : String) : Call → Prop where
  /-- The credentials are read at a place where they are looked up for the namespace. -/
  | credentials {place : Place} (hPlace : place ∈ consulted management credentialsSecret ns) :
    Concerns controllerNamespace management ns (.secretData place.1 place.2)
  /-- The management namespace is asked for. -/
  | management : Concerns controllerNamespace management ns
      (.configMapData controllerNamespace managementConfigMap)
  /-- The context is read at a place where it is looked up for the namespace. -/
  | context {place : Place} (hPlace : place ∈ consulted management contextConfigMap ns) :
    Concerns controllerNamespace management ns (.configMapData place.1 place.2)
  /-- A session is opened. -/
  | session (credentials : Credentials) (context : AccountContext) :
    Concerns controllerNamespace management ns (.openSession credentials context)

namespace Cluster

variable {cluster after : Cluster} {controllerNamespace : String} {data : NameMap String}

/-- The search for the session of a namespace reads nothing but what is looked up for it. -/
theorem called_of_resolve
    (hManagement : cluster.configMaps (controllerNamespace, managementConfigMap) = .ok (some data))
    (sessions : Sessions) (ns : String) :
    cluster.Heeds sessions (Concerns controllerNamespace (managementNamespaceOf data) ns)
      (resolve controllerNamespace ns) := by
  -- a single read makes the one call that it is named for
  have hSecret : ∀ place ∈ consulted (managementNamespaceOf data) credentialsSecret ns,
      cluster.Heeds sessions (Concerns controllerNamespace (managementNamespaceOf data) ns)
        (secretData place.1 place.2) := by
    intro place hPlace x hMem
    rw [List.mem_singleton.1 hMem]
    exact .credentials hPlace
  have hConfigMap : ∀ place ∈ consulted (managementNamespaceOf data) contextConfigMap ns,
      cluster.Heeds sessions (Concerns controllerNamespace (managementNamespaceOf data) ns)
        (configMapData place.1 place.2) := by
    intro place hPlace x hMem
    rw [List.mem_singleton.1 hMem]
    exact .context hPlace
  refine Heeds.bind (Heeds.bind (heeds_lookUp hManagement .management hSecret) fun _ _ =>
    heeds_done _) fun credentials _ => ?_
  refine Heeds.bind (Heeds.bind (heeds_lookUp hManagement .management hConfigMap) fun _ _ =>
    heeds_done _) fun context _ => ?_
  refine Heeds.bind (heeds_lift fun x hMem => ?_) fun answer _ => ?_
  · rw [List.mem_singleton.1 hMem]
    exact .session credentials context
  · cases answer with
    | ok session => exact heeds_done _
    | error e => exact heeds_done _

/-- The secrets read for a namespace are those that are looked up for it. -/
lemma secretsRead_subset
    (hManagement : cluster.configMaps (controllerNamespace, managementConfigMap) = .ok (some data))
    (sessions : Sessions) (ns : String) :
    cluster.secretsRead sessions controllerNamespace ns ⊆
      consulted (managementNamespaceOf data) credentialsSecret ns := by
  rintro ⟨l, name⟩ ⟨x, hMem, hCall⟩
  have hConcerns := called_of_resolve hManagement sessions ns x hMem
  rw [hCall] at hConcerns
  cases hConcerns with
  | credentials hPlace => exact hPlace

/-- The contexts read for a namespace are those that are looked up for it. -/
lemma contextsRead_subset
    (hManagement : cluster.configMaps (controllerNamespace, managementConfigMap) = .ok (some data))
    (sessions : Sessions) (ns : String) :
    cluster.contextsRead sessions controllerNamespace ns ⊆
      consulted (managementNamespaceOf data) contextConfigMap ns := by
  rintro ⟨l, name⟩ ⟨hOther, x, hMem, hCall⟩
  have hConcerns := called_of_resolve hManagement sessions ns x hMem
  rw [hCall] at hConcerns
  cases hConcerns with
  | management => exact absurd rfl hOther
  | context hPlace => exact hPlace

/-- The session for a namespace does not depend on what is looked up for another namespace. -/
lemma session_of_differsFor {sessions : Sessions} {a b : String}
    (hManagement : cluster.configMaps (controllerNamespace, managementConfigMap) = .ok (some data))
    (hNamed : managementNamespaceOf data ≠ defaultNamespace) (hNe : a ≠ b)
    (hDiffers : cluster.DiffersFor (managementNamespaceOf data) b after) :
    after.session sessions controllerNamespace a =
      cluster.session sessions controllerNamespace a := by
  refine congrArg Prod.fst (Program.run_congr ?_)
  rintro ⟨call, answer⟩ hMem ⟨⟩
  refine Prod.ext ?_ rfl
  change after.answerTo sessions call = cluster.answerTo sessions call
  cases called_of_resolve hManagement sessions a _ hMem with
  | credentials hPlace =>
    have hOther := Set.disjoint_left.1 (disjoint_consulted credentialsSecret hNamed hNe) hPlace
    exact hDiffers.secrets _ hOther
  | management => exact hDiffers.configMaps _ (not_mem_consulted hNamed)
  | context hPlace =>
    have hOther := Set.disjoint_left.1 (disjoint_consulted contextConfigMap hNamed hNe) hPlace
    exact hDiffers.configMaps _ hOther
  | session credentials context => rfl

end Cluster

/-- **Namespaces have accounts of their own.**  Where a config map names a management namespace
other than the default one, the secrets that are read for two namespaces are disjoint, and so are
the contexts; all of them are among what is looked up for the namespace.  Hence the session for the
one is the same in every cluster that differs in nothing but what is looked up for the other. -/
theorem isolated_of_managed {cluster : Cluster} (sessions : Sessions) {controllerNamespace : String}
    {data : NameMap String} {a b : String}
    (hManagement : cluster.configMaps (controllerNamespace, managementConfigMap) = .ok (some data))
    (hNamed : managementNamespaceOf data ≠ defaultNamespace) (hNe : a ≠ b) :
    Disjoint (cluster.secretsRead sessions controllerNamespace a)
        (cluster.secretsRead sessions controllerNamespace b) ∧
      Disjoint (cluster.contextsRead sessions controllerNamespace a)
        (cluster.contextsRead sessions controllerNamespace b) ∧
      cluster.secretsRead sessions controllerNamespace b ⊆
        consulted (managementNamespaceOf data) credentialsSecret b ∧
      cluster.contextsRead sessions controllerNamespace b ⊆
        consulted (managementNamespaceOf data) contextConfigMap b ∧
      ∀ after : Cluster, cluster.DiffersFor (managementNamespaceOf data) b after →
        after.session sessions controllerNamespace a =
          cluster.session sessions controllerNamespace a := by
  have hSecrets := Cluster.secretsRead_subset hManagement sessions
  have hContexts := Cluster.contextsRead_subset hManagement sessions
  refine ⟨?_, ?_, hSecrets b, hContexts b, fun after hDiffers => ?_⟩
  · exact (disjoint_consulted credentialsSecret hNamed hNe).mono (hSecrets a) (hSecrets b)
  · exact (disjoint_consulted contextConfigMap hNamed hNe).mono (hContexts a) (hContexts b)
  · exact Cluster.session_of_differsFor hManagement hNamed hNe hDiffers

namespace Isolation

/-- The config map that names the management namespace. -/
def managed : NameMap String := .ofList [("namespace", " iam-admin ")]

/-- A cluster in which one team keeps its own key and the management namespace keeps the key of the
other. -/
def shared : Cluster where
  secrets place :=
    if place = ("team-a", credentialsSecret) then .ok (some (.ofList [("api-key", "key-a")]))
    else if place = ("iam-admin", "team-b-" ++ credentialsSecret) then
      .ok (some (.ofList [("api-key", "key-b")]))
    else .ok none
  configMaps place :=
    if place = ("iam-system", managementConfigMap) then .ok (some managed)
    else if place.1 = "iam-admin" then .ok (some .empty)
    else .ok none

/-- The cluster after the second team's key was replaced by an unreadable one in its own
namespace. -/
def spoiled : Cluster :=
  { shared with
    secrets := fun place =>
      if place = ("team-b", credentialsSecret) then .error (.internal "not readable" "secret")
      else if place = ("iam-admin", "team-b-" ++ credentialsSecret) then .ok none
      else shared.secrets place }

/-- The account is named by the key. -/
def byKey : Sessions := fun credentials _ => .ok ⟨credentials.apiKey⟩

/-- Nothing but the second team's key is different. -/
lemma differsFor_spoiled : shared.DiffersFor (managementNamespaceOf managed) "team-b" spoiled where
  secrets place hOther := by
    have hManagement : managementNamespaceOf managed = "iam-admin" := by decide
    rw [hManagement] at hOther
    have hOwn : place ≠ ("team-b", credentialsSecret) := fun h => hOther (.inl h)
    have hKept : place ≠ ("iam-admin", "team-b-" ++ credentialsSecret) := fun h => hOther (.inr h)
    exact (if_neg hOwn).trans (if_neg hKept)
  configMaps _ _ := rfl

end Isolation

open Isolation in
/-- A key of one team that cannot be read leaves the other team's session as it was, and fails its
own. -/
theorem isolated_of_spoiled :
    shared.configMaps ("iam-system", managementConfigMap) = .ok (some managed) ∧
      managementNamespaceOf managed ≠ defaultNamespace ∧ "team-a" ≠ "team-b" ∧
      Disjoint (shared.secretsRead byKey "iam-system" "team-a")
        (shared.secretsRead byKey "iam-system" "team-b") ∧
      Disjoint (shared.contextsRead byKey "iam-system" "team-a")
        (shared.contextsRead byKey "iam-system" "team-b") ∧
      shared.session byKey "iam-system" "team-b" = .ok ⟨"key-b"⟩ ∧
      spoiled.session byKey "iam-system" "team-b" = .error (.internal "not readable" "secret") ∧
      spoiled.session byKey "iam-system" "team-a" = .ok ⟨"key-a"⟩ := by
  have hNamed : managementNamespaceOf managed ≠ defaultNamespace := by decide
  have hManagement : shared.configMaps ("iam-system", managementConfigMap) = .ok (some managed) :=
    rfl
  have hNe : "team-a" ≠ "team-b" := by decide
  obtain ⟨hSecrets, hContexts, -, -, hSame⟩ := isolated_of_managed byKey hManagement hNamed hNe
  exact ⟨hManagement, hNamed, hNe, hSecrets, hContexts, rfl, rfl,
    (hSame spoiled differsFor_spoiled).trans rfl⟩

end Account

end IamReconciler
