import IamReconciler.Proofs.Attributes
import IamReconciler.Proofs.Lifecycle.Applied
import IamReconciler.Proofs.Lifecycle.Records

/-!
# Subjects of access policies

An access policy applies to whom its subject attributes describe.  A policy that is sent with an
empty set of them would apply to nobody in particular, so that each way of resolving a subject has
to end with an identifier or with an error. A well-formed spec sets one selector, and only the
source of this selector is consulted.

Two of the four sources are checked: a user without an identifier counts as unusable, and a declared
group without one counts as not synchronized.  The other two are not: a service identity or a group
that the service answers with an empty identifier leaves the set of attributes empty, since setting
an attribute to an empty value changes nothing. This is the only way in which a policy without a
subject is sent (`describes_of_valid`), and it is one (`sends_nameless`).
-/

namespace IamReconciler

open Directory (Call)

namespace AccessPolicies

variable {scope : Scope} {subject : PolicySubject} {h rest : List (Exchange Pass.interface)}

/-! ## Selectors -/

/-- A selector of a subject with its value. -/
inductive Selector where
  | userEmail (email : String)
  | serviceId (id : String)
  | accessGroupId (id : String)
  | accessGroupDef (ref : AccessGroupRef)

namespace Selector

/-- The name under which a subject reports the selector. -/
def name : Selector → String
  | .userEmail _ => "userEmail"
  | .serviceId _ => "serviceID"
  | .accessGroupId _ => "accessGroupID"
  | .accessGroupDef _ => "accessGroupDef"

/-- The attribute that describes whom the selector selects. -/
def attributeName : Selector → String
  | .userEmail _ => Attributes.iamId
  | .serviceId _ => Attributes.iamId
  | .accessGroupId _ => Attributes.accessGroupId
  | .accessGroupDef _ => Attributes.accessGroupId

end Selector

/-- A subject sets one selector and no other; a reference without a name does not count. -/
inductive Selects : PolicySubject → Selector → Prop where
  | userEmail {email : String} {ref? : Option AccessGroupRef} (hSet : email ≠ "")
      (hOther : ref?.all (·.name.isEmpty)) : Selects ⟨email, "", "", ref?⟩ (.userEmail email)
  | serviceId {id : String} {ref? : Option AccessGroupRef} (hSet : id ≠ "")
      (hOther : ref?.all (·.name.isEmpty)) : Selects ⟨"", id, "", ref?⟩ (.serviceId id)
  | accessGroupId {id : String} {ref? : Option AccessGroupRef} (hSet : id ≠ "")
      (hOther : ref?.all (·.name.isEmpty)) : Selects ⟨"", "", id, ref?⟩ (.accessGroupId id)
  | accessGroupDef {ref : AccessGroupRef} (hSet : ref.name ≠ "") :
      Selects ⟨"", "", "", some ref⟩ (.accessGroupDef ref)

/-- A subject reports the selector that it sets. -/
lemma Selects.selectors_eq {sel : Selector} (hSelects : Selects subject sel) :
    subject.selectors = [sel.name] := by
  cases hSelects with
  | userEmail hSet hOther => simp [PolicySubject.selectors, hSet, hOther, Selector.name]
  | serviceId hSet hOther => simp [PolicySubject.selectors, hSet, hOther, Selector.name]
  | accessGroupId hSet hOther => simp [PolicySubject.selectors, hSet, hOther, Selector.name]
  | accessGroupDef hSet => simp [PolicySubject.selectors, hSet, Selector.name]

/-- The subject of a well-formed spec sets one selector. -/
lemma exists_selects {spec : AccessPolicySpec} (hValid : Kind.accessPolicy.validate spec = .ok ()) :
    ∃ sel, Selects spec.subject sel := by
  have hRules := Rule.check_eq_ok_iff.1 hValid
  simp only [Kind.rules, AccessPolicySpec.rules, List.forall_mem_cons] at hRules
  obtain ⟨hOne, -⟩ := hRules
  obtain ⟨⟨email, serviceId, groupId, ref?⟩, roles, target⟩ := spec
  have hOne : (PolicySubject.selectors ⟨email, serviceId, groupId, ref?⟩).length = 1 := by
    simpa using hOne
  by_cases hEmail : email = "" <;> by_cases hService : serviceId = "" <;> by_cases hGroup :
    groupId = "" <;>
    by_cases hRef : ref?.all (·.name.isEmpty) <;>
    simp [PolicySubject.selectors, hEmail, hService, hGroup, hRef] at hOne
  -- what is left are the four cases in which one selector is set
  · subst hEmail hService hGroup
    cases ref? with
    | none => exact absurd rfl hRef
    | some ref => exact ⟨_, .accessGroupDef fun hName => hRef (String.isEmpty_iff.2 hName)⟩
  · subst hEmail hService
    exact ⟨_, .accessGroupId hGroup hRef⟩
  · subst hEmail hGroup
    exact ⟨_, .serviceId hService hRef⟩
  · subst hService hGroup
    exact ⟨_, .userEmail hEmail hRef⟩

/-! ## Resolution -/

/-- An exchange consults the source of a selector. -/
inductive Consults (scope : Scope) : Selector → Exchange Pass.interface → Prop where
  | found {email : String} (answer : Except RemoteError (Option AccountUser)) :
      Consults scope (.userEmail email) ⟨.directory (.findUser scope.accountId email), answer⟩
  | invited {email : String} (answer : Except RemoteError Unit) :
      Consults scope (.userEmail email) ⟨.directory (.inviteUser scope.accountId email), answer⟩
  | removed {email id : String} (answer : Except RemoteError Unit) :
      Consults scope (.userEmail email) ⟨.directory (.removeUser scope.accountId id), answer⟩
  | identity {id : String} (answer : Except RemoteError ServiceIdentity) :
      Consults scope (.serviceId id) ⟨.directory (.getServiceIdentity id), answer⟩
  | group {id : String} (answer : Except RemoteError (RemoteGroup × Etag)) :
      Consults scope (.accessGroupId id) ⟨.directory (.getGroup id), answer⟩
  | declared {ref : AccessGroupRef} (answer : Except Error (Option (Resource .accessGroup))) :
      Consults scope (.accessGroupDef ref)
        ⟨.reference (.accessGroup (orNamespace ref.ns scope.ns) ref.name), answer⟩

/-- The source of a selector knows whom it selects, but gives an empty identifier. -/
inductive Unnamed (h : List (Exchange Pass.interface)) : Selector → Prop where
  | identity {id : String} {identity : ServiceIdentity}
      (hMem : ⟨.directory (.getServiceIdentity id), .ok identity⟩ ∈ h)
      (hEmpty : identity.iamId = "") :
      Unnamed h (.serviceId id)
  | group {id : String} {group : RemoteGroup} {etag : Etag}
      (hMem : ⟨.directory (.getGroup id), .ok (group, etag)⟩ ∈ h) (hEmpty : group.id = "") :
      Unnamed h (.accessGroupId id)

/-- What attributes describe whom a selector selects: one with a value, or none when the source
gives an empty identifier. -/
inductive Describes (h : List (Exchange Pass.interface)) (sel : Selector) : Attributes → Prop where
  | named {a : Attributes} {value : String} (hOnly : a.toList = [(sel.attributeName, value)])
      (hValue : value ≠ "") : Describes h sel a
  | unnamed (hUnnamed : Unnamed h sel) : Describes h sel Attributes.empty

/-- One attribute with a value is all that there is after it was set. -/
lemma toList_set_empty {name value : String} (hValue : value ≠ "") :
    (Attributes.empty.set name value).toList = [(name, value)] := by
  unfold Attributes.set
  rw [dif_neg hValue]
  rfl

/-- What a resolution makes of the identifier that it ends with. -/
lemma describes_set (sel : Selector) {value : String} (hUnnamed : value = "" ↔ Unnamed h sel) :
    Describes h sel (Attributes.empty.set sel.attributeName value) ∧
      (Unnamed h sel → Attributes.empty.set sel.attributeName value = Attributes.empty) := by
  by_cases hValue : value = ""
  · have hNone : Attributes.empty.set sel.attributeName value = Attributes.empty := by
      unfold Attributes.set
      rw [dif_pos hValue]
    rw [hNone]
    exact ⟨.unnamed (hUnnamed.1 hValue), fun _ => rfl⟩
  · exact ⟨.named (toList_set_empty hValue) hValue, fun hNone => absurd (hUnnamed.2 hNone) hValue⟩

/-- The users of the account are what resolving a user consults. -/
lemma consults_of_inviting {email : String} {x : Except Error String}
    (hInviting : Resolve.Inviting scope.accountId email h x) :
    ∀ y ∈ h, Consults scope (.userEmail email) y := by
  have hSought {s : List (Exchange Pass.interface)} {z : Except Error (Option AccountUser)}
      (hSeeking : Resolve.Seeking scope.accountId email s z) :
      ∀ y ∈ s, Consults scope (.userEmail email) y := by
    cases hSeeking with
    | found => exact List.forall_mem_singleton.2 (.found _)
    | unknown => exact List.forall_mem_singleton.2 (.found _)
    | uninvited => exact List.forall_mem_cons.2 ⟨.found _, List.forall_mem_singleton.2 (.invited _)⟩
    | invited =>
      exact List.forall_mem_cons.2 ⟨.found _,
        List.forall_mem_cons.2 ⟨.invited _, List.forall_mem_singleton.2 (.found _)⟩⟩
  cases hInviting with
  | failed hSeeking => exact hSought hSeeking
  | absent hSeeking => exact hSought hSeeking
  | usable hSeeking _ => exact hSought hSeeking
  | unusable hSeeking _ answer => exact forall_mem_concat_iff.2 ⟨hSought hSeeking, .removed answer⟩

/-- Only the source of a selector is consulted, and the identifier that it leads to is empty only if
the source gives an empty one. -/
structure Answers (scope : Scope) (sel : Selector) (h : List (Exchange Pass.interface))
    (x : Except Error String) : Prop where
  consults : ∀ y ∈ h, Consults scope sel y
  named : ∀ id, x = .ok id → (id = "" ↔ Unnamed h sel)

/-- A user is resolved to an identifier that is not empty. -/
lemma answers_of_invitedUser {email : String} {x : Except Error String}
    (hTrace : Pass.Traces (Resolve.invitedUser scope.accountId email) h x) :
    Answers scope (.userEmail email) h x where
  consults := consults_of_inviting (Resolve.inviting_of_traces hTrace)
  named := by
    rintro id rfl
    cases Resolve.inviting_of_traces hTrace with
    | usable _ hUsable =>
        exact ⟨fun hEmpty => absurd hEmpty (AccountUser.iamId_ne_empty hUsable), nofun⟩

/-- A service identity is resolved to the identifier that the service gives. -/
lemma answers_of_serviceIdentity {id : String} {x : Except Error String}
    (hTrace : Pass.Traces (Resolve.serviceIdentity id) h x) :
    Answers scope (.serviceId id) h x := by
  rcases Pass.traces_remote_bind_iff.1 hTrace with ⟨e, rfl, rfl⟩ | ⟨identity, rest, hRest, rfl⟩
  · exact ⟨List.forall_mem_singleton.2 (.identity _), nofun⟩
  · obtain ⟨rfl, rfl⟩ := Pass.traces_pure_iff.1 hRest
    refine ⟨List.forall_mem_singleton.2 (.identity _), ?_⟩
    rintro _ ⟨⟩
    refine ⟨fun hEmpty => .identity List.mem_cons_self hEmpty, ?_⟩
    rintro ⟨hMem, hEmpty⟩
    cases List.mem_singleton.1 hMem
    exact hEmpty

/-- A declared group is resolved to an identifier that is not empty. -/
lemma answers_of_declaredGroup {ref : AccessGroupRef} {x : Except Error String}
    (hTrace : Pass.Traces (declaredGroup scope ref) h x) :
    Answers scope (.accessGroupDef ref) h x := by
  rcases Pass.traces_bind_iff.1 hTrace with ⟨e, hLookUp, rfl⟩ | ⟨first, found, rest,
    hLookUp, hRest, rfl⟩
  · obtain rfl := Pass.traces_lookUpGroup_iff.1 hLookUp
    exact ⟨List.forall_mem_singleton.2 (.declared _), nofun⟩
  obtain rfl := Pass.traces_lookUpGroup_iff.1 hLookUp
  cases found with
  | none =>
    obtain ⟨rfl, rfl⟩ := Pass.traces_throw_iff.1 hRest
    exact ⟨List.forall_mem_singleton.2 (.declared _), nofun⟩
  | some group =>
    rcases Pass.traces_ite_iff.1 hRest with ⟨hRecorded, hPure⟩ | ⟨-, hThrow⟩
    · obtain ⟨rfl, rfl⟩ := Pass.traces_pure_iff.1 hPure
      refine ⟨List.forall_mem_singleton.2 (.declared _), ?_⟩
      rintro _ ⟨⟩
      exact ⟨fun hEmpty => absurd hEmpty (Resource.isRecorded_iff.1 hRecorded), nofun⟩
    · obtain ⟨rfl, rfl⟩ := Pass.traces_throw_iff.1 hThrow
      exact ⟨List.forall_mem_singleton.2 (.declared _), nofun⟩

/-- A subject is described by the identifier that the source of its selector leads to. -/
lemma describes_of_answers {sel : Selector} {source : Pass String} {x : Except Error Attributes}
    (hAnswers : ∀ g z, Pass.Traces source g z → Answers scope sel g z)
    (hTrace : Pass.Traces (do
      let id ← source
      pure (Attributes.empty.set sel.attributeName id)) h x) :
    (∀ y ∈ h, Consults scope sel y) ∧
      ∀ a, x = .ok a → Describes h sel a ∧ (Unnamed h sel → a = Attributes.empty) := by
  rcases Pass.traces_bind_iff.1 hTrace with ⟨e, hSource, rfl⟩ | ⟨first, id, rest,
    hSource, hRest, rfl⟩
  · exact ⟨(hAnswers _ _ hSource).consults, nofun⟩
  · obtain ⟨rfl, rfl⟩ := Pass.traces_pure_iff.1 hRest
    rw [List.append_nil]
    refine ⟨(hAnswers _ _ hSource).consults, ?_⟩
    rintro _ ⟨⟩
    exact describes_set sel ((hAnswers _ _ hSource).named id rfl)

/-- A subject that sets one selector is resolved by its source, and described by one attribute
unless the source gives an empty identifier. -/
lemma describes_of_traces {sel : Selector} {x : Except Error Attributes}
    (hSelects : Selects subject sel) (hTrace : Pass.Traces (subjectAttributes scope subject) h x) :
    (∀ y ∈ h, Consults scope sel y) ∧
      ∀ a, x = .ok a → Describes h sel a ∧ (Unnamed h sel → a = Attributes.empty) := by
  unfold subjectAttributes at hTrace
  cases hSelects with
  | userEmail hSet _ =>
    rw [if_pos (by simpa using hSet)] at hTrace
    exact describes_of_answers (fun _ _ => answers_of_invitedUser) hTrace
  | serviceId hSet _ =>
    rw [if_neg (by simp), if_pos (by simpa using hSet)] at hTrace
    exact describes_of_answers (fun _ _ => answers_of_serviceIdentity) hTrace
  | @accessGroupId id ref? hSet _ =>
    rw [if_neg (by simp), if_neg (by simp), if_pos (by simpa using hSet)] at hTrace
    -- the answer has more than the identifier, so that the identifier is set in the same step
    rcases Pass.traces_remote_bind_iff.1 hTrace with ⟨e, rfl, rfl⟩ | ⟨⟨group, etag⟩,
      rest, hRest, rfl⟩
    · exact ⟨List.forall_mem_singleton.2 (.group _), nofun⟩
    obtain ⟨rfl, rfl⟩ := Pass.traces_pure_iff.1 hRest
    refine ⟨List.forall_mem_singleton.2 (.group _), ?_⟩
    rintro _ ⟨⟩
    refine describes_set (.accessGroupId id) ⟨fun hEmpty => .group List.mem_cons_self hEmpty, ?_⟩
    rintro (_ | ⟨hMem, hEmpty⟩)
    cases List.mem_singleton.1 hMem
    exact hEmpty
  | accessGroupDef hSet =>
    rw [if_neg (by simp), if_neg (by simp), if_neg (by simp)] at hTrace
    exact describes_of_answers (fun _ _ => answers_of_declaredGroup) hTrace

/-! ## Policies that are sent -/

/-- The policy that a call sends, to be created or to replace another. -/
def sends? : Pass.Call → Option Policy
  | .directory (.createPolicy policy) => some policy
  | .directory (.updatePolicy _ policy _) => some policy
  | _ => none

/-- Nothing is sent by a call that spares all entities. -/
lemma sends?_of_spares {c : Pass.Call} (hSpares : c.Spares) : sends? c = none := by
  cases c with
  | directory d =>
    obtain ⟨hTouches, hCreates⟩ := hSpares d rfl
    cases d <;>
      first
      | rfl
      | exact absurd hTouches (Option.some_ne_none _)
      | exact absurd hCreates (Option.some_ne_none _)
  | store => rfl
  | openAccount => rfl
  | reference => rfl

/-- A deletion sends nothing. -/
lemma sends?_of_deletes? {c : Call} {entity : Directory.Entity}
    (hDeletes : c.deletes? = some entity) : sends? (.directory c) = none := by
  cases c <;> first | rfl | exact absurd hDeletes nofun

/-- Nothing is sent. -/
def Unsent (h : List (Exchange Pass.interface)) : Prop :=
  ∀ y ∈ h, sends? y.call = none

/-- Nothing is sent by what spares all entities. -/
lemma unsent_of_sparing (hSparing : Sparing h) : Unsent h :=
  fun y hMem => sends?_of_spares (hSparing y hMem)

/-- Nothing is sent by what calls no remote service. -/
lemma unsent_of_quiet (hQuiet : ∀ y ∈ h, ¬y.call.isRemote) : Unsent h :=
  unsent_of_sparing (sparing_of_quiet hQuiet)

/-- Nothing is sent by looking things up. -/
lemma unsent_of_isRead (hRead : ∀ y ∈ h, y.call.isRead) : Unsent h :=
  unsent_of_sparing (sparing_of_isRead hRead)

/-- Nothing is sent while a policy is resolved. -/
lemma unsent_of_policy {spec : AccessPolicySpec} {x : Except Error Policy}
    (hResolve : Pass.Traces (policy scope spec) h x) : Unsent h :=
  unsent_of_sparing ((heeds_policy scope spec h x hResolve).forall_mem fun _ _ hMay => hMay.spares)

/-- What the source has not named by some exchanges it has not named by more. -/
lemma Describes.mono {sel : Selector} {a : Attributes} (hDescribes : Describes h sel a)
    (hMore : ∀ y ∈ h, y ∈ rest) : Describes rest sel a := by
  cases hDescribes with
  | named hOnly hValue => exact .named hOnly hValue
  | unnamed hUnnamed =>
    cases hUnnamed with
    | identity hMem hEmpty => exact .unnamed (.identity (hMore _ hMem) hEmpty)
    | group hMem hEmpty => exact .unnamed (.group (hMore _ hMem) hEmpty)

/-- The policy of a spec has one set of subject attributes, which describe whom the spec selects. -/
lemma subjects_of_policy {spec : AccessPolicySpec} {sel : Selector} {p : Policy}
    (hSelects : Selects spec.subject sel) (hTrace : Pass.Traces (policy scope spec) h (.ok p)) :
    ∃ a, p.subjects = [a] ∧ Describes h sel a := by
  rcases Pass.traces_bind_iff.1 hTrace with ⟨e, -, hError⟩ | ⟨first, a, rest, hSubject, hRest, rfl⟩
  · cases hError
  rcases Pass.traces_bind_iff.1 hRest with ⟨e, -, hError⟩ | ⟨second, roles, last, -, hLast, rfl⟩
  · cases hError
  obtain ⟨-, hPolicy⟩ := Pass.traces_pure_iff.1 hLast
  cases hPolicy
  obtain ⟨-, hDescribes⟩ := describes_of_traces hSelects hSubject
  exact ⟨a, rfl, (hDescribes a rfl).1.mono fun y hMem => List.mem_append_left _ hMem⟩

/-- A policy that is sent describes whom the resource selects that the store has returned last, if
it selects somebody by one selector. -/
def Addresses (before : List (Exchange Pass.interface)) (y : Exchange Pass.interface) : Prop :=
  ∀ p, sends? y.call = some p → ∃ r : Resource .accessPolicy, LastWord (Returns r) before ∧
    ∀ sel, Selects r.spec.subject sel → ∃ a, p.subjects = [a] ∧ Describes before sel a

/-- More exchanges that send nothing. -/
lemma inTurn_addresses_append (hTurn : InTurn Addresses h) (hUnsent : Unsent rest) :
    InTurn Addresses (h ++ rest) := by
  refine inTurn_append_iff.2 ⟨hTurn, (inTurn_of_forall hUnsent).imp fun _ _ hNone p hSent => ?_⟩
  rw [hNone] at hSent
  cases hSent

/-- What calls no remote service sends no policy. -/
lemma addresses_of_quiet (hQuiet : ∀ y ∈ h, ¬y.call.isRemote) : InTurn Addresses h :=
  inTurn_addresses_append (h := []) inTurn_nil (unsent_of_quiet hQuiet)

variable {settings : Settings} {key : Key} {r : Resource .accessPolicy} {x : Except Error Outcome}

/-- A pass that has come to a resource, and has read and resolved what it needs, sends what it has
resolved. -/
lemma inTurn_addresses_send {reading resolving : List (Exchange Pass.interface)}
    {p : Policy} {c : Call} (hR : Reached r h) (hReading : ∀ y ∈ reading, y.call.isRead)
    (hPolicy : Pass.Traces (policy scope r.spec) resolving (.ok p))
    (hSends : sends? (.directory c) = some p) (answer : c.Answer) (hRest : Unsent rest) :
    InTurn Addresses (h ++ (reading ++ (resolving ++ ⟨.directory c, answer⟩ :: rest))) := by
  have hOther : ∀ y ∈ reading ++ resolving, y.call.isStore = false := by
    refine List.forall_mem_append.2 ⟨isStore_of_search hReading, ?_⟩
    exact (heeds_policy scope r.spec resolving _ hPolicy).forall_mem fun _ _ hMay =>
      Pass.Call.isStore_of_needsAccount hMay.needsAccount
  have hUnsent : Unsent (h ++ (reading ++ resolving)) :=
    List.forall_mem_append.2 ⟨unsent_of_quiet hR.quiet,
      List.forall_mem_append.2 ⟨unsent_of_isRead hReading, unsent_of_policy hPolicy⟩⟩
  have hSent : Addresses (h ++ (reading ++ resolving)) ⟨.directory c, answer⟩ := by
    intro q hq
    cases hSends.symm.trans hq
    refine ⟨r, hR.last.append hOther, fun sel hSelects => ?_⟩
    obtain ⟨a, hOnly, hDescribes⟩ := subjects_of_policy hSelects hPolicy
    exact ⟨a, hOnly, hDescribes.mono fun y hMem =>
      List.mem_append_right _ (List.mem_append_right _ hMem)⟩
  have hTurn := inTurn_addresses_append
    (inTurn_concat_iff.2 ⟨inTurn_addresses_append (h := []) inTurn_nil hUnsent, hSent⟩) hRest
  simpa only [List.nil_append, List.append_assoc, List.cons_append] using hTurn

/-- In a creation the policy that is sent describes whom the resource selects. -/
lemma addresses_of_creating {session : Session} (hR : Reached r h)
    (hCreating : Lifecycle.Creating settings ⟨session, key.ns⟩ r rest x) :
    InTurn Addresses (h ++ rest) := by
  -- a policy is created by one call, after which nothing else is sent
  have hCreated {first second last : List (Exchange Pass.interface)} {p : Policy}
      {z : Except Error RemoteRef}
      (hResolve : Pass.Traces (policy ⟨session, key.ns⟩ r.spec) first (.ok p))
      (hCreate : Pass.Traces (Policies.create p) second z) (hLast : Unsent last) :
      InTurn Addresses (h ++ (first ++ (second ++ last))) := by
    rcases Pass.traces_remote_bind_iff.1 hCreate with ⟨e, rfl, -⟩ | ⟨made, ending, hEnd, rfl⟩
    · exact inTurn_addresses_send (c := .createPolicy p) hR (List.forall_mem_nil _) hResolve rfl
        (.error e) hLast
    · obtain ⟨rfl, -⟩ := Pass.traces_pure_iff.1 hEnd
      exact inTurn_addresses_send (c := .createPolicy p) hR (List.forall_mem_nil _) hResolve rfl
        (.ok made) hLast
  cases hCreating with
  | unresolved hResolve hTold =>
    exact inTurn_addresses_append (addresses_of_quiet hR.quiet)
      (List.forall_mem_append.2 ⟨unsent_of_policy hResolve, unsent_of_quiet hTold.quiet⟩)
  | uncreated hResolve hCreate hTold =>
      exact hCreated hResolve hCreate (unsent_of_quiet hTold.quiet)
  | recorded hResolve hCreate stored =>
      exact hCreated hResolve hCreate (List.forall_mem_singleton.2 rfl)
  | unrecorded hResolve hCreate hDeletes answer =>
    exact hCreated hResolve hCreate
      (List.forall_mem_cons.2 ⟨rfl, List.forall_mem_singleton.2 (sends?_of_deletes? hDeletes)⟩)

/-- In a synchronization the policy that is sent describes whom the resource selects. -/
lemma addresses_of_syncing {session : Session} (hR : Reached r h)
    (hSyncing : Lifecycle.Syncing settings ⟨session, key.ns⟩ r rest x) :
    InTurn Addresses (h ++ rest) := by
  have hReading {first : List (Exchange Pass.interface)} {z : Except Error (Policy × Etag)}
      (hFetch : Pass.Traces (Policies.fetch r.remoteId) first z) : ∀ y ∈ first, y.call.isRead :=
    isRead_of_fetch (k := .accessPolicy) hFetch
  have hKept {first second last : List (Exchange Pass.interface)} {y : Except Error (Policy × Etag)}
      {z : Except Error Policy} (hFetch : Pass.Traces (Policies.fetch r.remoteId) first y)
      (hResolve : Pass.Traces (policy ⟨session, key.ns⟩ r.spec) second z) (hLast : Unsent last) :
      InTurn Addresses (h ++ (first ++ (second ++ last))) := by
    exact inTurn_addresses_append (addresses_of_quiet hR.quiet) (List.forall_mem_append.2
      ⟨unsent_of_isRead (hReading hFetch), List.forall_mem_append.2
        ⟨unsent_of_policy hResolve, hLast⟩⟩)
  have hUpdated {first second third last : List (Exchange Pass.interface)} {found : Policy × Etag}
      {p : Policy} {z : Except Error RemoteRef}
      (hFetch : Pass.Traces (Policies.fetch r.remoteId) first (.ok found))
      (hResolve : Pass.Traces (policy ⟨session, key.ns⟩ r.spec) second (.ok p))
      (hUpdate : Pass.Traces (Policies.update r.remoteId p found.2) third z) (hLast : Unsent last) :
      InTurn Addresses (h ++ (first ++ (second ++ (third ++ last)))) := by
    rcases Pass.traces_remote_bind_iff.1 hUpdate with ⟨e, rfl, -⟩ | ⟨updated, ending, hEnd, rfl⟩
    · exact inTurn_addresses_send (c := .updatePolicy r.remoteId p found.2) hR
        (hReading hFetch) hResolve rfl (.error e) hLast
    · obtain ⟨rfl, -⟩ := Pass.traces_pure_iff.1 hEnd
      exact inTurn_addresses_send (c := .updatePolicy r.remoteId p found.2) hR
        (hReading hFetch) hResolve rfl (.ok updated) hLast
  cases hSyncing with
  | forgotten hFetch answer =>
    exact inTurn_addresses_append (addresses_of_quiet hR.quiet)
      (List.forall_mem_append.2 ⟨unsent_of_isRead (hReading hFetch),
        List.forall_mem_singleton.2 rfl⟩)
  | unresolved hFetch hResolve hTold => exact hKept hFetch hResolve (unsent_of_quiet hTold.quiet)
  | agreed hFetch hResolve _ _ =>
    have hTurn := hKept hFetch hResolve (List.forall_mem_nil _)
    rwa [List.append_nil] at hTurn
  | synchronized hFetch hResolve _ _ answer =>
      exact hKept hFetch hResolve (List.forall_mem_singleton.2 rfl)
  | unchanged hFetch hResolve _ hUpdate hTold =>
    exact hUpdated hFetch hResolve hUpdate (unsent_of_quiet hTold.quiet)
  | changed hFetch hResolve _ hUpdate answer =>
    exact hUpdated hFetch hResolve hUpdate (List.forall_mem_singleton.2 rfl)

/-- In a deletion no policy is sent. -/
lemma addresses_of_deleting (hR : Reached r h) (hDeleting : Lifecycle.Deleting r rest x) :
    InTurn Addresses (h ++ rest) := by
  have hRemoved {first : List (Exchange Pass.interface)} (hRemoving : Lifecycle.Removing r first) :
      Unsent first := by
    cases hRemoving with
    | unrecorded => exact List.forall_mem_nil _
    | removed _ hDeletes _ => exact List.forall_mem_singleton.2 (sends?_of_deletes? hDeletes)
  refine inTurn_addresses_append (addresses_of_quiet hR.quiet) ?_
  cases hDeleting with
  | kept _ hDeletes _ hTold =>
    exact List.forall_mem_cons.2 ⟨sends?_of_deletes? hDeletes, unsent_of_quiet hTold.quiet⟩
  | unstated hRemoving =>
      exact List.forall_mem_append.2 ⟨hRemoved hRemoving, List.forall_mem_singleton.2 rfl⟩
  | stated hRemoving hRelease =>
    exact List.forall_mem_append.2 ⟨hRemoved hRemoving,
      List.forall_mem_cons.2 ⟨rfl, unsent_of_quiet (Lifecycle.quiet_of_release hRelease)⟩⟩

/-- Whatever is answered to a pass, a policy that it sends describes whom the resource selects. -/
lemma addresses_of_run {trace : List (Exchange Pass.interface)} {outcome : Outcome}
    (hRun : (reconcile settings .accessPolicy key).Runs (.free _) () trace outcome ()) :
    InTurn Addresses trace := by
  obtain ⟨x, hPassing, rfl⟩ := Lifecycle.passing_of_reconcile hRun
  cases outline_of_passing hPassing with
  | calm hCalm => exact addresses_of_quiet hCalm.quiet
  | deleting hReached hDeleting => exact addresses_of_deleting hReached hDeleting
  | syncing hReached _ hSyncing => exact addresses_of_syncing hReached hSyncing
  | creating hReached _ hCreating => exact addresses_of_creating hReached hCreating

end AccessPolicies

open AccessPolicies

/-- A well-formed spec selects its subject by one selector.  Resolving the subject consults the
source of this selector and no other, whatever is answered; if it succeeds there is one attribute
with a value, or none exactly when the source is that of a service identity or of a group and has
answered with an empty identifier.  And every policy that any pass sends for the spec, to be created
or to replace another, has one set of subject attributes, of which the same holds. -/
theorem describes_of_valid {spec : AccessPolicySpec}
    (hValid : Kind.accessPolicy.validate spec = .ok ()) :
    ∃ sel, Selects spec.subject sel ∧ spec.subject.selectors = [sel.name] ∧
      (∀ scope h x, Pass.Traces (subjectAttributes scope spec.subject) h x →
        (∀ y ∈ h, Consults scope sel y) ∧
          ∀ a, x = .ok a → Describes h sel a ∧ (Unnamed h sel → a = Attributes.empty)) ∧
        ∀ settings key trace outcome,
          (reconcile settings .accessPolicy key).Runs (.free _) () trace outcome () →
            ∀ before y after p, trace = before ++ y :: after → sends? y.call = some p →
              (∀ r : Resource .accessPolicy, LastWord (Returns r) before → r.spec = spec) →
                ∃ a, p.subjects = [a] ∧ Describes before sel a := by
  obtain ⟨sel, hSelects⟩ := exists_selects hValid
  refine ⟨sel, hSelects, hSelects.selectors_eq, fun scope h x hTrace =>
    describes_of_traces hSelects hTrace, ?_⟩
  intro settings key trace outcome hRun before y after p hSplit hSends hSpec
  obtain ⟨r, hLast, hDescribes⟩ := addresses_of_run hRun before y after hSplit p hSends
  rw [← hSpec r hLast] at hSelects
  exact hDescribes sel hSelects

/-! ## A service identity without an identifier -/

namespace AccessPolicies

/-- A policy for a service identity that no pass has seen. -/
def newPolicy : Resource .accessPolicy where
  metadata := { name := some "p", ns := some "team-a" }
  spec := ⟨⟨"", "svc", "", none⟩, ⟨["Viewer"], [], []⟩,
    { PolicyTarget.blank with serviceClass := "cos" }⟩
  status := none

/-- The policy after it was written as pending. -/
def pendingPolicy : Resource .accessPolicy := newPolicy.moveTo .processing

/-- The policy after it was given the finalizer. -/
def heldPolicy : Resource .accessPolicy :=
  pendingPolicy.withFinalizers (pendingPolicy.metadata.finalizerSet.add Kind.accessPolicy.finalizer)

/-- What is sent when the service identity has a given identifier. -/
def sentPolicy (iamId : String) : Policy :=
  ⟨.access, [Attributes.empty.set Attributes.iamId iamId], [⟨"r1", "Viewer"⟩],
    [targetAttributes newPolicy.spec.target "account"]⟩

/-- The calls of a pass that creates the policy when the service identity has a given identifier. -/
def policyTrace (iamId : String) : List (Exchange Pass.interface) :=
  [ ⟨.store (.get .accessPolicy ⟨"team-a", "p"⟩), .ok (some newPolicy)⟩,
    ⟨.store (.updateStatus .accessPolicy pendingPolicy), .ok pendingPolicy⟩,
    ⟨.openAccount "team-a", .ok ⟨"account"⟩⟩,
    ⟨.store (.update .accessPolicy heldPolicy), .ok heldPolicy⟩,
    ⟨.directory (.getServiceIdentity "svc"), .ok ⟨"svc", iamId⟩⟩,
    ⟨.directory (.serviceRoles "cos"), .ok [⟨"r1", "Viewer"⟩]⟩,
    ⟨.directory (.createPolicy (sentPolicy iamId)), .ok ⟨"policy-1", sentPolicy iamId⟩⟩,
    ⟨.store (.updateStatus .accessPolicy
      ((heldPolicy.recordApplied ⟨"policy-1", none⟩).moveTo (.created .accessPolicy))),
      .ok heldPolicy⟩ ]

/-- The pass that creates the policy. -/
lemma runs_policy (iamId : String) :
    (reconcile {} .accessPolicy ⟨"team-a", "p"⟩).Runs (.free _) () (policyTrace iamId)
      (.requeue 150) () :=
  .answered _ <| .answered _ <| .answered _ <| .answered _ <| .answered _ <|
  .answered _ <| .answered _ <|
    .answered _ <| .done _ _

/-- Whatever the store has returned when the policy is sent, its spec is that of the policy. -/
lemma spec_of_policyTrace {iamId : String} {r : Resource .accessPolicy}
    (hLast : LastWord (Returns r) ((policyTrace iamId).take 6)) : r.spec = newPolicy.spec := by
  obtain ⟨earlier, y, since, hSplit, -, hReturns, -⟩ := hLast
  have hMem : y ∈ (policyTrace iamId).take 6 := by
    rw [hSplit]
    exact List.mem_append_right earlier List.mem_cons_self
  simp only [policyTrace, List.take, List.mem_cons] at hMem
  rcases hMem with rfl | rfl | rfl | rfl | rfl | rfl | hNone
  all_goals first | exact absurd hNone List.not_mem_nil | cases hReturns
  all_goals rfl

end AccessPolicies

/-- The policy for a service identity with an identifier is sent with attributes that describe the
identity. -/
theorem describes_of_identity :
    ∃ sel a, Selects newPolicy.spec.subject sel ∧ newPolicy.spec.subject.selectors = [sel.name] ∧
      (sentPolicy "iam-svc").subjects = [a] ∧ Describes ((policyTrace "iam-svc").take 6) sel a := by
  have hValid : Kind.accessPolicy.validate newPolicy.spec = .ok () := rfl
  obtain ⟨sel, hSelects, hName, -, hSent⟩ := describes_of_valid hValid
  obtain ⟨a, hOnly, hDescribes⟩ := hSent {} ⟨"team-a", "p"⟩ _ _ (runs_policy "iam-svc")
    ((policyTrace "iam-svc").take 6) _ ((policyTrace "iam-svc").drop 7)
      (sentPolicy "iam-svc") rfl rfl
    fun r hLast => spec_of_policyTrace hLast
  exact ⟨sel, a, hSelects, hName, hOnly, hDescribes⟩

/-- A policy without any subject attribute is sent, and the pass that sends it goes well: the spec
is well formed, but the service has answered with a service identity whose identifier is empty. -/
theorem sends_nameless :
    newPolicy.validate = .ok () ∧
      ∃ trace,
        (reconcile {} .accessPolicy ⟨"team-a", "p"⟩).Runs (.free _) () trace (.requeue 150) () ∧
          ∃ y ∈ trace, ∃ p, sends? y.call = some p ∧ p.subjects = [Attributes.empty] ∧
            Attributes.empty.toList = [] := by
  refine ⟨rfl, policyTrace "", runs_policy "",
    ⟨.directory (.createPolicy (sentPolicy "")), .ok ⟨"policy-1", sentPolicy ""⟩⟩, ?_,
    _, rfl, rfl, rfl⟩
  exact List.mem_of_getElem? (i := 6) rfl

end IamReconciler
