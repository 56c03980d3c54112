import IamReconciler.Proofs.Directory.Entities
import Mathlib.Logic.Function.Basic

/-!
# What a service holds

What a remote service holds is, for each entity, what is known of it, or nothing.  A call that fails
changes nothing.  A call that creates an entity adds one that was not there; a call that deletes one
takes it away; a call that updates one, or changes its members, leaves it where it is; and all other
calls leave everything alone.  For each of these there is one statement of what the service holds
after the call.
-/

namespace IamReconciler

namespace Directory

/-- What a service holds of each entity. -/
abbrev Holdings (κ : Type) : Type :=
  Entity → Option κ

/-- What a service holds before and after a call that it has answered. -/
inductive Effects {κ : Type} : (c : Call) → c.Answer → Holdings κ → Holdings κ → Prop where
  | failed {c : Call} (e : RemoteError) (H : Holdings κ) : Effects c (.error e) H H
  | created {c : Call} {v : c.Value} {entity : Entity} {H : Holdings κ}
      (hCreated : c.created? v = some entity) (hFresh : H entity = none) (a : κ) :
      Effects c (.ok v) H (Function.update H entity (some a))
  | deleted {c : Call} {v : c.Value} {entity : Entity} {H : Holdings κ}
      (hDeletes : c.deletes? = some entity) : Effects c (.ok v) H (Function.update H entity none)
  | changed {c : Call} {v : c.Value} {entity : Entity} {H : Holdings κ}
      (hTouches : c.touches? = some entity) (hKeeps : c.deletes? = none) (a? : Option κ)
      (hSome : a?.isSome = (H entity).isSome) :
      Effects c (.ok v) H (Function.update H entity a?)
  | spared {c : Call} {v : c.Value} {H : Holdings κ} (hTouches : c.touches? = none)
      (hCreates : c.creates? = none) : Effects c (.ok v) H H

namespace Effects

variable {κ : Type} {c : Call} {v : c.Value} {entity : Entity} {H H' : Holdings κ}

/-- A call that fails changes nothing. -/
lemma eq_of_error {e : RemoteError} (hEffects : Effects c (.error e) H H') : H' = H := by
  cases hEffects
  rfl

/-- A call that neither creates nor changes an entity leaves everything alone. -/
lemma eq_of_spares {answer : c.Answer} (hEffects : Effects c answer H H')
    (hTouches : c.touches? = none) (hCreates : c.creates? = none) : H' = H := by
  cases hEffects with
  | failed => rfl
  | spared => rfl
  | created hCreated =>
    rw [Call.created?_eq_none_of_creates? hCreates] at hCreated
    cases hCreated
  | deleted hDeletes =>
    rw [Call.touches?_of_deletes? hDeletes] at hTouches
    cases hTouches
  | changed hOther =>
    rw [hTouches] at hOther
    cases hOther

/-- A call that has created an entity has added one that was not there. -/
lemma eq_of_created (hEffects : Effects c (.ok v) H H') (hCreated : c.created? v = some entity) :
    H entity = none ∧ ∃ a, H' = Function.update H entity (some a) := by
  have hCreates := Call.creates?_of_created? hCreated
  have hTouches := Call.touches?_of_creates? hCreates
  cases hEffects with
  | created hSame hFresh a =>
    cases hSame.symm.trans hCreated
    exact ⟨hFresh, a, rfl⟩
  | deleted hDeletes =>
    rw [Call.touches?_of_deletes? hDeletes] at hTouches
    cases hTouches
  | changed hOther =>
    rw [hTouches] at hOther
    cases hOther
  | spared _ hNone =>
    rw [hNone] at hCreates
    cases hCreates

/-- A call that has deleted an entity has taken it away. -/
lemma eq_of_deletes (hEffects : Effects c (.ok v) H H') (hDeletes : c.deletes? = some entity) :
    H' = Function.update H entity none := by
  cases hEffects with
  | deleted hSame =>
    cases hSame.symm.trans hDeletes
    rfl
  | created hCreated =>
    rw [Call.created?_eq_none_of_creates? (Call.creates?_of_deletes? hDeletes)] at hCreated
    cases hCreated
  | changed _ hKeeps =>
    rw [hKeeps] at hDeletes
    cases hDeletes
  | spared hTouches =>
    rw [Call.touches?_of_deletes? hDeletes] at hTouches
    cases hTouches

/-- A call that changes the members of an entity leaves it where it is. -/
lemma eq_of_regroups {answer : c.Answer} {a : κ}
    (hEffects : Effects c answer (Function.update H entity (some a)) H')
    (hRegroups : c.regroups? = some entity) : ∃ b, H' = Function.update H entity (some b) := by
  have hTouches := Call.touches?_of_regroups? hRegroups
  generalize hHeld : Function.update H entity (some a) = G at hEffects
  cases hEffects with
  | failed => exact ⟨a, hHeld.symm⟩
  | created hCreated =>
    rw [Call.touches?_of_creates? (Call.creates?_of_created? hCreated)] at hTouches
    cases hTouches
  | deleted hDeletes =>
    rw [Call.deletes?_of_regroups? hRegroups] at hDeletes
    cases hDeletes
  | changed hSame _ _ hSome =>
    cases hSame.symm.trans hTouches
    rw [← hHeld, Function.update_self] at hSome
    obtain ⟨b, rfl⟩ := Option.isSome_iff_exists.1 hSome
    rw [← hHeld, Function.update_idem]
    exact ⟨b, rfl⟩
  | spared hNone =>
    rw [hNone] at hTouches
    cases hTouches

end Effects

end Directory

end IamReconciler
