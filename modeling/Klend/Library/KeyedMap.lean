import Mathlib.Data.Option.Defs
import Mathlib.Logic.Function.Basic

/-! # Maps related key by key

Two partial maps with the same keys whose values are related at every key, and
how the relation composes and survives updates.
-/

namespace KeyedMap

variable {K V : Type*} {R R' R'' : K → V → V → Prop} {m m' m'' : K → Option V} {k : K} {v v' : V}

/-- The same keys, and related values at each. -/
def Related (R : K → V → V → Prop) (m m' : K → Option V) : Prop :=
  ∀ k, Option.Rel (R k) (m k) (m' k)

namespace Related

theorem refl (h : ∀ k v, R k v v) (m : K → Option V) : Related R m m := by
  intro k
  cases m k with
  | none => exact .none
  | some v => exact .some (h k v)

theorem mono (hR : ∀ k v v', R k v v' → R' k v v') (h : Related R m m') : Related R' m m' := by
  intro k
  have hk := h k
  generalize m k = a at hk ⊢
  generalize m' k = b at hk ⊢
  cases hk with
  | none => exact .none
  | some hab => exact .some (hR _ _ _ hab)

theorem trans (hR : ∀ k a b c, R k a b → R' k b c → R'' k a c) (h : Related R m m')
    (h' : Related R' m' m'') : Related R'' m m'' := by
  intro k
  have h1 := h k
  have h2 := h' k
  generalize m k = a at h1 ⊢
  generalize m' k = b at h1 h2
  generalize m'' k = c at h2 ⊢
  cases h1 with
  | none => cases h2; exact .none
  | some hab =>
    cases h2 with
    | some hbc => exact .some (hR _ _ _ _ hab hbc)

theorem value (h : Related R m m') (hv : m k = some v) : ∃ v', m' k = some v' ∧ R k v v' := by
  have hk := h k
  rw [hv] at hk
  generalize m' k = b at hk
  cases hk with
  | some hab => exact ⟨_, rfl, hab⟩

theorem absent (h : Related R m m') (hv : m k = none) : m' k = none := by
  have hk := h k
  rw [hv] at hk
  generalize m' k = b at hk ⊢
  cases hk with
  | none => rfl

theorem value_rev (h : Related R m m') (hv : m' k = some v') : ∃ v, m k = some v ∧ R k v v' := by
  have hk := h k
  rw [hv] at hk
  generalize m k = a at hk
  cases hk with
  | some hab => exact ⟨_, rfl, hab⟩

section Update

variable [DecidableEq K]

/-- A value kept apart while the rest of the map changes, and put back at the end. -/
theorem update_of_erase (hv : m k = some v) (h : Related R (Function.update m k none) m')
    (hother : ∀ j, j ≠ k → ∀ a b, R j a b → R' j a b) (hR : R' k v v') :
    Related R' m (Function.update m' k (some v')) := by
  intro j
  by_cases hj : j = k
  · subst hj
    rw [Function.update_self, hv]
    exact .some hR
  · have hrel := h j
    rw [Function.update_of_ne hj] at hrel ⊢
    generalize m j = a at hrel ⊢
    generalize m' j = b at hrel ⊢
    cases hrel with
    | none => exact .none
    | some hab => exact .some (hother j hj _ _ hab)

theorem update (hrefl : ∀ k v, R k v v) (hv : m k = some v) (hR : R k v v') :
    Related R m (Function.update m k (some v')) := by
  have h : Related R m (Function.update (Function.update m k none) k (some v')) :=
    update_of_erase hv (refl hrefl _) (fun _ _ _ _ h ↦ h) hR
  rwa [Function.update_idem] at h

end Update

end Related

end KeyedMap
