import Mathlib.Algebra.BigOperators.Group.Finset.Piecewise
import Mathlib.Algebra.Order.BigOperators.Group.Finset

/-! # Pools

An amount held for finitely many holders, each with a claim to a part of it, and the
claims add up to the amount.
-/

namespace Pool

variable {K : Type*} {shares : K → ℕ} {total total' n : ℕ} {k : K}

/-- The shares of finitely many holders add up to the total. -/
def Holds (shares : K → ℕ) (total : ℕ) : Prop :=
  ∃ S : Finset K, (∀ k, k ∉ S → shares k = 0) ∧ ∑ k ∈ S, shares k = total

theorem holds_zero : Holds (fun _ : K ↦ 0) 0 := ⟨∅, fun _ _ ↦ rfl, rfl⟩

namespace Holds

variable (h : Holds shares total)
include h

/-- The total is the sum over any set that misses no holder. -/
theorem sum_eq (S : Finset K) (hS : ∀ k, k ∉ S → shares k = 0) : ∑ k ∈ S, shares k = total := by
  classical
  obtain ⟨T, hT, rfl⟩ := h
  calc ∑ k ∈ S, shares k
      = ∑ k ∈ S ∪ T, shares k :=
        Finset.sum_subset Finset.subset_union_left fun k _ hk ↦ hS k hk
    _ = ∑ k ∈ T, shares k :=
        (Finset.sum_subset Finset.subset_union_right fun k _ hk ↦ hT k hk).symm

/-- One share changes, and the total with it. -/
theorem update [DecidableEq K] (htotal : total' + shares k = total + n) :
    Holds (Function.update shares k n) total' := by
  obtain ⟨S, hS, rfl⟩ := h
  have hinsert : ∑ j ∈ insert k S, shares j = ∑ j ∈ S, shares j :=
    (Finset.sum_subset (Finset.subset_insert k S) fun j _ hj ↦ hS j hj).symm
  refine ⟨insert k S, fun j hj ↦ ?_, ?_⟩
  · rw [Finset.mem_insert, not_or] at hj
    rw [Function.update_of_ne hj.1]
    exact hS j hj.2
  · have hk := Finset.mem_insert_self k S
    have hsplit := Finset.sum_eq_add_sum_sdiff_singleton_of_mem hk shares
    rw [Finset.sum_update_of_mem hk]
    omega

end Holds

end Pool
