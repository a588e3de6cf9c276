import Mathlib.Data.List.Nodup
import Mathlib.Logic.Function.Basic

/-! # Overwriting settings

A state whose settings are seen one by one, and operations that each overwrite a single
setting. What several of them lead to does not depend on their order.
-/

namespace Settings

variable {κ ν σ ε : Type} {view : σ → κ → ν} {new : κ → ν} {op : κ → σ → Except ε σ}
  {ks : List κ} {k : κ} {s s' : σ}

/-- One operation after the other. -/
def run (op : κ → σ → Except ε σ) (ks : List κ) (s : σ) : Except ε σ :=
  ks.foldlM (fun s k ↦ op k s) s

theorem run_cons_eq_ok :
    run op (k :: ks) s = .ok s' ↔ ∃ t, op k s = .ok t ∧ run op ks t = .ok s' := by
  simp only [run, List.foldlM_cons]
  cases op k s with
  | ok t =>
    constructor
    · exact fun h ↦ ⟨t, rfl, h⟩
    · rintro ⟨t', ⟨⟩, h⟩
      exact h
  | error e =>
    constructor
    · rintro ⟨⟩
    · rintro ⟨t', ⟨⟩, -⟩

variable [DecidableEq κ]

/-- Each operation gives its setting the new value and keeps the others, and whether it succeeds
depends on the old value of its setting alone. -/
structure Overwrites (view : σ → κ → ν) (new : κ → ν) (op : κ → σ → Except ε σ) (k : κ) :
    Prop where
  view_eq : ∀ s s', op k s = .ok s' → view s' = Function.update (view s) k (new k)
  isOk : ∀ s t s', view s k = view t k → op k s = .ok s' → ∃ t', op k t = .ok t'

/-- The settings that were written have their new value, the others their old one. -/
theorem view_run (h : ∀ k ∈ ks, Overwrites view new op k) (hrun : run op ks s = .ok s') :
    view s' = fun k ↦ if k ∈ ks then new k else view s k := by
  induction ks generalizing s with
  | nil =>
    obtain rfl := Except.ok.inj hrun
    simp
  | cons k ks ih =>
    obtain ⟨t, ht, hrest⟩ := run_cons_eq_ok.1 hrun
    rw [ih (fun k hk ↦ h k (List.mem_cons_of_mem _ hk)) hrest,
      (h k List.mem_cons_self).view_eq s t ht]
    funext l
    by_cases hl : l = k
    · simp [hl]
    · simp [hl]

/-- All settings have their new value exactly if those that differed were written. -/
theorem view_run_eq_iff (h : ∀ k ∈ ks, Overwrites view new op k) (hrun : run op ks s = .ok s') :
    view s' = new ↔ ∀ k, k ∈ ks ∨ view s k = new k := by
  rw [view_run h hrun, funext_iff]
  refine forall_congr' fun k ↦ ?_
  by_cases hk : k ∈ ks
  · simp [hk]
  · simp [hk]

/-- Operations on different settings succeed together exactly if each of them does. -/
theorem run_isOk_iff (h : ∀ k ∈ ks, Overwrites view new op k) (hks : ks.Nodup) :
    (∃ s', run op ks s = .ok s') ↔ ∀ k ∈ ks, ∃ s', op k s = .ok s' := by
  induction ks generalizing s with
  | nil => exact iff_of_true ⟨s, rfl⟩ fun k hk ↦ absurd hk List.not_mem_nil
  | cons k ks ih =>
    obtain ⟨hk, hks⟩ := List.nodup_cons.1 hks
    have htail : ∀ l ∈ ks, Overwrites view new op l := fun l hl ↦ h l (List.mem_cons_of_mem _ hl)
    -- the first operation leaves the other settings alone
    have hsame {t : σ} (ht : op k s = .ok t) {l : κ} (hl : l ∈ ks) : view t l = view s l := by
      have hne : l ≠ k := by
        rintro rfl
        exact hk hl
      rw [(h k List.mem_cons_self).view_eq s t ht, Function.update_of_ne hne]
    constructor
    · rintro ⟨s', hrun⟩
      obtain ⟨t, ht, hrest⟩ := run_cons_eq_ok.1 hrun
      rw [List.forall_mem_cons]
      refine ⟨⟨t, ht⟩, fun l hl ↦ ?_⟩
      obtain ⟨t', ht'⟩ := (ih htail hks).1 ⟨s', hrest⟩ l hl
      exact (htail l hl).isOk t s t' (hsame ht hl) ht'
    · intro hall
      obtain ⟨⟨t, ht⟩, hrest⟩ := List.forall_mem_cons.1 hall
      have hops : ∀ l ∈ ks, ∃ t', op l t = .ok t' := by
        intro l hl
        obtain ⟨s', hs'⟩ := hrest l hl
        exact (htail l hl).isOk s t s' (hsame ht hl).symm hs'
      obtain ⟨s', hrun⟩ := (ih htail hks).2 hops
      exact ⟨s', run_cons_eq_ok.2 ⟨t, ht, hrun⟩⟩

end Settings
