import Mathlib.Algebra.Order.Ring.Nat
import Mathlib.Algebra.BigOperators.Group.List.Basic
import Mathlib.Algebra.Order.BigOperators.Group.List
import Mathlib.Data.List.Induction
import Mathlib.Data.Nat.Basic

/-! # Fixed-window counters

A counter that the first event past its window clears. What it admits in any
window of its length, wherever that window starts, is at most twice its capacity.
-/

namespace FixedWindow

structure Event where
  time : ℕ
  amount : ℕ

/-- The start of the current window and what was counted in it. -/
structure Counter where
  start : ℕ
  total : ℕ

variable {len cap : ℕ} {c : Counter} {e : Event} {es past : List Event} {p q : ℕ → Prop}
  [DecidablePred p] [DecidablePred q]

def Counter.count (len : ℕ) (c : Counter) (e : Event) : Counter :=
  if c.start + len ≤ e.time then ⟨e.time, e.amount⟩ else ⟨c.start, c.total + e.amount⟩

/-- The events are counted one after the other, none past the capacity. -/
def Admits (len cap : ℕ) : Counter → List Event → Prop
  | _, [] => True
  | c, e :: es =>
    c.start ≤ e.time ∧ (c.count len e).total ≤ cap ∧ Admits len cap (c.count len e) es

/-- The amount of the events at times of `p`. -/
def amountIn (p : ℕ → Prop) [DecidablePred p] (es : List Event) : ℕ :=
  ((es.filter fun e ↦ p e.time).map Event.amount).sum

theorem amountIn_concat :
    amountIn p (es ++ [e]) = amountIn p es + if p e.time then e.amount else 0 := by
  unfold amountIn
  by_cases hp : p e.time <;> simp [List.filter_append, hp]

theorem amountIn_mono (h : ∀ t, p t → q t) : amountIn p es ≤ amountIn q es := by
  induction es using List.reverseRecOn with
  | nil => exact le_rfl
  | append_singleton es e ih =>
    rw [amountIn_concat, amountIn_concat]
    by_cases hp : p e.time
    · rw [if_pos hp, if_pos (h _ hp)]
      omega
    · rw [if_neg hp]
      omega

theorem amountIn_eq_zero (h : ∀ e ∈ es, ¬ p e.time) : amountIn p es = 0 := by
  unfold amountIn
  rw [List.filter_eq_nil_iff.2 fun e he ↦ by simpa using h e he]
  rfl

/-- What the counter knows of the events behind it. -/
structure Summary (len cap : ℕ) (past : List Event) (c : Counter) : Prop where
  /-- Since the start of the current window. -/
  current : ∀ t, c.start < t → amountIn (t ≤ ·) past ≤ c.total ∧ amountIn (t ≤ ·) past ≤ cap
  /-- Since a time less than a window before the start of the current one. -/
  recent : ∀ t, c.start < t + len → amountIn (t ≤ ·) past ≤ cap + c.total
  window : ∀ t, amountIn (fun u ↦ t ≤ u ∧ u < t + len) past ≤ 2 * cap

theorem Summary.nil (c : Counter) : Summary len cap [] c :=
  ⟨fun _ _ ↦ ⟨Nat.zero_le _, Nat.zero_le _⟩, fun _ _ ↦ Nat.zero_le _, fun _ ↦ Nat.zero_le _⟩

theorem Summary.count (h : Summary len cap past c) (hpast : ∀ e' ∈ past, e'.time ≤ e.time)
    (hstart : c.start ≤ e.time) (hcap : (c.count len e).total ≤ cap) :
    Summary len cap (past ++ [e]) (c.count len e) := by
  have hrecent : ∀ t, (c.count len e).start < t + len →
      amountIn (t ≤ ·) (past ++ [e]) ≤ cap + (c.count len e).total := by
    intro t ht
    rw [amountIn_concat]
    unfold Counter.count at ht ⊢
    split at ht
    · next hreset =>
      -- the window before the cleared one is out of reach
      have hold := (h.current t (by dsimp only at ht; omega)).2
      rw [if_pos hreset]
      dsimp only
      split <;> omega
    · next hreset =>
      have hold := h.recent t ht
      rw [if_neg hreset]
      dsimp only
      split <;> omega
  refine ⟨?_, hrecent, ?_⟩
  · intro t ht
    rw [amountIn_concat]
    unfold Counter.count at ht hcap ⊢
    split at ht
    · next hreset =>
      have hnone : amountIn (t ≤ ·) past = 0 := by
        refine amountIn_eq_zero fun e' he' ↦ ?_
        have := hpast e' he'
        dsimp only at ht
        omega
      rw [hnone, if_neg (not_le.2 ht)]
      exact ⟨Nat.zero_le _, Nat.zero_le _⟩
    · next hreset =>
      obtain ⟨hold, -⟩ := h.current t ht
      rw [if_neg hreset] at hcap ⊢
      dsimp only at hcap ⊢
      split <;> omega
  · intro t
    by_cases hin : t ≤ e.time ∧ e.time < t + len
    · have hlate : (c.count len e).start < t + len := by
        unfold Counter.count
        split
        · exact hin.2
        · exact hstart.trans_lt hin.2
      have hall : amountIn (fun u ↦ t ≤ u ∧ u < t + len) (past ++ [e]) ≤
          amountIn (t ≤ ·) (past ++ [e]) := amountIn_mono fun _ hu ↦ hu.1
      have := hrecent t hlate
      omega
    · rw [amountIn_concat, if_neg hin, Nat.add_zero]
      exact h.window t

/-- Events in order of time: in any window at most twice the capacity is admitted. -/
theorem window_le (h : Admits len cap c es) (hsorted : es.Pairwise fun a b ↦ a.time ≤ b.time)
    (t : ℕ) : amountIn (fun u ↦ t ≤ u ∧ u < t + len) es ≤ 2 * cap := by
  suffices hgen : ∀ past c, Summary len cap past c → Admits len cap c es →
      (past ++ es).Pairwise (fun a b ↦ a.time ≤ b.time) →
      amountIn (fun u ↦ t ≤ u ∧ u < t + len) (past ++ es) ≤ 2 * cap from
    hgen [] c (.nil c) h hsorted
  clear h hsorted
  induction es with
  | nil =>
    intro past c hsum _ _
    rw [List.append_nil]
    exact hsum.window t
  | cons e es ih =>
    intro past c hsum hadmits hsorted
    obtain ⟨hstart, hcap, hrest⟩ := hadmits
    have hpast : ∀ e' ∈ past, e'.time ≤ e.time := fun e' he' ↦
      (List.pairwise_append.1 hsorted).2.2 e' he' e List.mem_cons_self
    have := ih (past ++ [e]) _ (hsum.count hpast hstart hcap) hrest (by simpa using hsorted)
    simpa using this

end FixedWindow
