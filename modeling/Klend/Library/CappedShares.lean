import Mathlib.Algebra.BigOperators.Group.List.Basic
import Mathlib.Algebra.BigOperators.Ring.List
import Mathlib.Algebra.Order.BigOperators.Group.List
import Mathlib.Algebra.Order.Field.Basic
import Mathlib.Tactic.FieldSimp
import Mathlib.Tactic.Linarith
import Mathlib.Tactic.Ring

/-! # Weighted shares under caps

A total is handed out in one pass over claimants with weights and caps. Each takes its
share by weight, as far as its cap allows and something is left. A claimant that takes its
whole cap is taken off the weights, so those behind it share what it leaves.
-/

/-- A claimant. A cap that is not positive is none. -/
structure Claimant (K : Type*) where
  weight : K
  cap : K
deriving DecidableEq

namespace Claimant

variable {K : Type*} [Field K] [LinearOrder K]

def limit (c : Claimant K) (x : K) : K := if 0 < c.cap then min x c.cap else x

/-- The claimant takes its whole cap. -/
def Full (c : Claimant K) (x : K) : Prop := x = c.cap ∧ 0 < c.cap

instance (c : Claimant K) (x : K) : Decidable (c.Full x) := inferInstanceAs (Decidable (_ ∧ _))

def weightsLeft (c : Claimant K) (x weights : K) : K :=
  if c.Full x then weights - c.weight else weights

def WithinCap (c : Claimant K) (x : K) : Prop := 0 ≤ x ∧ (0 < c.cap → x ≤ c.cap)

/-- A pass: `left` and `weights` before it, what each claimant takes, and `left` and `weights`
behind it. -/
inductive Served (total : K) : K → K → List (Claimant K) → List K → K → K → Prop where
  | nil {left weights} : Served total left weights [] [] left weights
  | cons {c cs x xs left weights left' weights'} (hweights : weights ≠ 0)
      (hx : x = c.limit (min (c.weight * total / weights) left))
      (hrest : Served total (left - x) (c.weightsLeft x weights) cs xs left' weights') :
      Served total left weights (c :: cs) (x :: xs) left' weights'

/-- What the claimants ask for in turn, where enough is left. -/
def demands (total : K) : K → List (Claimant K) → List K
  | _, [] => []
  | weights, c :: cs =>
    let x := c.limit (c.weight * total / weights)
    x :: demands total (c.weightsLeft x weights) cs

/-- No claimant asks where the weights have been used up. -/
def Weighed (total : K) : K → List (Claimant K) → Prop
  | _, [] => True
  | weights, c :: cs =>
    weights ≠ 0 ∧
      Weighed total (c.weightsLeft (c.limit (c.weight * total / weights)) weights) cs

/-- Each claimant with a weight asks for its whole cap. -/
def Filled (total : K) : K → List (Claimant K) → Prop
  | _, [] => True
  | weights, c :: cs =>
    (c.weight = 0 ∨ 0 < c.cap ∧ c.cap ≤ c.weight * total / weights) ∧
      Filled total (weights - c.weight) cs

/-- The cap of a claimant with a weight. -/
def fill (c : Claimant K) : K := if c.weight = 0 then 0 else c.cap

def weightSum (cs : List (Claimant K)) : K := (cs.map weight).sum

/-- The claimants `ds` ask for their caps and come last, and the others have room for their shares
of what these caps leave. -/
structure CapsLast (total : K) (cs ds : List (Claimant K)) : Prop where
  weightSum_pos : 0 < weightSum cs
  filled : Filled total (weightSum (cs ++ ds)) ds
  remains : weightSum cs * total / weightSum (cs ++ ds) + (ds.map fill).sum < total
  room : ∀ c ∈ cs, 0 < c.cap → c.weight * (total - (ds.map fill).sum) / weightSum cs ≤ c.cap

variable {c : Claimant K} {cs ds : List (Claimant K)} {xs ys : List K}
  {total left left' left'' weights weights' weights'' x y : K}

theorem limit_nonneg (hx : 0 ≤ x) : 0 ≤ c.limit x := by
  unfold limit
  split
  · next hcap => exact le_min hx hcap.le
  · exact hx

theorem limit_le (hcap : 0 < c.cap) : c.limit x ≤ c.cap := by
  rw [limit, if_pos hcap]
  exact min_le_right _ _

theorem limit_min : c.limit (min x left) = min (c.limit x) left := by
  unfold limit
  split
  · rw [min_right_comm]
  · rfl

theorem limit_zero : c.limit 0 = 0 := by
  unfold limit
  split
  · next hcap => exact min_eq_left hcap.le
  · rfl

theorem WithinCap.limit (hx : 0 ≤ x) : c.WithinCap (c.limit x) := ⟨limit_nonneg hx, limit_le⟩

theorem WithinCap.zero : c.WithinCap 0 := ⟨le_rfl, le_of_lt⟩

theorem weightsLeft_of_not (h : ¬ c.Full x) : c.weightsLeft x weights = weights := if_neg h

theorem not_full_zero : ¬ c.Full 0 := by
  rintro ⟨heq, hpos⟩
  exact hpos.ne heq

omit [LinearOrder K] in
@[simp] theorem weightSum_nil : weightSum ([] : List (Claimant K)) = 0 := rfl

omit [LinearOrder K] in
theorem weightSum_cons : weightSum (c :: cs) = c.weight + weightSum cs := List.sum_cons

omit [LinearOrder K] in
theorem weightSum_append : weightSum (cs ++ ds) = weightSum cs + weightSum ds := by
  rw [weightSum, List.map_append, List.sum_append]
  rfl

/-- A claimant that asks for its cap takes it, where that much is left. -/
theorem fill_eq (hleft : c.fill ≤ left) (hleft0 : 0 ≤ left)
    (h : c.weight = 0 ∨ 0 < c.cap ∧ c.cap ≤ c.weight * total / weights) :
    c.fill = c.limit (min (c.weight * total / weights) left) ∧
      c.weightsLeft c.fill weights = weights - c.weight := by
  rcases h with hzero | ⟨hcap, hle⟩
  · rw [fill, if_pos hzero, hzero, zero_mul, zero_div, min_eq_left hleft0, limit_zero, sub_zero]
    exact ⟨rfl, weightsLeft_of_not not_full_zero⟩
  · have hne : c.weight ≠ 0 := by
      rintro hzero
      rw [hzero, zero_mul, zero_div] at hle
      exact absurd hcap (not_lt.2 hle)
    rw [fill, if_neg hne] at hleft ⊢
    constructor
    · rw [limit_min, limit, if_pos hcap, min_eq_right hle, min_eq_left hleft]
    · exact if_pos ⟨rfl, hcap⟩

theorem fill_nonneg (h : c.weight = 0 ∨ 0 < c.cap ∧ c.cap ≤ c.weight * total / weights) :
    0 ≤ c.fill := by
  unfold fill
  split
  · exact le_rfl
  · next hne => exact (h.resolve_left hne).1.le

theorem Filled.withinCap (h : Filled total weights cs) : ∀ c ∈ cs, c.WithinCap c.fill := by
  induction cs generalizing weights with
  | nil => exact fun c hc ↦ absurd hc List.not_mem_nil
  | cons c cs ih =>
    rw [List.forall_mem_cons]
    refine ⟨⟨fill_nonneg h.1, fun hcap ↦ ?_⟩, ih h.2⟩
    unfold fill
    split
    · exact hcap.le
    · exact le_rfl

theorem CapsLast.withinCap (h : CapsLast total cs ds) {f : Claimant K → K}
    (hf : ∀ c ∈ cs, c.WithinCap (f c)) :
    List.Forall₂ WithinCap (cs ++ ds) (cs.map f ++ ds.map fill) := by
  apply List.rel_append
  · rw [List.forall₂_map_right_iff, List.forall₂_same]
    exact hf
  · rw [List.forall₂_map_right_iff, List.forall₂_same]
    exact h.filled.withinCap

theorem demands_zero : (demands total 0 cs).sum = 0 := by
  induction cs with
  | nil => rfl
  | cons c cs ih =>
    rw [demands, div_zero, limit_zero, weightsLeft_of_not not_full_zero, List.sum_cons, ih,
      add_zero]

namespace Served

theorem append (h : Served total left weights cs xs left' weights')
    (h' : Served total left' weights' ds ys left'' weights'') :
    Served total left weights (cs ++ ds) (xs ++ ys) left'' weights'' := by
  induction h with
  | nil => exact h'
  | cons hweights hx _ ih => exact .cons hweights hx (ih h')

/-- What is left is what was not taken. -/
theorem left_eq (h : Served total left weights cs xs left' weights') :
    left' = left - xs.sum := by
  induction h with
  | nil => rw [List.sum_nil, sub_zero]
  | cons _ _ _ ih => rw [ih, List.sum_cons, sub_sub]

end Served

section Ordered

variable [IsStrictOrderedRing K]

theorem weightSum_nonneg (h : ∀ c ∈ cs, 0 ≤ c.weight) : 0 ≤ weightSum cs := by
  apply List.sum_nonneg
  intro w hw
  obtain ⟨c, hc, rfl⟩ := List.mem_map.1 hw
  exact h c hc

/-- The weights that are left cover the claimants that are left. -/
theorem weightSum_le_weightsLeft (hw : 0 ≤ c.weight) (h : weightSum (c :: cs) ≤ weights) :
    weightSum cs ≤ c.weightsLeft x weights := by
  rw [weightSum_cons] at h
  unfold weightsLeft
  split
  · exact le_sub_iff_add_le'.2 h
  · exact (le_add_of_nonneg_left hw).trans h

theorem share_nonneg (hw : 0 ≤ c.weight) (htotal : 0 ≤ total) (hweights : 0 ≤ weights) :
    0 ≤ c.weight * total / weights := div_nonneg (mul_nonneg hw htotal) hweights

theorem Filled.sum_nonneg (h : Filled total weights cs) : 0 ≤ (cs.map fill).sum := by
  induction cs generalizing weights with
  | nil => exact le_rfl
  | cons c cs ih =>
    rw [List.map_cons, List.sum_cons]
    exact add_nonneg (fill_nonneg h.1) (ih h.2)

theorem demands_sum_nonneg (htotal : 0 ≤ total) (hw : ∀ c ∈ cs, 0 ≤ c.weight)
    (hsum : weightSum cs ≤ weights) : 0 ≤ (demands total weights cs).sum := by
  induction cs generalizing weights with
  | nil => exact le_rfl
  | cons c cs ih =>
    have hweights : 0 ≤ weights := (weightSum_nonneg hw).trans hsum
    rw [List.forall_mem_cons] at hw
    rw [demands, List.sum_cons]
    exact add_nonneg (limit_nonneg (share_nonneg hw.1 htotal hweights))
      (ih hw.2 (weightSum_le_weightsLeft hw.1 hsum))

namespace Served

/-- Nothing is taken where nothing is left. -/
theorem of_nothing_left (htotal : 0 ≤ total) (hweights : 0 < weights)
    (hw : ∀ c ∈ cs, 0 ≤ c.weight) :
    Served total 0 weights cs (cs.map fun _ ↦ 0) 0 weights := by
  induction cs with
  | nil => exact .nil
  | cons c cs ih =>
    rw [List.forall_mem_cons] at hw
    apply cons hweights.ne'
    · rw [min_eq_right (share_nonneg hw.1 htotal hweights.le), limit_zero]
    · rw [sub_zero, weightsLeft_of_not not_full_zero]
      exact ih hw.2

/-- Claimants whose shares stay under their caps take them. -/
theorem of_shares (htotal : 0 ≤ total) (hweights : 0 < weights) (hw : ∀ c ∈ cs, 0 ≤ c.weight)
    (hcap : ∀ c ∈ cs, 0 < c.cap → c.weight * total / weights < c.cap)
    (hleft : weightSum cs * total / weights ≤ left) :
    Served total left weights cs (cs.map fun c ↦ c.weight * total / weights)
      (left - weightSum cs * total / weights) weights := by
  induction cs generalizing left with
  | nil =>
    rw [weightSum_nil, zero_mul, zero_div, sub_zero]
    exact .nil
  | cons c cs ih =>
    rw [List.forall_mem_cons] at hw hcap
    rw [weightSum_cons, add_mul, add_div] at hleft ⊢
    have hrest : 0 ≤ weightSum cs * total / weights :=
      div_nonneg (mul_nonneg (weightSum_nonneg hw.2) htotal) hweights.le
    have hlimit : c.limit (c.weight * total / weights) = c.weight * total / weights := by
      unfold limit
      split
      · next h => exact min_eq_left (hcap.1 h).le
      · rfl
    have hnot : ¬ c.Full (c.weight * total / weights) := by
      rintro ⟨heq, hpos⟩
      exact (hcap.1 hpos).ne heq
    apply cons hweights.ne'
    · rw [limit_min, hlimit, min_eq_left (by linarith)]
    · rw [weightsLeft_of_not hnot, ← sub_sub]
      exact ih hw.2 hcap.2 (by linarith)

/-- Claimants that ask for their caps take them, and are taken off the weights. -/
theorem of_filled (hw : ∀ c ∈ cs, 0 ≤ c.weight) (hweights : weightSum cs < weights)
    (hfilled : Filled total weights cs) (hleft : (cs.map fill).sum ≤ left) :
    Served total left weights cs (cs.map fill) (left - (cs.map fill).sum)
      (weights - weightSum cs) := by
  induction cs generalizing left weights with
  | nil =>
    rw [weightSum_nil, List.map_nil, List.sum_nil, sub_zero, sub_zero]
    exact .nil
  | cons c cs ih =>
    rw [List.forall_mem_cons] at hw
    rw [weightSum_cons] at hweights ⊢
    rw [List.map_cons, List.sum_cons] at hleft ⊢
    have hpos : 0 < weights := by linarith [hw.1, weightSum_nonneg hw.2]
    have hfill := fill_nonneg hfilled.1
    have hrest := hfilled.2.sum_nonneg
    obtain ⟨heq, hweightsLeft⟩ := fill_eq (by linarith : c.fill ≤ left) (by linarith) hfilled.1
    rw [← sub_sub, ← sub_sub]
    apply cons hpos.ne' heq
    rw [hweightsLeft]
    exact ih hw.2 (by linarith) hfilled.2 (by linarith)

/-- A pass in which the weights last takes what the claimants ask for, as far as it goes, and
everybody stays within its cap. -/
theorem exists_of_demands (htotal : 0 ≤ total) (hleft : 0 ≤ left)
    (hw : ∀ c ∈ cs, 0 ≤ c.weight) (hsum : weightSum cs ≤ weights)
    (h : left < (demands total weights cs).sum ∨ Weighed total weights cs) :
    ∃ xs left' weights', Served total left weights cs xs left' weights' ∧
      List.Forall₂ WithinCap cs xs ∧ xs.sum = min left (demands total weights cs).sum := by
  induction cs generalizing left weights with
  | nil => exact ⟨[], left, weights, .nil, .nil, (min_eq_right hleft).symm⟩
  | cons c cs ih =>
    have hne : weights ≠ 0 := by
      rcases h with hlt | hweighed
      · rintro rfl
        rw [demands_zero] at hlt
        exact absurd hleft (not_le.2 hlt)
      · exact hweighed.1
    have hpos : 0 < weights := lt_of_le_of_ne ((weightSum_nonneg hw).trans hsum) hne.symm
    rw [List.forall_mem_cons] at hw
    have hshare := share_nonneg hw.1 htotal hpos.le
    rw [demands, List.sum_cons] at h ⊢
    by_cases hle : c.limit (c.weight * total / weights) ≤ left
    · have hrest : left - c.limit (c.weight * total / weights) < _ ∨ _ :=
        h.imp (fun hlt ↦ sub_lt_iff_lt_add'.2 hlt) fun hweighed ↦ hweighed.2
      obtain ⟨xs, left', weights', hserved, hcaps, hxs⟩ :=
        ih (sub_nonneg.2 hle) hw.2 (weightSum_le_weightsLeft hw.1 hsum) hrest
      refine ⟨_, left', weights', .cons hne ?_ hserved, .cons (.limit hshare) hcaps, ?_⟩
      · rw [limit_min, min_eq_left hle]
      · rw [List.sum_cons, hxs, ← min_add_add_left, add_sub_cancel]
    · have hlt := not_le.1 hle
      have hnot : ¬ c.Full left := by
        rintro ⟨rfl, hcap⟩
        exact hle (limit_le hcap)
      have hserved := of_nothing_left htotal hpos hw.2
      refine ⟨left :: cs.map fun _ ↦ 0, 0, weights, .cons hne ?_ ?_, .cons ?_ ?_, ?_⟩
      · rw [limit_min, min_eq_right hlt.le]
      · rwa [sub_self, weightsLeft_of_not hnot]
      · exact ⟨hleft, fun hcap ↦ hlt.le.trans (limit_le hcap)⟩
      · rw [List.forall₂_map_right_iff, List.forall₂_same]
        exact fun _ _ ↦ .zero
      · have hrest := demands_sum_nonneg htotal hw.2 (weightSum_le_weightsLeft
          (x := c.limit (c.weight * total / weights)) hw.1 hsum)
        rw [List.sum_cons, List.sum_map_zero, add_zero, min_eq_left]
        exact hlt.le.trans (le_add_of_nonneg_right hrest)

end Served

namespace CapsLast

variable (h : CapsLast total cs ds) (hw : ∀ c ∈ cs ++ ds, 0 ≤ c.weight)

include h hw

theorem weights_pos : 0 < weightSum (cs ++ ds) := by
  rw [weightSum_append]
  exact add_pos_of_pos_of_nonneg h.weightSum_pos
    (weightSum_nonneg fun d hd ↦ hw d (List.mem_append_right _ hd))

theorem total_pos (htotal : 0 ≤ total) : 0 < total := by
  have hshares : 0 ≤ weightSum cs * total / weightSum (cs ++ ds) :=
    div_nonneg (mul_nonneg h.weightSum_pos.le htotal) (h.weights_pos hw).le
  linarith [h.remains, h.filled.sum_nonneg]

/-- The shares of the second pass fill up those of the first to the shares of what the caps
leave. -/
theorem shares_add (c : Claimant K) :
    c.weight * total / weightSum (cs ++ ds) + c.weight * (total -
        (weightSum cs * total / weightSum (cs ++ ds) + (ds.map fill).sum)) / weightSum cs =
      c.weight * (total - (ds.map fill).sum) / weightSum cs := by
  have hweights := (h.weights_pos hw).ne'
  have hcs := h.weightSum_pos.ne'
  field_simp
  ring

theorem share_lt (htotal : 0 ≤ total) (hc : c ∈ cs) (hcap : 0 < c.cap) :
    c.weight * total / weightSum (cs ++ ds) < c.cap ∧ c.weight * (total -
      (weightSum cs * total / weightSum (cs ++ ds) + (ds.map fill).sum)) / weightSum cs <
        c.cap := by
  have hadd := h.shares_add hw c
  have hroom := h.room c hc hcap
  rcases (hw c (List.mem_append_left _ hc)).eq_or_lt with hzero | hpos
  · rw [← hzero, zero_mul, zero_div, zero_mul, zero_div]
    exact ⟨hcap, hcap⟩
  · have hfirst : 0 < c.weight * total / weightSum (cs ++ ds) :=
      div_pos (mul_pos hpos (h.total_pos hw htotal)) (h.weights_pos hw)
    have hsecond : 0 < c.weight * (total - (weightSum cs * total / weightSum (cs ++ ds) +
        (ds.map fill).sum)) / weightSum cs :=
      div_pos (mul_pos hpos (sub_pos.2 h.remains)) h.weightSum_pos
    constructor <;> linarith

/-- The first pass gives shares to some and caps to the others. -/
theorem first_pass (htotal : 0 ≤ total) :
    Served total total (weightSum (cs ++ ds)) (cs ++ ds)
      ((cs.map fun c ↦ c.weight * total / weightSum (cs ++ ds)) ++ ds.map fill)
      (total - (weightSum cs * total / weightSum (cs ++ ds) + (ds.map fill).sum))
      (weightSum cs) := by
  have hleft := h.filled.sum_nonneg
  have hremains := h.remains
  have hshares := @Served.of_shares K _ _ cs total total (weightSum (cs ++ ds)) _ htotal
    (h.weights_pos hw) (fun c hc ↦ hw c (List.mem_append_left _ hc))
    (fun c hc hcap ↦ (h.share_lt hw htotal hc hcap).1) (by linarith)
  have hcaps := @Served.of_filled K _ _ ds total
    (total - weightSum cs * total / weightSum (cs ++ ds)) (weightSum (cs ++ ds)) _
    (fun d hd ↦ hw d (List.mem_append_right _ hd))
    (by rw [weightSum_append]; exact lt_add_of_pos_left _ h.weightSum_pos) h.filled (by linarith)
  have happend := hshares.append hcaps
  have hweight : weightSum (cs ++ ds) = weightSum cs + weightSum ds := weightSum_append
  rwa [sub_sub, hweight, add_sub_cancel_right, ← hweight] at happend

/-- The second pass gives what is left to those that were given shares. -/
theorem second_pass (htotal : 0 ≤ total) (hleft : left =
      total - (weightSum cs * total / weightSum (cs ++ ds) + (ds.map fill).sum)) :
    Served left left (weightSum cs) (cs ++ ds)
      ((cs.map fun c ↦ c.weight * left / weightSum cs) ++ ds.map fun _ ↦ 0) 0 (weightSum cs) := by
  have hpos : 0 ≤ left := by
    rw [hleft]
    exact (sub_pos.2 h.remains).le
  have hall : weightSum cs * left / weightSum cs = left :=
    mul_div_cancel_left₀ _ h.weightSum_pos.ne'
  have hshares := @Served.of_shares K _ _ cs left left (weightSum cs) _ hpos h.weightSum_pos
    (fun c hc ↦ hw c (List.mem_append_left _ hc))
    (fun c hc hcap ↦ hleft ▸ (h.share_lt hw htotal hc hcap).2) hall.le
  rw [hall, sub_self] at hshares
  exact hshares.append (Served.of_nothing_left hpos h.weightSum_pos
    fun d hd ↦ hw d (List.mem_append_right _ hd))

theorem first_withinCap (htotal : 0 ≤ total) : List.Forall₂ WithinCap (cs ++ ds)
    ((cs.map fun c ↦ c.weight * total / weightSum (cs ++ ds)) ++ ds.map fill) :=
  h.withinCap fun c hc ↦
    ⟨share_nonneg (hw c (List.mem_append_left _ hc)) htotal (h.weights_pos hw).le,
      fun hcap ↦ (h.share_lt hw htotal hc hcap).1.le⟩

/-- After both passes everything is handed out, within the caps. -/
theorem both_withinCap (htotal : 0 ≤ total) (hleft : left =
      total - (weightSum cs * total / weightSum (cs ++ ds) + (ds.map fill).sum)) :
    let zs := List.zipWith (· + ·)
      ((cs.map fun c ↦ c.weight * total / weightSum (cs ++ ds)) ++ ds.map fill)
      ((cs.map fun c ↦ c.weight * left / weightSum cs) ++ ds.map fun _ ↦ 0)
    List.Forall₂ WithinCap (cs ++ ds) zs ∧ zs.sum = total := by
  have hzs : List.zipWith (· + ·)
      ((cs.map fun c ↦ c.weight * total / weightSum (cs ++ ds)) ++ ds.map fill)
      ((cs.map fun c ↦ c.weight * left / weightSum cs) ++ ds.map fun _ ↦ 0) =
      (cs.map fun c ↦ c.weight * (total - (ds.map fill).sum) / weightSum cs) ++ ds.map fill := by
    rw [List.zipWith_append (by rw [List.length_map, List.length_map]), List.zipWith_map,
      List.zipWith_map, List.zipWith_self, List.zipWith_self, hleft]
    simp only [h.shares_add hw, add_zero]
  have hshares : 0 ≤ weightSum cs * total / weightSum (cs ++ ds) :=
    div_nonneg (mul_nonneg h.weightSum_pos.le htotal) (h.weights_pos hw).le
  have hremains : 0 ≤ total - (ds.map fill).sum := by linarith [h.remains]
  intro zs
  rw [show zs = _ from hzs]
  constructor
  · exact h.withinCap fun c hc ↦
      ⟨share_nonneg (hw c (List.mem_append_left _ hc)) hremains h.weightSum_pos.le, h.room c hc⟩
  · simp only [mul_div_assoc]
    rw [List.sum_append, List.sum_map_mul_right]
    show weightSum cs * _ + _ = _
    rw [mul_div_cancel₀ _ h.weightSum_pos.ne', sub_add_cancel]

end CapsLast

end Ordered

end Claimant
