import Klend.Library.CappedShares
import Klend.Sdk.VaultAllocations

/-! # Allocation of a vault's holdings

A pass of the client's loop is a pass over claimants with weights and caps, as long as the sum
of the weights does not become zero. The loop ends after one pass that leaves at most one
token, or after two where the reserves at their caps come last.
-/

namespace Klend.Sdk

/-- A reserve as a claimant. -/
def ReserveAllocationOverview.claimant (o : ReserveAllocationOverview) : Claimant ℚ where
  weight := o.targetWeight
  cap := o.tokenAllocationCap

/-- What a map holds for a reserve, nothing where it has no entry. -/
def PubkeyHashMap.amount (m : PubkeyHashMap Extended) (reserve : Pubkey) : Extended :=
  (m.get reserve).getD 0

namespace Redistribution

variable {allocations : PubkeyHashMap ReserveAllocationOverview} {e : PubkeyHashMap Extended}
  {o : ReserveAllocationOverview} {reserve : Pubkey}
  {rs : List (Pubkey × ReserveAllocationOverview)}
  {total left weights left' weights' x : ℚ} {xs zs : List ℚ}

theorem amount_addToDistribution_self {z : ℚ} (h : e.amount reserve = .finite z) :
    (addToDistribution e reserve (.finite x)).amount reserve = .finite (z + x) := by
  unfold PubkeyHashMap.amount at h ⊢
  unfold addToDistribution
  cases hget : e.get reserve with
  | none =>
    rw [hget] at h
    rw [PubkeyHashMap.get_set_self, ← Extended.finite_inj.1 h, zero_add]
    rfl
  | some y =>
    rw [hget, Option.getD_some] at h
    rw [PubkeyHashMap.get_set_self, h]
    rfl

theorem amount_addToDistribution_of_ne {other : Pubkey} {y : Extended} (h : other ≠ reserve) :
    (addToDistribution e reserve y).amount other = e.amount other := by
  unfold PubkeyHashMap.amount addToDistribution
  cases e.get reserve with
  | none => rw [PubkeyHashMap.get_set_of_ne h]
  | some _ => rw [PubkeyHashMap.get_set_of_ne h]

theorem amountToInvest_eq (hweights : weights ≠ 0) :
    amountToInvest ⟨.finite left, .finite weights, e⟩ (.finite total) o =
      .finite (o.claimant.limit (min (o.targetWeight * total / weights) left)) := by
  simp only [amountToInvest, Extended.finite_mul, Extended.finite_div hweights,
    Extended.finite_min, Extended.zero_eq, Extended.finite_lt, decide_eq_true_eq]
  by_cases hcap : 0 < o.claimant.cap
  · rw [Claimant.limit, if_pos hcap]
    exact if_pos hcap
  · rw [Claimant.limit, if_neg hcap]
    exact if_neg hcap

/-- A visit with a sum of weights that is not zero is a step of the pass over the claimants. -/
theorem visit_eq (ho : allocations.get reserve = some o) (hweights : weights ≠ 0)
    (hx : x = o.claimant.limit (min (o.targetWeight * total / weights) left)) :
    visit allocations (.finite total) ⟨.finite left, .finite weights, e⟩ reserve =
      some ⟨.finite (left - x), .finite (o.claimant.weightsLeft x weights),
        addToDistribution e reserve (.finite x)⟩ := by
  simp only [visit, ho, Option.bind_eq_bind, Option.bind_some, amountToInvest_eq hweights, ← hx,
    Extended.finite_sub, Extended.finite_eq, Extended.zero_eq, Extended.finite_lt,
    Bool.and_eq_true, decide_eq_true_eq, Option.pure_def, Option.some.injEq,
    Redistribution.mk.injEq, true_and, and_true, Claimant.weightsLeft]
  by_cases hfull : o.claimant.Full x
  · rw [if_pos hfull]
    exact if_pos hfull
  · rw [if_neg hfull]
    exact if_neg hfull

theorem foldlM_visit (hserved : Claimant.Served total left weights
      (rs.map fun r ↦ r.2.claimant) xs left' weights')
    (hkeys : (rs.map Prod.fst).Nodup) (hget : ∀ r ∈ rs, allocations.get r.1 = some r.2)
    (hzs : rs.map (fun r ↦ e.amount r.1) = zs.map .finite) :
    ∃ e', (rs.map Prod.fst).foldlM (visit allocations (.finite total))
        ⟨.finite left, .finite weights, e⟩ = some ⟨.finite left', .finite weights', e'⟩ ∧
      rs.map (fun r ↦ e'.amount r.1) = (List.zipWith (· + ·) zs xs).map .finite ∧
      ∀ other ∉ rs.map Prod.fst, e'.amount other = e.amount other := by
  induction rs generalizing left weights e xs zs with
  | nil =>
    cases hserved
    exact ⟨e, rfl, by simp, fun _ _ ↦ rfl⟩
  | cons r rs ih =>
    rw [List.map_cons] at hserved hkeys hzs
    rw [List.nodup_cons] at hkeys
    rw [List.forall_mem_cons] at hget
    obtain ⟨z, zs, rfl⟩ : ∃ z zs', zs = z :: zs' :=
      List.exists_cons_of_ne_nil (by rintro rfl; cases hzs)
    rw [List.map_cons, List.cons.injEq] at hzs
    cases hserved with
    | @cons _ _ x xs _ _ _ _ hweights hx hrest =>
      have hother : ∀ r' ∈ rs, (addToDistribution e r.1 (.finite x)).amount r'.1 =
          e.amount r'.1 := by
        intro r' hr'
        apply amount_addToDistribution_of_ne
        rintro heq
        exact hkeys.1 (heq ▸ List.mem_map_of_mem hr')
      obtain ⟨e', hfold, hamounts, hframe⟩ := ih hrest hkeys.2 hget.2
        ((List.map_congr_left hother).trans hzs.2)
      refine ⟨e', ?_, ?_, ?_⟩
      · rw [List.map_cons, List.foldlM_cons, visit_eq hget.1 hweights hx]
        exact hfold
      · rw [List.map_cons, hamounts, hframe _ hkeys.1, amount_addToDistribution_self hzs.1]
        rfl
      · intro other hmem
        rw [List.map_cons, List.mem_cons, not_or] at hmem
        rw [hframe other hmem.2, amount_addToDistribution_of_ne hmem.1]

theorem run_of_le_one {allReserves : List Pubkey} {sum : Extended} (h : left ≤ 1) (fuel : ℕ) :
    run allocations allReserves (fuel + 1) ⟨.finite left, sum, e⟩ =
      some ⟨.finite left, sum, e⟩ := by
  rw [run, if_neg]
  rw [Extended.one_eq, Extended.finite_lt, decide_eq_true_eq]
  exact not_lt.2 h

theorem run_of_pass {allReserves : List Pubkey} {sum : Extended} {s : Redistribution}
    (h : 1 < left) (hpass : allReserves.foldlM (visit allocations (.finite left))
      ⟨.finite left, sum, e⟩ = some s) (fuel : ℕ) :
    run allocations allReserves (fuel + 1) ⟨.finite left, sum, e⟩ =
      run allocations allReserves fuel s := by
  rw [run, if_pos (by rwa [Extended.one_eq, Extended.finite_lt, decide_eq_true_eq]), pass, hpass,
    Option.bind_some]

section NegativeWeights

variable (hweights : weights < 0)

include hweights

theorem visit_of_neg (ho : allocations.get reserve = some o) (hw : 0 ≤ o.targetWeight)
    (htotal : 0 ≤ total) (hleft : 0 ≤ left) :
    ∃ left' e', visit allocations (.finite total) ⟨.finite left, .finite weights, e⟩ reserve =
      some ⟨.finite left', .finite weights, e'⟩ ∧ left ≤ left' := by
  have hshare : o.targetWeight * total / weights ≤ 0 :=
    div_nonpos_of_nonneg_of_nonpos (mul_nonneg hw htotal) hweights.le
  have hlimit : o.claimant.limit (min (o.targetWeight * total / weights) left) =
      o.targetWeight * total / weights := by
    rw [min_eq_left (hshare.trans hleft)]
    unfold Claimant.limit
    split
    · next hcap => exact min_eq_left (hshare.trans hcap.le)
    · rfl
  have hnot : ¬ o.claimant.Full (o.targetWeight * total / weights) := by
    rintro ⟨heq, hcap⟩
    exact absurd hcap (not_lt.2 (heq ▸ hshare))
  have hvisit := visit_eq (e := e) ho hweights.ne hlimit.symm
  rw [Claimant.weightsLeft_of_not hnot] at hvisit
  exact ⟨_, _, hvisit, (le_sub_self_iff left).2 hshare⟩

theorem foldlM_visit_of_neg {allReserves : List Pubkey} (hget : ∀ reserve ∈ allReserves,
      ∃ o, allocations.get reserve = some o ∧ 0 ≤ o.targetWeight)
    (htotal : 0 ≤ total) (hleft : 0 ≤ left) :
    ∃ left' e', allReserves.foldlM (visit allocations (.finite total))
        ⟨.finite left, .finite weights, e⟩ =
      some ⟨.finite left', .finite weights, e'⟩ ∧ left ≤ left' := by
  induction allReserves generalizing left e with
  | nil => exact ⟨left, e, rfl, le_rfl⟩
  | cons reserve allReserves ih =>
    rw [List.forall_mem_cons] at hget
    obtain ⟨⟨o, ho, hw⟩, hget⟩ := hget
    obtain ⟨left₁, e₁, hvisit, hle₁⟩ := visit_of_neg (e := e) hweights ho hw htotal hleft
    obtain ⟨left₂, e₂, hfold, hle₂⟩ := ih (e := e₁) hget (hleft.trans hle₁)
    refine ⟨left₂, e₂, ?_, hle₁.trans hle₂⟩
    rw [List.foldlM_cons, hvisit]
    exact hfold

/-- Once the sum of the weights is negative with more than one token left, the loop never ends. -/
theorem run_of_neg {allReserves : List Pubkey} (hget : ∀ reserve ∈ allReserves,
      ∃ o, allocations.get reserve = some o ∧ 0 ≤ o.targetWeight)
    (hleft : 1 < left) (fuel : ℕ) :
    run allocations allReserves fuel ⟨.finite left, .finite weights, e⟩ = none := by
  induction fuel generalizing left e with
  | zero => rfl
  | succ fuel ih =>
    have hpos : 0 ≤ left := zero_le_one.trans hleft.le
    obtain ⟨left', e', hfold, hle⟩ := foldlM_visit_of_neg hweights hget hpos hpos (e := e)
    rw [run_of_pass hleft hfold]
    exact ih (hleft.trans_le hle)

end NegativeWeights

end Redistribution

namespace VaultState

open Redistribution

variable (v : VaultState) {total left weights : ℚ} {xs : List ℚ}

/-- The reserves of the vault in their order. -/
def claimants : List (Claimant ℚ) := v.getVaultAllocations.map fun r ↦ r.2.claimant

/-- One pass over the reserves leaves at most one token, without a division by zero, or the reserves
that are filled to their caps come last and the others have room for the rest. -/
def Spreads (total : ℚ) : Prop :=
  total ≤ 1 ∨
  (total ≤ (Claimant.demands total v.totalAllocation v.claimants).sum + 1 ∧
    (total < (Claimant.demands total v.totalAllocation v.claimants).sum ∨
      Claimant.Weighed total v.totalAllocation v.claimants)) ∨
  ∃ cs ds, v.claimants = cs ++ ds ∧ Claimant.CapsLast total cs ds

theorem totalAllocation_eq : v.totalAllocation = Claimant.weightSum v.claimants := by
  rw [totalAllocation, Claimant.weightSum, claimants, List.map_map]
  rfl

theorem claimants_weight_nonneg : ∀ c ∈ v.claimants, 0 ≤ c.weight := by
  rw [claimants, getVaultAllocations_eq, List.map_map]
  intro c hc
  obtain ⟨a, -, rfl⟩ := List.mem_map.1 hc
  exact Nat.cast_nonneg _

theorem getVaultAllocations_keys_nodup : (v.getVaultAllocations.map Prod.fst).Nodup := by
  rw [← getVaultReserves_eq]
  exact v.reserves_nodup

theorem get_getVaultAllocations {a : VaultAllocation} (ha : a ∈ v.occupied) :
    v.getVaultAllocations.get a.reserve = some (overview a) := by
  apply @PubkeyHashMap.get_eq_some _ _ (a.reserve, overview a) v.getVaultAllocations_keys_nodup
  rw [getVaultAllocations_eq]
  exact List.mem_map_of_mem ha

theorem pass_eq {e : PubkeyHashMap Extended} {zs : List ℚ} {left' weights' : ℚ}
    (hserved : Claimant.Served total left weights v.claimants xs left' weights')
    (hzs : v.getVaultReserves.map e.amount = zs.map .finite) :
    ∃ e', v.getVaultReserves.foldlM (visit v.getVaultAllocations (.finite total))
        ⟨.finite left, .finite weights, e⟩ = some ⟨.finite left', .finite weights', e'⟩ ∧
      v.getVaultReserves.map e'.amount = (List.zipWith (· + ·) zs xs).map .finite := by
  have hkeys := v.getVaultAllocations_keys_nodup
  rw [getVaultReserves_eq] at hzs ⊢
  rw [List.map_map] at hzs
  obtain ⟨e', hfold, hamounts, -⟩ := foldlM_visit hserved hkeys
    (fun r hr ↦ PubkeyHashMap.get_eq_some hkeys hr) hzs
  refine ⟨e', hfold, ?_⟩
  rw [List.map_map]
  exact hamounts

theorem first_pass_eq {left' weights' : ℚ} (hlength : v.claimants.length = xs.length)
    (hserved : Claimant.Served total left weights v.claimants xs left' weights') :
    ∃ e', v.getVaultReserves.foldlM (visit v.getVaultAllocations (.finite total))
        ⟨.finite left, .finite weights, []⟩ = some ⟨.finite left', .finite weights', e'⟩ ∧
      v.getVaultReserves.map e'.amount = xs.map .finite := by
  have hzero : v.getVaultReserves.map (PubkeyHashMap.amount []) =
      (List.replicate xs.length 0).map .finite := by
    rw [List.map_replicate, ← hlength, claimants, getVaultReserves_eq, List.map_map,
      List.length_map]
    exact List.map_const' ..
  obtain ⟨e', hfold, hamounts⟩ := v.pass_eq hserved hzero
  refine ⟨e', hfold, hamounts.trans ?_⟩
  congr 1
  apply List.ext_getElem <;> simp

/-- What the loop is to come to: reserves within their caps, no more allocated than there is, and
at most one token left. -/
def Allocated (total : ℚ) (e : PubkeyHashMap Extended) : Prop :=
  ∃ xs : List ℚ, v.getVaultReserves.map e.amount = xs.map .finite ∧
    List.Forall₂ Claimant.WithinCap v.claimants xs ∧ xs.sum ≤ total ∧ total ≤ xs.sum + 1

/-- The end of the loop from the start with a total. -/
def EndsAllocated (total : ℚ) : Prop :=
  ∃ fuel s, run v.getVaultAllocations v.getVaultReserves fuel
      ⟨.finite total, .finite v.totalAllocation, []⟩ = some s ∧
    v.Allocated total s.expectedHoldingsDistribution

variable {v}

theorem endsAllocated_of_le_one (htotal : 0 ≤ total) (h : total ≤ 1) : v.EndsAllocated total := by
  refine ⟨1, _, run_of_le_one h 0, v.claimants.map fun _ ↦ 0, ?_, ?_, ?_, ?_⟩
  · rw [claimants, List.map_map, List.map_map, getVaultReserves_eq, List.map_map]
    rfl
  · rw [List.forall₂_map_right_iff, List.forall₂_same]
    exact fun _ _ ↦ .zero
  · rwa [List.sum_map_zero]
  · rwa [List.sum_map_zero, zero_add]

theorem endsAllocated_of_first_pass {left' weights' : ℚ} (hone : 1 < total)
    (hserved : Claimant.Served total total v.totalAllocation v.claimants xs left' weights')
    (hcaps : List.Forall₂ Claimant.WithinCap v.claimants xs) (hleft : 0 ≤ left')
    (hleft' : left' ≤ 1) : v.EndsAllocated total := by
  obtain ⟨e', hfold, hamounts⟩ := v.first_pass_eq hcaps.length_eq hserved
  have hsum := hserved.left_eq
  refine ⟨2, _, (run_of_pass hone hfold 1).trans (run_of_le_one hleft' 0), xs, hamounts, hcaps, ?_,
    ?_⟩ <;> linarith

theorem endsAllocated_of_capsLast {cs ds : List (Claimant ℚ)} (htotal : 0 ≤ total)
    (hone : 1 < total) (hclaimants : v.claimants = cs ++ ds)
    (h : Claimant.CapsLast total cs ds) : v.EndsAllocated total := by
  have hw := v.claimants_weight_nonneg
  have hweights := v.totalAllocation_eq
  rw [hclaimants] at hw hweights
  have hfirst := h.first_pass hw htotal
  have hcaps := h.first_withinCap hw htotal
  rw [← hweights, ← hclaimants] at hfirst
  rw [← hweights, ← hclaimants] at hcaps
  generalize hleft : total - (Claimant.weightSum cs * total / v.totalAllocation +
    (ds.map Claimant.fill).sum) = left at hfirst
  rw [hweights] at hleft
  by_cases hle : left ≤ 1
  · exact endsAllocated_of_first_pass hone hfirst hcaps (hleft ▸ (sub_pos.2 h.remains).le) hle
  · have hsecond := h.second_pass hw htotal hleft.symm
    have hboth := h.both_withinCap hw htotal hleft.symm
    rw [← hclaimants] at hsecond
    rw [← hweights, ← hclaimants] at hboth
    obtain ⟨e₁, hfold₁, hamounts₁⟩ := v.first_pass_eq hcaps.length_eq hfirst
    obtain ⟨e₂, hfold₂, hamounts₂⟩ := v.pass_eq hsecond hamounts₁
    refine ⟨3, _, (run_of_pass hone hfold₁ 2).trans ((run_of_pass (not_le.1 hle) hfold₂ 1).trans
      (run_of_le_one zero_le_one 0)), _, hamounts₂, hboth.1, hboth.2.le, ?_⟩
    rw [hboth.2]
    exact le_add_of_nonneg_right zero_le_one

theorem endsAllocated_of_spreads (htotal : 0 ≤ total) (h : v.Spreads total) :
    v.EndsAllocated total := by
  by_cases hone : total ≤ 1
  · exact endsAllocated_of_le_one htotal hone
  rcases h with hsmall | ⟨hsum, hweighed⟩ | ⟨cs, ds, hclaimants, hlast⟩
  · exact absurd hsmall hone
  · obtain ⟨xs, left', weights', hserved, hcaps, hxs⟩ := Claimant.Served.exists_of_demands htotal
      htotal v.claimants_weight_nonneg v.totalAllocation_eq.ge hweighed
    have hleft := hserved.left_eq
    apply endsAllocated_of_first_pass (not_le.1 hone) hserved hcaps
    · rw [hleft, hxs]
      exact sub_nonneg.2 (min_le_left _ _)
    · rw [hleft, hxs, sub_le_iff_le_add', ← min_add_add_right]
      exact le_min (le_add_of_nonneg_right zero_le_one) hsum
  · exact endsAllocated_of_capsLast htotal (not_le.1 hone) hclaimants hlast

theorem visit_of_zero {allocations : PubkeyHashMap ReserveAllocationOverview}
    {e : PubkeyHashMap Extended} {o : ReserveAllocationOverview} {reserve : Pubkey}
    (ho : allocations.get reserve = some o) (hw : 0 < o.targetWeight)
    (hcap : 0 < o.tokenAllocationCap) (htotal : 0 < total) (hleft : o.tokenAllocationCap ≤ left) :
    visit allocations (.finite total) ⟨.finite left, .finite 0, e⟩ reserve =
      some ⟨.finite (left - o.tokenAllocationCap), .finite (0 - o.targetWeight),
        addToDistribution e reserve (.finite o.tokenAllocationCap)⟩ := by
  have hamount : amountToInvest ⟨.finite left, .finite 0, e⟩ (.finite total) o =
      .finite o.tokenAllocationCap := by
    simp only [amountToInvest, Extended.finite_mul, Extended.finite_div_zero (mul_pos hw htotal),
      Extended.infinity_min, Extended.zero_eq, Extended.finite_lt, decide_eq_true_eq, if_pos hcap,
      Extended.finite_min, min_eq_right hleft]
  simp [visit, ho, hamount, hcap]

/-- A vault with one reserve, whose cap keeps out more than a token even if it is taken twice: the
loop never ends. -/
theorem run_of_single {a : VaultAllocation} (hv : v.occupied = [a])
    (hw : a.targetAllocationWeight ≠ 0) (hcap : a.tokenAllocationCap ≠ 0)
    (htotal : 2 * ((a.tokenAllocationCap : ℕ) : ℚ) + 1 < total) (fuel : ℕ) :
    run v.getVaultAllocations v.getVaultReserves fuel
      ⟨.finite total, .finite v.totalAllocation, []⟩ = none := by
  have hallocations : v.getVaultAllocations = [(a.reserve, overview a)] := by
    rw [getVaultAllocations_eq, hv]
    rfl
  have hreserves : v.getVaultReserves = [a.reserve] := by
    rw [getVaultReserves, hv]
    rfl
  have hsum : v.totalAllocation = (overview a).targetWeight := by
    rw [totalAllocation, hallocations]
    exact List.sum_singleton
  rw [hallocations, hreserves, hsum]
  have hget : PubkeyHashMap.get [(a.reserve, overview a)] a.reserve = some (overview a) :=
    PubkeyHashMap.get_cons.trans (if_pos rfl)
  have hw : 0 < (overview a).targetWeight :=
    Nat.cast_pos.2 (Nat.pos_of_ne_zero (Fin.val_ne_zero_iff.2 hw))
  have hcap : 0 < (overview a).tokenAllocationCap :=
    Nat.cast_pos.2 (Nat.pos_of_ne_zero (Fin.val_ne_zero_iff.2 hcap))
  change 2 * (overview a).tokenAllocationCap + 1 < total at htotal
  generalize overview a = o at *
  have hone : 1 < total := by linarith
  have htake : o.tokenAllocationCap =
      o.claimant.limit (min (o.targetWeight * total / o.targetWeight) total) := by
    rw [mul_div_cancel_left₀ _ hw.ne', min_self, Claimant.limit]
    exact ((if_pos hcap).trans (min_eq_right (by linarith))).symm
  have hfirst := visit_eq (e := []) hget hw.ne' htake
  rw [Claimant.weightsLeft, if_pos ⟨rfl, hcap⟩, show o.claimant.weight = o.targetWeight from rfl,
    sub_self] at hfirst
  rcases fuel with _ | _ | fuel
  · rfl
  · rw [run_of_pass hone (by rw [List.foldlM_cons, hfirst]; rfl)]
    rfl
  · have hleft : 1 < total - o.tokenAllocationCap := by linarith
    have hcapLeft : o.tokenAllocationCap ≤ total - o.tokenAllocationCap := by linarith
    have hsecond := visit_of_zero
      (e := addToDistribution [] a.reserve (.finite o.tokenAllocationCap)) hget hw hcap
      (zero_lt_one.trans hleft) hcapLeft
    rw [run_of_pass hone (by rw [List.foldlM_cons, hfirst]; rfl),
      run_of_pass hleft (by rw [List.foldlM_cons, hsecond]; rfl)]
    apply run_of_neg (by linarith)
    · simp only [List.mem_singleton, forall_eq]
      exact ⟨o, hget, hw.le⟩
    · linarith

theorem getVaultComputedReservesAllocation_within_caps (v : VaultState) (holdings : VaultHoldings)
    (hweight : ∃ a ∈ v.occupied, a.targetAllocationWeight ≠ 0)
    (hholdings : holdings.pendingFees ≤ holdings.totalAUMIncludingFees)
    (hspreads : v.Spreads (holdings.totalAUMIncludingFees - holdings.pendingFees)) :
    ∃ fuel allocation, v.getVaultComputedReservesAllocation fuel holdings = some allocation ∧
      v.Allocated (holdings.totalAUMIncludingFees - holdings.pendingFees) allocation := by
  have hloop : ¬ (v.getVaultReserves = [] ∨ v.allReservesHaveWeight0 = true) := by
    obtain ⟨a, ha, hne⟩ := hweight
    rintro (hnone | hzero)
    · rw [getVaultReserves, List.map_eq_nil_iff] at hnone
      rw [hnone] at ha
      cases ha
    · have hget := (List.all_eq_true.1 hzero) a.reserve (List.mem_map_of_mem ha)
      rw [v.get_getVaultAllocations ha] at hget
      simp only [overview, decide_eq_true_eq, Nat.cast_eq_zero, Fin.val_eq_zero_iff] at hget
      exact hne hget
  obtain ⟨fuel, s, hrun, hallocated⟩ :=
    endsAllocated_of_spreads (sub_nonneg.2 hholdings) hspreads
  refine ⟨fuel, s.expectedHoldingsDistribution, ?_, hallocated⟩
  rw [getVaultComputedReservesAllocation, if_neg hloop, hrun]
  rfl

/-- A vault with half of its weight on a reserve with a cap. -/
def halfCapped : VaultState where
  tokenAvailable := 0
  sharesMintDecimals := 6
  vaultAllocationStrategy := [⟨1, 1, 0, 0⟩, ⟨2, 1, 10, 0⟩]
  reserves_nodup := by decide
  sharesMintDecimals_lt := six_decimals_lt

theorem halfCapped_within_caps : ∃ fuel allocation,
    halfCapped.getVaultComputedReservesAllocation fuel ⟨100, 0⟩ = some allocation ∧
      halfCapped.Allocated (100 - 0) allocation := by
  apply getVaultComputedReservesAllocation_within_caps halfCapped ⟨100, 0⟩ (by decide)
    (by norm_num)
  refine .inr (.inr ⟨[⟨1, 0⟩], [⟨1, 10⟩], by decide, ?_, ?_, ?_, ?_⟩)
  · norm_num [Claimant.weightSum]
  · norm_num [Claimant.Filled, Claimant.weightSum]
  · norm_num [Claimant.weightSum, Claimant.fill]
  · norm_num

/-- Half a token, which would fit under the cap, is not allocated. -/
theorem halfCapped_leaves_half : halfCapped.claimants = [⟨1, 0⟩, ⟨1, 10⟩] ∧
    (∀ fuel, halfCapped.getVaultComputedReservesAllocation (fuel + 1) ⟨1 / 2, 0⟩ = some []) ∧
    halfCapped.getVaultReserves.map (PubkeyHashMap.amount []) = [0, 0] := by
  refine ⟨by decide, fun fuel ↦ ?_, rfl⟩
  rw [getVaultComputedReservesAllocation, if_neg (by decide),
    run_of_le_one (by norm_num)]
  rfl

end VaultState

end Klend.Sdk
