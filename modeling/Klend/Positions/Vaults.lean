import Klend.Positions.Custody

/-! # Tokens move with the accounts

An instruction that moves collateral changes one obligation by what enters or leaves
the collateral vault, and the liquidity of every reserve by what enters or leaves its
liquidity vault.
-/

namespace Klend

/-- The available liquidity of every reserve moves with its vault. -/
def Reserves.MovesWith (v v' : Pubkey → U64) : Reserves → Reserves → Prop :=
  KeyedMap.Related fun k r r' ↦
    (r'.liquidity.availableAmount : ℕ) + v k = r.liquidity.availableAmount + v' k

namespace Reserves.MovesWith

variable {v v' v'' : Pubkey → U64} {rs rs' rs'' : Reserves} {k : Pubkey} {r r' : Reserve}

theorem refl (v : Pubkey → U64) (rs : Reserves) : MovesWith v v rs rs :=
  KeyedMap.Related.refl (fun k r ↦ (rfl : (r.liquidity.availableAmount : ℕ) + v k = _)) rs

theorem trans (h : MovesWith v v' rs rs') (h' : MovesWith v' v'' rs' rs'') :
    MovesWith v v'' rs rs'' := by
  refine KeyedMap.Related.trans (fun k a b c hab hbc ↦ ?_) h h'
  omega

theorem store_hold (hr : rs k = some r) (hmap : Reserves.Rebooked (rs.hold k) rs')
    (hv : ∀ j, j ≠ k → v' j = v j)
    (h : (r'.liquidity.availableAmount : ℕ) + v k = r.liquidity.availableAmount + v' k) :
    MovesWith v v' rs (rs'.store k r') := by
  refine KeyedMap.Related.update_of_erase hr hmap (fun j hj a b hab ↦ ?_) h
  obtain ⟨_, _, _, _, _, rfl⟩ := hab
  rw [hv j hj]

theorem store (hr : rs k = some r) (hv : ∀ j, j ≠ k → v' j = v j)
    (h : (r'.liquidity.availableAmount : ℕ) + v k = r.liquidity.availableAmount + v' k) :
    MovesWith v v' rs (rs.store k r') := by
  have := store_hold hr (.refl _) hv h
  rwa [World.store_hold_eq] at this

theorem store_same (hr : rs k = some r)
    (h : r'.liquidity.availableAmount = r.liquidity.availableAmount) :
    MovesWith v v rs (rs.store k r') :=
  store hr (fun _ _ ↦ rfl) (by rw [h])

end Reserves.MovesWith

namespace Custody

variable {v v' : Pubkey → U64} {k : Pubkey} {n : U64}

theorem credit_spec (h : credit v k n = .ok v') :
    (v' k : ℕ) = v k + n ∧ ∀ j, j ≠ k → v' j = v j := by
  simp only [credit, bind_eq_ok, Word.add_eq_ok, pure_eq_ok] at h
  obtain ⟨b, hb, rfl⟩ := h
  exact ⟨by rw [Function.update_self, hb], fun j hj ↦ Function.update_of_ne hj _ _⟩

theorem debit_spec (h : debit v k n = .ok v') :
    (v' k : ℕ) + n = v k ∧ ∀ j, j ≠ k → v' j = v j := by
  simp only [debit, bind_eq_ok, Word.sub_eq_ok, pure_eq_ok] at h
  obtain ⟨-, -, b, hb, rfl⟩ := h
  exact ⟨by rw [Function.update_self, hb], fun j hj ↦ Function.update_of_ne hj _ _⟩

theorem credit_balance (h : credit v k n = .ok v') (j : Pubkey) :
    (v' j : ℕ) = v j + if k = j then (n : ℕ) else 0 := by
  obtain ⟨hk, hother⟩ := credit_spec h
  split
  · next heq => rw [← heq, hk]
  · next hne => rw [hother j (Ne.symm hne), Nat.add_zero]

theorem debit_balance (h : debit v k n = .ok v') (j : Pubkey) :
    (v' j : ℕ) + (if k = j then (n : ℕ) else 0) = v j := by
  obtain ⟨hk, hother⟩ := debit_spec h
  split
  · next heq => rw [← heq, hk]
  · next hne => rw [hother j (Ne.symm hne), Nat.add_zero]

end Custody

section Operations

variable {market : LendingMarket} {r r' : Reserve} {o o' : Obligation} {amount slot : U64}
  {clock : Clock} {key : Pubkey} {rs rs' : Reserves} {iter : List Pubkey} {v v' : Pubkey → U64}

theorem refreshReserve_available {price : Option GetPriceResult} {bps : U16}
    (h : refreshReserve r clock price bps = .ok r') :
    r'.liquidity.availableAmount = r.liquidity.availableAmount := by
  obtain ⟨r₁, p, ts, status, hr₁, rfl⟩ := Reserve.refreshReserve_spec h
  obtain ⟨-, ⟨-, rfl⟩ | ⟨n, rate, l, -, -, -, hl, rfl⟩⟩ := Reserve.accrueInterest_cases hr₁
  · rfl
  · obtain ⟨_, _, _, _, _, -, -, -, hcompound⟩ := ReserveLiquidity.compoundInterest_spec hl
    rw [hcompound.frame]

theorem retracked_available (h : r.Retracked r') :
    r'.liquidity.availableAmount = r.liquidity.availableAmount := by
  obtain ⟨outside, groups, rfl⟩ := h
  rfl

theorem depositObligationCollateral_available {check : MaxReservesAsCollateralCheck}
    (h : depositObligationCollateral market r o slot amount key check = .ok (r', o')) :
    r'.liquidity.availableAmount = r.liquidity.availableAmount := by
  obtain ⟨r₁, ⟨outside, groups, rfl⟩, rfl⟩ := depositObligationCollateral_retracked h
  rfl

theorem redeemReserveCollateral_available {x : U64} {addToCaps : Bool}
    (h : redeemReserveCollateral r amount clock addToCaps = .ok (r', x)) :
    (r'.liquidity.availableAmount : ℕ) + x = r.liquidity.availableAmount := by
  obtain ⟨r₁, r₂, ts, cap, hredeem, -, htouch, rfl⟩ := Reserve.redeemReserveCollateral_spec h
  obtain ⟨a, s, rfl, ha, -⟩ := Reserve.redeemCollateral_spec (n := 0) hredeem
  obtain ⟨dc, bc, rfl, -⟩ := Reserve.refreshReserveLimitTimestamps_spec htouch
  exact ha

theorem liquidateAndRedeem_movesWith {repayKey withdrawKey : Pubkey} {override : Option U64}
    {least : U64} {res : LiquidateAndRedeemResult} {v₁ : Pubkey → U64}
    (h : liquidateAndRedeem market repayKey withdrawKey o clock amount least override rs iter =
      .ok (o', rs', res))
    (hrepaid : (v₁ repayKey : ℕ) = v repayKey + res.repayAmount)
    (hrepaid' : ∀ j, j ≠ repayKey → v₁ j = v j)
    (hredeemed : match res.totalWithdrawLiquidityAmount with
      | some (x, _) => (v' withdrawKey : ℕ) + x = v₁ withdrawKey
      | none => v' withdrawKey = v₁ withdrawKey)
    (hredeemed' : ∀ j, j ≠ withdrawKey → v' j = v₁ j) : Reserves.MovesWith v v' rs rs' := by
  obtain ⟨rs₁, result, w, w', hliq, hw, hpost, rfl, -, hamount, -⟩ := liquidateAndRedeem_spec h
  obtain ⟨rr, wr, _, _, i, j, d, _, amounts, hrr, -, -, -, -, -, -, -, -, o₁, r₁, held, d₁, l, o₂, o₃,
    kind, w₁, w₂, w₃, htrack, -, hl, -, -, -, hw₁, hw₂, hw₃, rfl, hamount', -⟩ :=
    liquidateObligation_spec hliq
  rw [Reserves.load_eq_ok] at hrr hw hw₁
  rw [Reserves.store_same, Option.some.injEq] at hw
  obtain ⟨-, rfl⟩ := hw
  obtain ⟨-, ⟨_, _, hr₁⟩, hheld⟩ := updateOnRepay_retracked htrack
  -- the repaid reserve
  have hrepay : Reserves.MovesWith v v₁ rs
      (held.store repayKey (Reserve.markStale { r₁ with liquidity := l })) := by
    refine .store_hold hrr.2 hheld.rebooked hrepaid' ?_
    obtain ⟨a, b, rfl, ha, -⟩ := Reserve.liquidity_repay_spec hl
    rw [hr₁] at ha
    rw [hrepaid, hamount, hamount']
    show (a : ℕ) + _ = _
    rw [ha]
    dsimp only
    omega
  -- the withdrawn reserve, refreshed and relieved of a full withdrawal
  have hrefresh : w₃.liquidity.availableAmount = w₁.liquidity.availableAmount := by
    rw [← refreshReserve_available hw₂]
    split at hw₃
    · exact retracked_available (updateOnFullWithdraw_retracked hw₃)
    · rw [Except.ok.inj hw₃]
  rw [World.store_store_eq]
  refine hrepay.trans (.store hw₁.2 hredeemed' ?_)
  obtain ⟨x, fee, hredeem, htotal⟩ | ⟨rfl, htotal⟩ := postLiquidateRedeem_spec hpost
  · rw [htotal] at hredeemed
    dsimp only at hredeemed
    have := redeemReserveCollateral_available hredeem
    rw [hrefresh] at this
    omega
  · rw [htotal] at hredeemed
    dsimp only at hredeemed
    rw [hredeemed, hrefresh]

end Operations

namespace Custody

/-- Collateral moves between one obligation and the vaults, and liquidity with its vaults. -/
structure Moved (c c' : Custody) : Prop where
  collateral : ∃ index o o', c.world.obligations[index]? = some o ∧
    c'.world.obligations = c.world.obligations.set index o' ∧
    ∀ k, k ≠ 0 → o'.depositedIn k + c.collateralSupply k =
      o.depositedIn k + c'.collateralSupply k
  liquidity : Reserves.MovesWith c.liquiditySupply c'.liquiditySupply c.world.reserves
    c'.world.reserves

variable {c c' : Custody} {clock : Clock} {index : ℕ} {key : Pubkey} {amount : U64}

theorem depositObligationCollateral_moved
    (h : c.depositObligationCollateral clock index key amount = .ok c') : Moved c c' := by
  simp only [depositObligationCollateral, bind_eq_ok, pure_eq_ok] at h
  obtain ⟨w, hw, v, hv, rfl⟩ := h
  obtain ⟨o, r, r₁, r', o', ho, hr, hr₁, hop, rfl⟩ := World.depositObligationCollateral_spec hw
  constructor
  · refine ⟨index, o, o', (World.loadObligation_eq_ok.1 ho).1, rfl, fun k hk ↦ ?_⟩
    have hobligation := depositObligationCollateral_depositedIn hk hop
    have hvault := credit_balance hv k
    dsimp only
    omega
  · exact .store_same (World.loadReserve_eq_ok.1 hr).2.1
      ((depositObligationCollateral_available hop).trans (refreshReserve_available hr₁))

theorem depositReserveLiquidityAndObligationCollateral_moved {check : MaxReservesAsCollateralCheck}
    (h : c.depositReserveLiquidityAndObligationCollateral clock index key amount check = .ok c') :
    Moved c c' := by
  simp only [depositReserveLiquidityAndObligationCollateral, bind_eq_ok, pure_eq_ok,
    Prod.exists] at h
  obtain ⟨-, -, o, ho, r, hr, -, -, -, -, r₁, result, hdeposit, r₂, hr₂, r', o', hop, vl, hvl, w,
    hw, vc, hvc, rfl⟩ := h
  obtain ⟨supply, -, rfl⟩ := World.mintCollateral_eq_ok.1 hw
  constructor
  · refine ⟨index, o, o', (World.loadObligation_eq_ok.1 ho).1, rfl, fun k hk ↦ ?_⟩
    have hobligation := depositObligationCollateral_depositedIn hk hop
    have hvault := credit_balance hvc k
    dsimp only
    omega
  · obtain ⟨hpaid, hother⟩ := credit_spec hvl
    refine .store (World.loadReserve_eq_ok.1 hr).2.1 hother ?_
    obtain ⟨a, s, cap, -, ha, -, rfl⟩ := Reserve.depositReserveLiquidity_spec hdeposit
    have hsame := (depositObligationCollateral_available hop).trans (refreshReserve_available hr₂)
    rw [hsame, hpaid]
    show (a : ℕ) + _ = _
    omega

theorem withdrawObligationCollateral_moved
    (h : c.withdrawObligationCollateral clock index key amount = .ok c') : Moved c c' := by
  simp only [withdrawObligationCollateral, bind_eq_ok, pure_eq_ok, Prod.exists] at h
  obtain ⟨-, -, o, ho, r, hr, -, -, r', o', n, hop, v, hv, rfl⟩ := h
  constructor
  · refine ⟨index, o, o', (World.loadObligation_eq_ok.1 ho).1, rfl, fun k _ ↦ ?_⟩
    have hobligation := withdrawObligationCollateral_depositedIn (k := k) hop
    have hvault := debit_balance hv k
    dsimp only
    omega
  · exact .store_same (World.loadReserve_eq_ok.1 hr).2.1
      (retracked_available (withdrawObligationCollateral_retracked hop))

theorem withdrawObligationCollateralAndRedeemReserveCollateral_moved
    {check : LtvMaxWithdrawalCheck}
    (h : c.withdrawObligationCollateralAndRedeemReserveCollateral clock index key amount check =
      .ok c') : Moved c c' := by
  simp only [withdrawObligationCollateralAndRedeemReserveCollateral, bind_eq_ok, pure_eq_ok,
    Prod.exists] at h
  obtain ⟨-, -, o, ho, r, hr, -, -, r₁, o', n, hop, r', x, hredeem, vc, hvc, w, hw, vl, hvl, rfl⟩ :=
    h
  obtain ⟨supply, -, rfl⟩ := World.burnCollateral_eq_ok.1 hw
  constructor
  · refine ⟨index, o, o', (World.loadObligation_eq_ok.1 ho).1, rfl, fun k _ ↦ ?_⟩
    have hobligation := withdrawObligationCollateral_depositedIn (k := k) hop
    have hvault := debit_balance hvc k
    dsimp only
    omega
  · obtain ⟨hpaid, hother⟩ := debit_spec hvl
    refine .store (World.loadReserve_eq_ok.1 hr).2.1 hother ?_
    have hredeemed := redeemReserveCollateral_available hredeem
    rw [retracked_available (withdrawObligationCollateral_retracked hop)] at hredeemed
    dsimp only
    omega

/-- Collateral that is not redeemed is paid out as it is. -/
theorem liquidateObligationAndRedeemReserveCollateral_moved {repayKey withdrawKey : Pubkey}
    {least : U64} {override : Option U64} {remaining : List Pubkey}
    (h : c.liquidateObligationAndRedeemReserveCollateral clock index repayKey withdrawKey amount
      least override remaining = .ok c') : Moved c c' := by
  simp only [liquidateObligationAndRedeemReserveCollateral, bind_eq_ok, Prod.exists] at h
  obtain ⟨-, -, -, -, -, -, -, -, -, -, o, ho, o', rs, res, hop, -, -, v₁, hv₁, vc, hvc, h⟩ := h
  obtain ⟨hrepaid, hrepaid'⟩ := credit_spec hv₁
  -- redeemed or not, the obligation and the collateral vault lose the same
  have hcollateral : ∀ k, k ≠ 0 → o'.depositedIn k + c.collateralSupply k =
      o.depositedIn k + vc k := by
    intro k _
    have hobligation := liquidateAndRedeem_depositedIn (k := k) hop
    have hvault := debit_balance hvc k
    omega
  cases htotal : res.totalWithdrawLiquidityAmount with
  | none =>
    rw [htotal, pure_eq_ok] at h
    subst h
    refine ⟨⟨index, o, o', (World.loadObligation_eq_ok.1 ho).1, rfl, hcollateral⟩, ?_⟩
    exact liquidateAndRedeem_movesWith hop hrepaid hrepaid' (by rw [htotal]) fun _ _ ↦ rfl
  | some total =>
    rw [htotal] at h
    simp only [bind_eq_ok, pure_eq_ok] at h
    obtain ⟨w, hw, v₂, hv₂, rfl⟩ := h
    obtain ⟨supply, -, rfl⟩ := World.burnCollateral_eq_ok.1 hw
    obtain ⟨hredeemed, hredeemed'⟩ := debit_spec hv₂
    refine ⟨⟨index, o, o', (World.loadObligation_eq_ok.1 ho).1, rfl, hcollateral⟩, ?_⟩
    exact liquidateAndRedeem_movesWith hop hrepaid hrepaid' (by rw [htotal]; exact hredeemed)
      hredeemed'

theorem process_moved {ix : CustodyInstruction} (h : c.process clock ix = .ok c') :
    Moved c c' := by
  cases ix with
  | depositObligationCollateral => exact depositObligationCollateral_moved h
  | depositReserveLiquidityAndObligationCollateral =>
    exact depositReserveLiquidityAndObligationCollateral_moved h
  | withdrawObligationCollateral => exact withdrawObligationCollateral_moved h
  | withdrawObligationCollateralAndRedeemReserveCollateral =>
    exact withdrawObligationCollateralAndRedeemReserveCollateral_moved h
  | liquidateObligationAndRedeemReserveCollateral =>
    exact liquidateObligationAndRedeemReserveCollateral_moved h

end Custody

end Klend
