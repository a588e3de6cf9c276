import Klend.Lending.Custody
import Klend.Positions.Slots

/-! # Collateral in custody

What an obligation has deposited in a reserve, and what every operation on
obligations adds to it or takes from it.
-/

namespace Klend

/-- What a slot holds of a reserve's collateral. -/
def ObligationCollateral.amountIn (k : Pubkey) (d : ObligationCollateral) : ℕ :=
  if d.depositReserve = k then d.depositedAmount else 0

theorem ObligationCollateral.amountIn_with (k : Pubkey) (d : ObligationCollateral) (n : U64) :
    amountIn k { d with depositedAmount := n } = if d.depositReserve = k then (n : ℕ) else 0 := rfl

/-- What an obligation has deposited in a reserve. -/
def Obligation.depositedIn (k : Pubkey) (o : Obligation) : ℕ :=
  (o.deposits.map (ObligationCollateral.amountIn k)).sum

namespace Obligation

variable {o o' : Obligation} {k key : Pubkey} {i : ℕ}

theorem amountIn_default (k : Pubkey) : ObligationCollateral.amountIn k default = 0 := by
  show (if (0 : Pubkey) = k then ((0 : U64) : ℕ) else 0) = 0
  split <;> rfl

theorem init_depositedIn (k : Pubkey) (tag slot : U64) (market owner referrer : Pubkey) :
    (init tag slot market owner referrer).depositedIn k = 0 := by
  refine List.sum_eq_zero fun n hn ↦ ?_
  obtain ⟨d, hd, rfl⟩ := List.mem_map.1 hn
  obtain rfl := List.eq_of_mem_replicate hd
  exact amountIn_default k

theorem depositedIn_set {d d' : ObligationCollateral} (o' : Obligation)
    (hd : o.deposits[i]? = some d) (h : o'.deposits = o.deposits.set i d') :
    o'.depositedIn k + d.amountIn k = o.depositedIn k + d'.amountIn k := by
  rw [depositedIn, h, depositedIn]
  exact SlotTable.sum_set hd

theorem depositedIn_congr (h : o'.deposits = o.deposits) : o'.depositedIn k = o.depositedIn k := by
  rw [depositedIn, h, depositedIn]

theorem Retracked.depositedIn_eq (h : o.Retracked o') : o'.depositedIn k = o.depositedIn k := by
  refine SlotTable.sum_eq_of_forall₂ (h.deposits.imp ?_)
  rintro d d' ⟨n, rfl⟩
  rfl

theorem Refreshed.depositedIn_eq
    (h : List.Forall₂ ObligationCollateral.Refreshed o.deposits o'.deposits) :
    o'.depositedIn k = o.depositedIn k := by
  refine SlotTable.sum_eq_of_forall₂ (h.imp fun d d' hd ↦ ?_)
  rw [ObligationCollateral.amountIn, hd.key_eq, hd.amount_eq, ObligationCollateral.amountIn]

theorem repay_depositedIn {settle : Fraction} (h : o.repay settle i = .ok o') :
    o'.depositedIn k = o.depositedIn k := by
  obtain ⟨b, -, ⟨-, rfl⟩ | ⟨rest, -, -, rfl⟩⟩ := repay_spec h <;> rfl

theorem withdraw_depositedIn {n : U64} {kind : WithdrawResult} {d : ObligationCollateral}
    (hd : o.deposits[i]? = some d) (hkey : d.depositReserve = key)
    (h : o.withdraw n i = .ok (o', kind)) :
    o'.depositedIn k + (if key = k then (n : ℕ) else 0) = o.depositedIn k := by
  obtain ⟨d', hd', hcases⟩ := withdraw_spec h
  obtain rfl := Option.some.inj (hd.symm.trans hd')
  subst hkey
  obtain ⟨rfl, -, rfl⟩ | ⟨rest, -, hrest, -, rfl⟩ := hcases
  · have hsum := depositedIn_set (k := k) { o with
      deposits := o.deposits.set i default
      depositsAssetTiers := o.depositsAssetTiers.set i (Word.max 8) } hd rfl
    rw [amountIn_default] at hsum
    exact hsum
  · have hsum := depositedIn_set (k := k) { o with
      deposits := o.deposits.set i { d with depositedAmount := rest } } hd rfl
    rw [ObligationCollateral.amountIn_with k d rest, ObligationCollateral.amountIn] at hsum
    split_ifs at hsum ⊢ <;> omega

end Obligation

section Operations

variable {market : LendingMarket} {r r' : Reserve} {o o' : Obligation} {amount slot : U64}
  {clock : Clock} {k key : Pubkey} {rs rs' : Reserves} {iter iter' : List Pubkey}

theorem depositObligationCollateral_depositedIn {check : MaxReservesAsCollateralCheck}
    (hk : k ≠ 0)
    (h : depositObligationCollateral market r o slot amount key check = .ok (r', o')) :
    o'.depositedIn k = o.depositedIn k + if key = k then (amount : ℕ) else 0 := by
  obtain ⟨-, -, group, total, tier, o₁, i, r₁, d, d₁, -, -, hfind, hd, hd₁, rfl, -⟩ :=
    depositObligationCollateral_spec h
  simp only [ObligationCollateral.deposit, bind_eq_ok, okOr_eq_ok, Word.checkedAdd_eq_some,
    pure_eq_ok] at hd₁
  obtain ⟨x, hx, rfl⟩ := hd₁
  -- the slot found or opened counts nothing more yet, and has the reserve's key
  obtain ⟨hsame, hkey⟩ : o₁.depositedIn k = o.depositedIn k ∧ d.depositReserve = key := by
    obtain ⟨rfl, -, d', hd', hkey⟩ | ⟨-, ⟨free, hfree, hfreekey⟩, d₀, hd₀, rfl⟩ :=
      findOrAddCollateral_spec hfind
    · obtain rfl := Option.some.inj (hd'.symm.trans hd)
      exact ⟨rfl, hkey⟩
    · have hnew : d₀.depositReserve = key ∧ d₀.depositedAmount = 0 := by
        obtain ⟨-, rfl, -⟩ | ⟨g, j, n, m, -, -, -, -, -, rfl, -⟩ := updateOnNewDeposit_spec hd₀ <;>
          exact ⟨rfl, rfl⟩
      have hsum := Obligation.depositedIn_set (k := k) { o with
        deposits := o.deposits.set i d₀
        depositsAssetTiers := o.depositsAssetTiers.set i tier.toU8 } hfree rfl
      rw [ObligationCollateral.amountIn, if_neg fun h0 ↦ hk (h0.symm.trans hfreekey),
        ObligationCollateral.amountIn, hnew.2, show ((0 : U64) : ℕ) = 0 from rfl, ite_self] at hsum
      rw [List.getElem?_set_self (List.getElem?_eq_some_iff.1 hfree).1, Option.some.injEq] at hd
      exact ⟨hsum, hd ▸ hnew.1⟩
  rw [← hsame]
  have hsum := Obligation.depositedIn_set (k := k) (Obligation.markStale { o₁ with
    deposits := o₁.deposits.set i { d with depositedAmount := x } }) hd rfl
  subst hkey
  rw [ObligationCollateral.amountIn_with k d x, ObligationCollateral.amountIn] at hsum
  split_ifs at hsum ⊢ <;> omega

theorem withdrawObligationCollateral_depositedIn {check : LtvMaxWithdrawalCheck} {n : U64}
    (h : withdrawObligationCollateral market r o amount slot key check = .ok (r', o', n)) :
    o'.depositedIn k + (if key = k then (n : ℕ) else 0) = o.depositedIn k := by
  obtain ⟨-, -, i, d, o₁, kind, hi, hd, hw, rfl, -⟩ := withdrawObligationCollateral_spec h
  obtain ⟨d', hd', hkey⟩ := positionOfCollateral_spec hi
  obtain rfl := Option.some.inj (hd.symm.trans hd')
  rw [← Obligation.withdraw_depositedIn hd hkey hw]
  rfl

/-- A liquidation takes the withdrawn collateral out of its slot, whatever part of it is then
redeemed. -/
theorem liquidateAndRedeem_depositedIn {repayKey withdrawKey : Pubkey} {override : Option U64}
    {least : U64} {res : LiquidateAndRedeemResult}
    (h : liquidateAndRedeem market repayKey withdrawKey o clock amount least override rs iter =
      .ok (o', rs', res)) :
    o'.depositedIn k + (if withdrawKey = k then (res.withdrawAmount : ℕ) else 0) =
      o.depositedIn k := by
  obtain ⟨rs₁, result, _, _, hliq, -, -, -, -, -, hamount⟩ := liquidateAndRedeem_spec h
  obtain ⟨_, _, _, _, i, j, d, _, amounts, -, -, -, -, -, hj, hd, -, -, o₁, r₁, held, d₁, l, o₂, o₃,
    kind, _, _, _, htrack, -, -, hrepay, hwithdraw, rfl, -, -, -, -, -, hamount', -⟩ :=
    liquidateObligation_spec hliq
  rw [hamount, hamount']
  obtain ⟨d', hd', hkey⟩ := positionOfCollateral_spec hj
  obtain rfl := Option.some.inj (hd.symm.trans hd')
  have hretracked := (updateOnRepay_retracked htrack).1
  -- the slot is still there when it is withdrawn from
  obtain ⟨d₂, hd₂, n, rfl⟩ := SlotTable.exists_of_forall₂_left hretracked.deposits hd
  have hsettled : o₂.deposits = o₁.deposits := by
    obtain ⟨b, -, ⟨-, rfl⟩ | ⟨rest, -, -, rfl⟩⟩ := repay_spec hrepay <;> rfl
  rw [← hsettled] at hd₂
  rw [← hretracked.depositedIn_eq, ← Obligation.depositedIn_congr hsettled]
  rw [← Obligation.withdraw_depositedIn hd₂ hkey hwithdraw]
  rfl

end Operations

namespace World

/-- What all obligations together have deposited in a reserve. -/
def depositedIn (k : Pubkey) (w : World) : ℕ :=
  (w.obligations.map (Obligation.depositedIn k)).sum

variable {w w' : World} {clock : Clock} {ix : Instruction} {index : ℕ} {o o' : Obligation}
  {k : Pubkey}

theorem depositedIn_set (w' : World) (ho : w.obligations[index]? = some o)
    (h : w'.obligations = w.obligations.set index o') :
    w'.depositedIn k + o.depositedIn k = w.depositedIn k + o'.depositedIn k := by
  rw [depositedIn, h, depositedIn]
  exact SlotTable.sum_set ho

/-- An instruction that does not move collateral leaves what is deposited as it is. -/
theorem ChangesObligation.depositedIn_eq (hch : ChangesObligation w w' clock index ix o o')
    (hix : ix.movesCollateral = false) : o'.depositedIn k = o.depositedIn k := by
  cases hch with
  | refresh hop =>
    obtain ⟨group, o₁, rs₁, borrows, o₂, deposits, -, hb, hd, rfl⟩ := Klend.refreshObligation_spec hop
    have hborrows : o₁.deposits = o.deposits := by rw [(refreshObligationBorrows_frame hb).2.2]
    rw [← Obligation.depositedIn_congr hborrows]
    exact Obligation.Refreshed.depositedIn_eq (refreshObligationDeposits_frame hd).2.1
  | request hop =>
    obtain ⟨-, -, oldGroup, group, o₁, rs₁, o₂, rs₂, borrows, o₃, deposits, -, hreset, -, hb, hd,
      rfl, -⟩ := Klend.requestElevationGroup_spec hop
    have hborrows : o₂.deposits = o₁.deposits := by rw [(refreshObligationBorrows_frame hb).2.2]
    rw [← (resetElevationGroupDebts_retracked hreset).1.depositedIn_eq,
      ← Obligation.depositedIn_congr hborrows]
    exact Obligation.Refreshed.depositedIn_eq (refreshObligationDeposits_frame hd).2.1
  | borrow _ hop _ =>
    obtain ⟨-, -, -, -, n, cap, l, tier, o₁, i, b, b₁, r₁, group, b₂, -, -, hfind, hb, -, -, -,
      htrack, -⟩ := Klend.borrowObligationLiquidity_spec hop
    have hopened : o₁.deposits = o.deposits := by
      obtain ⟨rfl, -⟩ | ⟨-, -, -, rfl⟩ := findOrAddLiquidity_spec hfind hb <;> rfl
    rw [(updateOnBorrow_retracked htrack).1.depositedIn_eq]
    exact Obligation.depositedIn_congr hopened
  | repay _ hop _ =>
    obtain ⟨-, -, b, i, b₁, settle, cap, o₁, r₁, l, o₂, -, -, -, htrack, -, -, hrepay, rfl⟩ :=
      Klend.repayObligationLiquidity_spec hop
    refine (Obligation.repay_depositedIn hrepay).trans ?_
    rw [(updateOnRepay_retracked htrack).1.depositedIn_eq]
    rfl
  | socialize _ hop _ =>
    obtain ⟨-, -, -, b, i, supply, n, o₁, r₁, l, o₂, -, -, -, -, htrack, -, -, hrepay, rfl⟩ :=
      Klend.socializeLoss_spec hop
    exact (Obligation.repay_depositedIn hrepay).trans
      (updateOnRepay_retracked htrack).1.depositedIn_eq
  | mark hop _ =>
    obtain ⟨target, started, rfl⟩ := markObligationForDeleveraging_frame hop
    rfl
  | deposit => cases hix
  | withdraw => cases hix
  | liquidate => cases hix

theorem process_depositedIn (h : w.process clock ix = .ok w') (hix : ix.movesCollateral = false) :
    w'.depositedIn k = w.depositedIn k := by
  obtain ⟨-, heq⟩ | ⟨-, -, tag, owner, referrer, heq⟩ | ⟨index, o, o', -, ho, heq, hch⟩ :=
    process_obligations h
  · rw [depositedIn, heq, depositedIn]
  · rw [depositedIn, heq, List.map_append, List.sum_append, List.map_cons, List.map_nil,
      List.sum_singleton, Obligation.init_depositedIn, depositedIn, Nat.add_zero]
  · have hsum := depositedIn_set (k := k) w' ho heq
    rw [hch.depositedIn_eq hix] at hsum
    omega

end World

end Klend
