import Klend.Accounting.ReserveMaps
import Klend.Lending.InstructionSpecs

/-! # Instructions refine the books

Every instruction moves the books of every reserve by effects alone. Only a
repayment, a liquidation or a socialised loss takes debt off, and at most what the
named obligation owes and the instruction asks for.
-/

namespace Klend

namespace World

/-- The obligation at `index` has a debt slot on the reserve at `key`, whose books are `b`. -/
def HasDebt (w : World) (index : ℕ) (key : Pubkey) (b : Books) (r : Reserve)
    (slot : ObligationLiquidity) : Prop :=
  ∃ o, w.obligations[index]? = some o ∧ slot ∈ o.borrows ∧ slot.borrowReserve = key ∧
    w.reserves key = some r ∧ b = r.books (w.collateralMintSupply key)

/-- The debt that a repayment or a liquidation can settle on a reserve with these books. -/
def Settles (w : World) (ix : Instruction) (k : Pubkey) (b : Books) (s : ℕ) : Prop :=
  match ix with
  | .repayObligationLiquidity index key amount _ => k = key ∧ ∃ r slot slot',
      w.HasDebt index key b r slot ∧
      slot.accrueInterest r.liquidity.cumulativeBorrowRateBsf = .ok slot' ∧
      s ≤ amount * unit ∧ s ≤ slot'.borrowedAmountSf.bits
  | .liquidateObligationAndRedeemReserveCollateral index key _ amount _ _ _ => k = key ∧
      ∃ r slot, w.HasDebt index key b r slot ∧
        s ≤ amount * unit ∧ s ≤ slot.borrowedAmountSf.bits
  | _ => False

/-- The debt that a socialised loss can forgive on a reserve with these books. -/
def Forgives (w : World) (ix : Instruction) (k : Pubkey) (b : Books) (f : ℕ) : Prop :=
  match ix with
  | .socializeLoss index key amount _ => k = key ∧ ∃ r slot supply,
      w.HasDebt index key b r slot ∧ r.liquidity.totalSupply = .ok supply ∧
      f ≤ amount * unit ∧ f ≤ slot.borrowedAmountSf.bits
  | _ => False

/-- Every reserve evolves, together with the circulation of its collateral tokens. -/
def Evolve (t : ℕ) (S F : Pubkey → Books → ℕ → Prop) (w w' : World) : Prop :=
  KeyedMap.Related (fun k r r' ↦ Reserve.Evolves t (S k) (F k) r (w.collateralMintSupply k) r'
    (w'.collateralMintSupply k)) w.reserves w'.reserves

variable {t : ℕ} {S F : Pubkey → Books → ℕ → Prop} {w w' : World} {clock : Clock} {k : Pubkey}
  {r r' : Reserve}

theorem Evolve.of_reserves (h : Reserves.Evolve t S F w.reserves w'.reserves)
    (hsupply : w'.collateralMintSupply = w.collateralMintSupply) : Evolve t S F w w' := by
  refine KeyedMap.Related.mono (fun k r r' hr ↦ ?_) h
  rw [hsupply]
  exact hr _

theorem Evolve.refl_of_eq (hreserves : w'.reserves = w.reserves)
    (hsupply : w'.collateralMintSupply = w.collateralMintSupply) : Evolve t S F w w' :=
  .of_reserves (hreserves ▸ Reserves.Evolve.refl _) hsupply

/-- One reserve is held apart from the evolution of the others and stored at the end; only its own
circulation may change. -/
theorem Evolve.of_store_hold {rs : Reserves} (hr : w.reserves k = some r)
    (hmap : Reserves.Evolve t S F (w.reserves.hold k) rs)
    (h : Reserve.Evolves t (S k) (F k) r (w.collateralMintSupply k) r'
      (w'.collateralMintSupply k))
    (hreserves : w'.reserves = rs.store k r')
    (hsupply : ∀ j, j ≠ k → w'.collateralMintSupply j = w.collateralMintSupply j) :
    Evolve t S F w w' := by
  unfold Evolve
  rw [hreserves]
  refine KeyedMap.Related.update_of_erase hr hmap (fun j hj a b hab ↦ ?_) h
  rw [hsupply j hj]
  exact hab _

theorem Evolve.trans {w'' : World} (h : Evolve t S F w w') (h' : Evolve t S F w' w'') :
    Evolve t S F w w'' :=
  KeyedMap.Related.trans (fun _ _ _ _ hab hbc ↦ hab.trans hbc) h h'

theorem store_hold_eq {rs : Reserves} : (rs.hold k).store k r = rs.store k r := by
  simp [Reserves.store, Reserves.hold]

/-- One reserve is stored, and only its own circulation may change. -/
theorem Evolve.of_store (hr : w.reserves k = some r)
    (h : Reserve.Evolves t (S k) (F k) r (w.collateralMintSupply k) r'
      (w'.collateralMintSupply k))
    (hreserves : w'.reserves = w.reserves.store k r')
    (hsupply : ∀ j, j ≠ k → w'.collateralMintSupply j = w.collateralMintSupply j) :
    Evolve t S F w w' :=
  .of_store_hold hr (.refl _) h (hreserves.trans store_hold_eq.symm) hsupply

/-- An instruction that moves one reserve and touches neither debt trackers nor obligations. -/
structure ActsOnReserve (t : ℕ) (S F : Books → ℕ → Prop) (key : Pubkey) (w w' : World) :
    Prop where
  reserve : ∃ r r', w.loadReserve key = .ok r ∧ w'.reserves = w.reserves.store key r' ∧
    Reserve.Moves t S F r (w.collateralMintSupply key) r' (w'.collateralMintSupply key)
  supply : ∀ j, j ≠ key → w'.collateralMintSupply j = w.collateralMintSupply j
  obligations : w'.obligations = w.obligations
  lendingMarket : w'.lendingMarket = w.lendingMarket
  lendingMarketPk : w'.lendingMarketPk = w.lendingMarketPk

section Reserves

variable {key referrer : Pubkey} {amount : U64} {S F : Books → ℕ → Prop}

theorem refreshReserve_acts {price : Option GetPriceResult}
    (h : w.refreshReserve clock key price = .ok w') :
    ActsOnReserve clock.unixTimestamp.toNat S F key w w' := by
  simp only [refreshReserve, bind_eq_ok, pure_eq_ok] at h
  obtain ⟨-, -, r, hr, -, -, r₁, hr₁, ts, hts, r₂, hr₂, -, -, rfl⟩ := h
  refine ⟨⟨r, r₂, hr, rfl, ?_⟩, fun _ _ ↦ rfl, rfl, rfl, rfl⟩
  exact (Reserve.refreshReserve_moves hr₁).trans
    (Reserve.refreshReserveLimitTimestamps_moves (Clock.timestamp_eq_ok hts) hr₂)

theorem depositReserveLiquidity_acts
    (h : w.depositReserveLiquidity clock key amount = .ok w') : ActsOnReserve t S F key w w' := by
  simp only [depositReserveLiquidity, bind_eq_ok, mintCollateral_eq_ok, Prod.exists] at h
  obtain ⟨-, -, r, hr, -, -, -, -, r₁, hr₁, r₂, res, hr₂, supply, hsupply, rfl⟩ := h
  refine ⟨⟨r, r₂, hr, rfl, ?_⟩, fun j hj ↦ Function.update_of_ne hj _ _, rfl, rfl, rfl⟩
  refine (Reserve.refreshReserve_moves hr₁).trans (Reserve.depositReserveLiquidity_moves hr₂ ?_)
  dsimp only
  rw [Function.update_self]
  exact hsupply

theorem redeemReserveCollateral_acts
    (h : w.redeemReserveCollateral clock key amount = .ok w') :
    ActsOnReserve clock.unixTimestamp.toNat S F key w w' := by
  simp only [redeemReserveCollateral, bind_eq_ok, burnCollateral_eq_ok, Prod.exists] at h
  obtain ⟨-, -, r, hr, -, -, r₁, hr₁, r₂, x, hr₂, supply, hsupply, rfl⟩ := h
  refine ⟨⟨r, r₂, hr, rfl, ?_⟩, fun j hj ↦ Function.update_of_ne hj _ _, rfl, rfl, rfl⟩
  refine (Reserve.refreshReserve_moves hr₁).trans
    (Reserve.redeemReserveCollateral_moves rfl hr₂ ?_)
  dsimp only
  rw [Function.update_self]
  exact hsupply

theorem redeemFees_acts (h : w.redeemFees clock key = .ok w') : ActsOnReserve t S F key w w' := by
  simp only [redeemFees, bind_eq_ok, pure_eq_ok, Prod.exists] at h
  obtain ⟨r, hr, r₁, n, hr₁, rfl⟩ := h
  exact ⟨⟨r, r₁, hr, rfl, Reserve.redeemFees_moves hr₁⟩, fun _ _ ↦ rfl, rfl, rfl, rfl⟩

theorem withdrawReferrerFees_acts
    (h : w.withdrawReferrerFees clock key referrer = .ok w') : ActsOnReserve t S F key w w' := by
  simp only [withdrawReferrerFees, bind_eq_ok] at h
  obtain ⟨-, -, r, hr, h⟩ := h
  cases hst : w.referrerTokenStates (referrer, key) with
  | none => simp [hst] at h
  | some st =>
    simp only [hst, bind_eq_ok, pure_eq_ok, Prod.exists] at h
    obtain ⟨st, -, r₁, st₁, n, hr₁, rfl⟩ := h
    exact ⟨⟨r, r₁, hr, rfl, Reserve.withdrawReferrerFees_moves hr₁⟩, fun _ _ ↦ rfl, rfl, rfl,
      rfl⟩

theorem flashBorrowReserveLiquidity_acts
    (h : w.flashBorrowReserveLiquidity clock key amount = .ok w') :
    ActsOnReserve t S F key w w' := by
  simp only [flashBorrowReserveLiquidity, bind_eq_ok, pure_eq_ok] at h
  obtain ⟨-, -, r, hr, -, -, -, -, r₁, hr₁, r₂, hr₂, rfl⟩ := h
  exact ⟨⟨r, r₂, hr, rfl, (Reserve.refreshReserve_moves hr₁).trans
    (Reserve.flashBorrowReserveLiquidity_moves hr₂)⟩, fun _ _ ↦ rfl, rfl, rfl, rfl⟩

theorem flashRepayReserveLiquidity_acts {referrer : Option Pubkey}
    (h : w.flashRepayReserveLiquidity clock key amount referrer = .ok w') :
    ActsOnReserve clock.unixTimestamp.toNat S F key w w' := by
  simp only [flashRepayReserveLiquidity, bind_eq_ok] at h
  obtain ⟨-, -, r, hr, ts, hts, h⟩ := h
  cases referrer with
  | none =>
    simp only [bind_eq_ok, pure_eq_ok, Prod.exists] at h
    obtain ⟨r₁, ost₁, fee₁, fee₂, hr₁, rfl⟩ := h
    exact ⟨⟨r, r₁, hr, rfl, Reserve.flashRepayReserveLiquidity_moves
      (Clock.timestamp_eq_ok hts).symm hr₁⟩, fun _ _ ↦ rfl, rfl, rfl, rfl⟩
  | some ref =>
    simp only [bind_eq_ok, Prod.exists] at h
    obtain ⟨st, -, r₁, ost₁, fee₁, fee₂, hr₁, h⟩ := h
    have hmoves := Reserve.flashRepayReserveLiquidity_moves (S := S) (F := F)
      (c := w.collateralMintSupply key) (Clock.timestamp_eq_ok hts).symm hr₁
    cases ost₁ with
    | none =>
      rw [pure_eq_ok] at h
      subst h
      exact ⟨⟨r, r₁, hr, rfl, hmoves⟩, fun _ _ ↦ rfl, rfl, rfl, rfl⟩
    | some st₁ =>
      rw [pure_eq_ok] at h
      subst h
      exact ⟨⟨r, r₁, hr, rfl, hmoves⟩, fun _ _ ↦ rfl, rfl, rfl, rfl⟩

end Reserves

theorem ActsOnReserve.evolve {key : Pubkey} (h : ActsOnReserve t (S key) (F key) key w w') :
    Evolve t S F w w' := by
  obtain ⟨⟨r, r', hr, hreserves, hmoves⟩, hsupply, -, -, -⟩ := h
  exact .of_store (loadReserve_eq_ok.1 hr).2.1 hmoves.toEvolves hreserves hsupply

section Obligations

variable {index : ℕ} {key : Pubkey} {amount : U64} {remaining : List Pubkey}
  {referrerStates : List ReferrerTokenStateKey}

theorem refreshObligation_evolve
    (h : w.refreshObligation clock index remaining referrerStates = .ok w') :
    Evolve t S F w w' := by
  obtain ⟨o, ds, bs, o', rs, states, -, hrefresh, rfl⟩ := refreshObligation_spec h
  exact .of_reserves (refreshObligation_evolves hrefresh) rfl

theorem requestElevationGroup_evolve {newGroup : U8}
    (h : w.requestElevationGroup clock index newGroup remaining referrerStates = .ok w') :
    Evolve t S F w w' := by
  obtain ⟨o, ds, bs, o', rs, states, -, hrequest, rfl⟩ := requestElevationGroup_spec h
  exact .of_reserves (requestElevationGroup_evolves hrequest) rfl

theorem depositObligationCollateral_evolve
    (h : w.depositObligationCollateral clock index key amount = .ok w') : Evolve t S F w w' := by
  obtain ⟨o, r, r₁, r₂, o₁, -, hr, hr₁, hdeposit, rfl⟩ := depositObligationCollateral_spec h
  refine .of_store (loadReserve_eq_ok.1 hr).2.1
    ((Reserve.refreshReserve_moves hr₁).toEvolves.trans ?_) rfl fun _ _ ↦ rfl
  obtain ⟨-, -, group, total, tier, o₂, i, r₃, d, d₁, -, -, hfind, -, -, -, rfl, -⟩ :=
    Klend.depositObligationCollateral_spec hdeposit
  exact (findOrAddCollateral_evolves hfind _).markStale

theorem withdrawObligationCollateral_evolve
    (h : w.withdrawObligationCollateral clock index key amount = .ok w') : Evolve t S F w w' := by
  obtain ⟨o, r, r₁, o₁, n, -, hr, hwithdraw, rfl⟩ := withdrawObligationCollateral_spec h
  refine .of_store (loadReserve_eq_ok.1 hr).2.1 ?_ rfl fun _ _ ↦ rfl
  obtain ⟨-, -, i, d, o₂, kind, -, -, -, -, hend⟩ :=
    Klend.withdrawObligationCollateral_spec hwithdraw
  split at hend
  · exact updateOnFullWithdraw_evolves hend _
  · rw [Except.ok.injEq] at hend
    exact hend ▸ .refl r _

theorem borrowObligationLiquidity_evolve {state : Option ReferrerTokenStateKey}
    (h : w.borrowObligationLiquidity clock index key amount state remaining = .ok w') :
    Evolve t S F w w' := by
  obtain ⟨o, r, ost, r', o', ost', rs', res, -, hr, hb, hreserves, -, hsupply, -⟩ :=
    borrowObligationLiquidity_spec h
  obtain ⟨hevolves, hrs⟩ := borrowObligationLiquidity_evolves hb
  refine .of_reserves ?_ hsupply
  rw [hreserves]
  exact .store_hold (loadReserve_eq_ok.1 hr).2.1 hrs hevolves

theorem repayObligationLiquidity_evolve
    (h : w.repayObligationLiquidity clock index key amount remaining = .ok w') :
    Evolve t (w.Settles (.repayObligationLiquidity index key amount remaining)) F w w' := by
  obtain ⟨o, r, r', o', rs', n, hload, hload', hrepay, rfl⟩ := repayObligationLiquidity_spec h
  obtain ⟨ho, -⟩ := loadObligation_eq_ok.1 hload
  obtain ⟨-, hr, -⟩ := loadReserve_eq_ok.1 hload'
  obtain ⟨-, -, b, i, b₁, settle, cap, o₁, r₁, l, o₂, hfind, hb₁, hcalc, htrack, hl, rfl, -, -⟩ :=
    Klend.repayObligationLiquidity_spec hrepay
  obtain ⟨⟨outside, hr₁⟩, hrs⟩ := updateOnRepay_evolves (t := t)
    (S := w.Settles (.repayObligationLiquidity index key amount remaining)) (F := F) htrack
  obtain ⟨hslot, hkey⟩ := findLiquidityInBorrows_spec hfind
  obtain ⟨hceil, hdebt, hamount⟩ := calculateRepay_spec hcalc
  refine .of_store_hold hr hrs ?_ rfl fun _ _ ↦ rfl
  have hbefore : Reserve.Evolves t
      (w.Settles (.repayObligationLiquidity index key amount remaining) key) (F key) r
      (w.collateralMintSupply key) r₁ (w.collateralMintSupply key) := by
    rw [hr₁]
    exact .of_books_eq rfl rfl rfl rfl
  refine hbefore.trans (Reserve.repay_moves hl (Fraction.le_toCeil_mul hceil) ?_).markStale.toEvolves
  · refine ⟨rfl, r, b, b₁, ⟨o, ho, List.mem_of_getElem? hslot, hkey, hr, ?_⟩, hb₁, ?_, hdebt⟩
    · rw [hr₁]
      rfl
    · rwa [unit_eq]

theorem socializeLoss_evolve
    (h : w.socializeLoss clock index key amount remaining = .ok w') :
    Evolve t S (w.Forgives (.socializeLoss index key amount remaining)) w w' := by
  obtain ⟨o, r, r', o', rs', f, hload, hload', hloss, rfl⟩ := socializeLoss_spec h
  obtain ⟨ho, -⟩ := loadObligation_eq_ok.1 hload
  obtain ⟨-, hr, -⟩ := loadReserve_eq_ok.1 hload'
  obtain ⟨-, -, -, b, i, supply, n, o₁, r₁, l, o₂, hfind, hf, hsupply, -, htrack, hl, rfl, -, -⟩ :=
    Klend.socializeLoss_spec hloss
  obtain ⟨⟨outside, hr₁⟩, hrs⟩ := updateOnRepay_evolves (t := t) (S := S)
    (F := w.Forgives (.socializeLoss index key amount remaining)) htrack
  obtain ⟨hslot, hkey⟩ := findLiquidityInBorrows_spec hfind
  refine .of_store_hold hr hrs ?_ rfl fun _ _ ↦ rfl
  refine Reserve.Evolves.markStale ?_
  simp only [ReserveLiquidity.forgiveDebt, bind_eq_ok, pure_eq_ok, Fraction.sub_eq_ok] at hl
  obtain ⟨debt, hdebt, rfl⟩ := hl
  obtain ⟨hcov, hequity⟩ :=
    Reserve.books_of_totalSupply (n := w.collateralMintSupply key) hsupply
  have hf' : f.bits = min (amount * unit) b.borrowedAmountSf.bits := by
    rw [hf, Fraction.bits_min, Fraction.bits_fromNum, unit_eq]
  have hforgives : w.Forgives (.socializeLoss index key amount remaining) key
      (r.books (w.collateralMintSupply key)) f.bits :=
    ⟨rfl, r, b, supply, ⟨o, ho, List.mem_of_getElem? hslot, hkey, hr, rfl⟩, hsupply, by omega,
      by omega⟩
  refine .of_effect ?_ ?_ ?_ ?_
  · have heffect := Books.Effect.forgive (t := t) (S := S key)
      (r.books (w.collateralMintSupply key)) _ debt.bits f.bits hcov ?_ hforgives rfl
    · convert heffect using 1
      rw [hr₁, hequity]
      by_cases hle : supply ≤ f
      · rw [if_pos (Fraction.le_iff.1 hle), if_pos hle]
        rfl
      · rw [if_neg (mt Fraction.le_iff.2 hle), if_neg hle]
        rfl
    · rw [hdebt, hr₁]
      split <;> rfl
  all_goals
    rw [hr₁]
    split <;> rfl

theorem liquidate_evolve {withdrawKey : Pubkey} {least : U64} {override : Option U64}
    (h : w.liquidateObligationAndRedeemReserveCollateral clock index key withdrawKey amount least
      override remaining = .ok w') :
    Evolve clock.unixTimestamp.toNat (w.Settles
      (.liquidateObligationAndRedeemReserveCollateral index key withdrawKey amount least override
        remaining)) F w w' := by
  set S := w.Settles (.liquidateObligationAndRedeemReserveCollateral index key withdrawKey amount
    least override remaining) with hS
  obtain ⟨L⟩ := liquidate_spec h
  obtain ⟨-, hrr, -⟩ := loadReserve_eq_ok.1 L.repayReserve_eq
  obtain ⟨⟨outside, hr₁⟩, hrs⟩ := updateOnRepay_evolves (t := clock.unixTimestamp.toNat)
    (S := S) (F := F) L.tracked_eq
  obtain ⟨hslot, hkey⟩ := findLiquidityInBorrows_spec L.liquidity_eq
  obtain ⟨hceil, hdebt, hamount⟩ := calculateLiquidation_settle L.result_eq
  -- the repaid reserve
  have hrepay : Evolve clock.unixTimestamp.toNat S F w { w with
      reserves := L.held.store key (Reserve.markStale
        { L.trackedReserve with liquidity := L.repaid }) } := by
    refine .of_store_hold hrr hrs ?_ rfl fun _ _ ↦ rfl
    have hbefore : Reserve.Evolves clock.unixTimestamp.toNat (S key) (F key) L.repayReserve
        (w.collateralMintSupply key) L.trackedReserve (w.collateralMintSupply key) := by
      rw [hr₁]
      exact .of_books_eq rfl rfl rfl rfl
    refine hbefore.trans
      (Reserve.repay_moves L.repaid_eq (Fraction.le_toCeil_mul hceil) ?_).markStale.toEvolves
    refine ⟨rfl, L.repayReserve, L.liquidity,
      ⟨L.obligation, L.obligation_eq, List.mem_of_getElem? hslot, hkey, hrr, ?_⟩, ?_, hdebt⟩
    · rw [hr₁]
      rfl
    · rwa [unit_eq]
  refine hrepay.trans ?_
  -- the withdrawn reserve
  obtain ⟨-, hloaded⟩ := Reserves.load_eq_ok.1 L.loaded_eq
  have hreleased {c : U64} : Reserve.Evolves clock.unixTimestamp.toNat (S withdrawKey)
      (F withdrawKey) L.loaded c L.released c := by
    refine (Reserve.refreshReserve_moves L.refreshed_eq).toEvolves.trans ?_
    have hend := L.released_eq
    split at hend
    · exact updateOnFullWithdraw_evolves hend _
    · rw [Except.ok.injEq] at hend
      exact hend ▸ .refl _ _
  rcases L.redeemed_eq with ⟨c, x, supply, hredeem, hsupply, hcirc⟩ | ⟨hsame, hcirc⟩
  · refine .of_store hloaded (hreleased.trans
      (Reserve.redeemReserveCollateral_moves rfl hredeem ?_).toEvolves) L.reserves_eq
      fun j hj ↦ ?_
    · dsimp only
      rw [hcirc, Function.update_self]
      exact hsupply
    · rw [hcirc]
      exact Function.update_of_ne hj _ _
  · refine .of_store hloaded ?_ L.reserves_eq fun j _ ↦ congrFun hcirc j
    rw [hsame, hcirc]
    exact hreleased

end Obligations

theorem process_evolve {ix : Instruction} (h : w.process clock ix = .ok w') :
    Evolve clock.unixTimestamp.toNat (w.Settles ix) (w.Forgives ix) w w' := by
  cases ix with
  | refreshReserve => exact (refreshReserve_acts h).evolve
  | depositReserveLiquidity => exact (depositReserveLiquidity_acts h).evolve
  | redeemReserveCollateral => exact (redeemReserveCollateral_acts h).evolve
  | initObligation =>
    simp only [process, initObligation, pure_eq_ok] at h
    exact h ▸ .refl_of_eq rfl rfl
  | initReferrerTokenState =>
    simp only [process, initReferrerTokenState, bind_eq_ok, pure_eq_ok] at h
    obtain ⟨-, -, -, -, rfl⟩ := h
    exact .refl_of_eq rfl rfl
  | refreshObligation => exact refreshObligation_evolve h
  | depositObligationCollateral => exact depositObligationCollateral_evolve h
  | withdrawObligationCollateral => exact withdrawObligationCollateral_evolve h
  | borrowObligationLiquidity => exact borrowObligationLiquidity_evolve h
  | repayObligationLiquidity => exact repayObligationLiquidity_evolve h
  | requestElevationGroup => exact requestElevationGroup_evolve h
  | liquidateObligationAndRedeemReserveCollateral => exact liquidate_evolve h
  | flashBorrowReserveLiquidity => exact (flashBorrowReserveLiquidity_acts h).evolve
  | flashRepayReserveLiquidity => exact (flashRepayReserveLiquidity_acts h).evolve
  | redeemFees => exact (redeemFees_acts h).evolve
  | withdrawReferrerFees => exact (withdrawReferrerFees_acts h).evolve
  | socializeLoss => exact socializeLoss_evolve h
  | markObligationForDeleveraging =>
    simp only [process, markObligationForDeleveraging, bind_eq_ok, pure_eq_ok] at h
    obtain ⟨-, -, -, -, -, -, rfl⟩ := h
    exact .refl_of_eq rfl rfl

end World

end Klend
