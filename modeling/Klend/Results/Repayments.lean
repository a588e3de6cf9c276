import Klend.Accounting.ReserveOperations
import Klend.Lending.RefreshReplay
import Klend.Lending.Runs

/-! # Repayments

What a repayment takes from the obligation's slot and from the reserve, and when the test
after a repayment goes through.
-/

namespace Klend

variable {r r' : Reserve} {o o' : Obligation} {clock : Clock} {amount n : U64} {key : Pubkey}
  {market : LendingMarket} {rs rs' : Reserves} {iter : List Pubkey} {b : ObligationLiquidity}
  {i : ℕ} {settle : Fraction}

/-- The settled debt leaves the slot, which is cleared exactly if nothing is left of it. -/
structure Obligation.SlotRepaid (o o' : Obligation) (b : ObligationLiquidity) (i : ℕ)
    (settle : Fraction) : Prop where
  cleared : settle = b.borrowedAmountSf → o'.borrows[i]? = some default ∧
    o'.borrowsAssetTiers = o.borrowsAssetTiers.set i (Word.max 8)
  kept : settle ≠ b.borrowedAmountSf → o'.borrowsAssetTiers = o.borrowsAssetTiers ∧
    ∃ b', o'.borrows[i]? = some b' ∧ b'.borrowReserve = b.borrowReserve ∧
      0 < b'.borrowedAmountSf.bits ∧
      b'.borrowedAmountSf.bits + settle.bits = b.borrowedAmountSf.bits
  others : ∀ j, j ≠ i →
    (o'.borrows[j]?).map (·.borrowedAmountSf) = (o.borrows[j]?).map (·.borrowedAmountSf)
  hasDebt : o'.hasDebt = if o'.borrowsEmpty then 0 else 1

theorem calculateRepay_bounds {debt : Fraction}
    (h : Reserve.calculateRepay amount debt = .ok ⟨settle, n⟩) :
    settle ≤ debt ∧ settle ≤ Fraction.fromNum n ∧
      (n : ℕ) * 2 ^ 60 < settle.bits + 2 ^ 60 ∧ n ≤ amount := by
  obtain ⟨hceil, hdebt, hamount⟩ := calculateRepay_spec h
  refine ⟨hdebt, ?_⟩
  clear h hdebt
  have hle : settle.bits ≤ n * 2 ^ 60 := unit_eq ▸ Fraction.le_toCeil_mul hceil
  rw [Fraction.toCeil_eq_ok] at hceil
  have hn : (n : ℕ) ≤ amount := by omega
  exact ⟨hle, by omega, hn⟩

/-- A repayment at the debt's own rate. -/
theorem repayObligationLiquidity_accounts
    (h : repayObligationLiquidity r o clock amount key market rs iter = .ok (r', o', rs', n))
    (hrate : ∀ b i, o.findLiquidityInBorrows key = .ok (b, i) →
      b.cumulativeBorrowRateBsf = r.liquidity.cumulativeBorrowRateBsf) :
    ∃ b i settle, o.findLiquidityInBorrows key = .ok (b, i) ∧
      Reserve.calculateRepay amount b.borrowedAmountSf = .ok ⟨settle, n⟩ ∧
      settle ≤ b.borrowedAmountSf ∧ settle ≤ Fraction.fromNum n ∧
      (n : ℕ) * 2 ^ 60 < settle.bits + 2 ^ 60 ∧ n ≤ amount ∧
      o.SlotRepaid o' b i settle ∧
      r'.liquidity.borrowedAmountSf.bits + min settle.bits r.liquidity.borrowedAmountSf.bits =
        r.liquidity.borrowedAmountSf.bits ∧
      (r'.liquidity.availableAmount : ℕ) = r.liquidity.availableAmount + n := by
  obtain ⟨-, -, b, i, b₁, settle, cap, o₁, r₁, l, o₂, hfind, hb₁, hcalc, htrack, hl, rfl, hrepay,
    rfl⟩ := repayObligationLiquidity_spec h
  rw [accrueInterest_replay (hrate b i hfind)] at hb₁
  obtain rfl := Except.ok.inj hb₁
  obtain ⟨hdebt, hceil, hlt, hamount⟩ := calculateRepay_bounds hcalc
  obtain ⟨htracked, ⟨_, _, rfl⟩, -⟩ := updateOnRepay_retracked htrack
  obtain ⟨available, borrowed, rfl, havailable, hborrowed⟩ := Reserve.liquidity_repay_spec hl
  have hb := (findLiquidityInBorrows_spec hfind).1
  have hslots : o.borrows.set i b = o.borrows := by
    obtain ⟨hi, rfl⟩ := List.getElem?_eq_some_iff.1 hb
    exact List.set_getElem_self hi
  rw [hslots] at htracked
  obtain ⟨b₂, hb₂, m, rfl⟩ := SlotTable.exists_of_forall₂_left htracked.borrows hb
  have hi := (List.getElem?_eq_some_iff.1 hb₂).1
  have htiers : o₁.borrowsAssetTiers = o.borrowsAssetTiers := by rw [htracked.frame]
  have hothers : ∀ (x : ObligationLiquidity) (j : ℕ), j ≠ i →
      ((o₁.borrows.set i x)[j]?).map (·.borrowedAmountSf) =
        (o.borrows[j]?).map (·.borrowedAmountSf) := by
    intro x j hj
    rw [List.getElem?_set_ne (Ne.symm hj)]
    cases hj : o.borrows[j]? with
    | none =>
      have hlen := htracked.borrows.length_eq
      rw [List.getElem?_eq_none_iff] at hj
      rw [List.getElem?_eq_none (hlen ▸ hj)]
    | some d =>
      obtain ⟨d', hd', _, rfl⟩ := SlotTable.exists_of_forall₂_left htracked.borrows hj
      rw [hd']
      rfl
  refine ⟨b, i, settle, hfind, hcalc, hdebt, hceil, hlt, hamount, ?_, ?_, havailable⟩
  · obtain ⟨b₃, hb₃, ⟨hfull, rfl⟩ | ⟨rest, hpos, hrest, rfl⟩⟩ := repay_spec hrepay
    · obtain rfl := Option.some.inj (hb₂.symm.trans hb₃)
      exact {
        cleared _ := ⟨List.getElem?_set_self hi, congrArg (List.set · i (Word.max 8)) htiers⟩
        kept hne := absurd hfull hne
        others := hothers default
        hasDebt := rfl }
    · obtain rfl := Option.some.inj (hb₂.symm.trans hb₃)
      exact {
        cleared hfull := by
          rw [hfull] at hrest
          change rest.bits + b.borrowedAmountSf.bits = b.borrowedAmountSf.bits at hrest
          omega
        kept _ := ⟨htiers, _, List.getElem?_set_self hi, rfl, hpos, hrest⟩
        others := hothers _
        hasDebt := rfl }
  · show borrowed.bits + _ = _
    rw [hborrowed]
    show r.liquidity.borrowedAmountSf.bits - settle.bits + _ = _
    omega

/-- A part of the loan is repaid. -/
theorem repayObligationLiquidity_underwaterLoan : ∃ r o r' o' rs' n,
    World.underwaterLoan.loadReserve 5 = .ok r ∧ World.underwaterLoan.loadObligation 0 = .ok o ∧
    repayObligationLiquidity r o ⟨3, 10⟩ 1000 5 World.underwaterLoan.lendingMarket
      (World.underwaterLoan.reserves.hold 5) [6] = .ok (r', o', rs', n) ∧
    (r'.liquidity.availableAmount : ℕ) = r.liquidity.availableAmount + n := by
  rcases exists_eq_ok (x := World.underwaterLoan.loadReserve 5)
    (p := fun r ↦ (World.underwaterLoan.loadObligation 0).toOption.any fun o ↦
      (o.findLiquidityInBorrows 5).toOption.any (fun p ↦
        decide (p.1.cumulativeBorrowRateBsf = r.liquidity.cumulativeBorrowRateBsf)) &&
      (repayObligationLiquidity r o ⟨3, 10⟩ 1000 5 World.underwaterLoan.lendingMarket
        (World.underwaterLoan.reserves.hold 5) [6]).toOption.any fun _ ↦ true) (by decide)
    with ⟨r, hr, hloan⟩
  rcases exists_eq_ok hloan with ⟨o, ho, hboth⟩
  obtain ⟨hrate, hrepay⟩ := (Bool.and_eq_true _ _).mp hboth
  rcases exists_eq_ok hrate with ⟨⟨b, i⟩, hfind, hrate⟩
  rcases exists_eq_ok hrepay with ⟨⟨r', o', rs', n⟩, hrepay, -⟩
  obtain ⟨_, _, _, -, -, -, -, -, -, -, -, havailable⟩ :=
    repayObligationLiquidity_accounts hrepay fun b' i' hfind' ↦ by
      obtain ⟨rfl, rfl⟩ := Prod.mk.inj (Except.ok.inj (hfind.symm.trans hfind'))
      exact of_decide_eq_true hrate
  exact ⟨r, o, r', o', rs', n, hr, ho, hrepay, havailable⟩

end Klend
