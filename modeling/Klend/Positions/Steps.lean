import Klend.Accounting.Refinement

/-! # The obligation an instruction changes

An instruction leaves the obligations alone, adds a new one, or changes the one it
names by a single operation.
-/

namespace Klend

/-- The obligation an instruction may change. -/
def Instruction.namedObligation : Instruction → Option ℕ
  | .refreshObligation index .. => some index
  | .depositObligationCollateral index .. => some index
  | .withdrawObligationCollateral index .. => some index
  | .borrowObligationLiquidity index .. => some index
  | .repayObligationLiquidity index .. => some index
  | .requestElevationGroup index .. => some index
  | .liquidateObligationAndRedeemReserveCollateral index .. => some index
  | .socializeLoss index .. => some index
  | .markObligationForDeleveraging index .. => some index
  | _ => none

namespace World

/-- What an instruction does to the obligation at `index`. -/
inductive ChangesObligation (w w' : World) (clock : Clock) (index : ℕ) :
    Instruction → Obligation → Obligation → Prop
  | refresh {o o' : Obligation} {ds bs remaining : List Pubkey}
      {states : List ReferrerTokenStateKey}
      (hop : Klend.refreshObligation o w.lendingMarket clock.slot .perform w.reserves ds bs
        w.referrerTokenStates states = .ok (o', w'.reserves, w'.referrerTokenStates)) :
      ChangesObligation w w' clock index (.refreshObligation index remaining states) o o'
  | request {o o' : Obligation} {newGroup : U8} {ds bs remaining : List Pubkey}
      {states : List ReferrerTokenStateKey}
      (hop : Klend.requestElevationGroup o w.lendingMarket clock.slot newGroup w.reserves ds bs
        w.referrerTokenStates states = .ok (o', w'.reserves, w'.referrerTokenStates)) :
      ChangesObligation w w' clock index (.requestElevationGroup index newGroup remaining states)
        o o'
  | deposit {o o' : Obligation} {key : Pubkey} {amount : U64} {r r₁ r' : Reserve}
      (hr : w.loadReserve key = .ok r)
      (hr₁ : Klend.refreshReserve r clock none w.lendingMarket.referralFeeBps = .ok r₁)
      (hop : Klend.depositObligationCollateral w.lendingMarket r₁ o clock.slot amount key .perform =
        .ok (r', o'))
      (hreserves : w'.reserves = w.reserves.store key r') :
      ChangesObligation w w' clock index (.depositObligationCollateral index key amount) o o'
  | withdraw {o o' : Obligation} {key : Pubkey} {amount n : U64} {r r' : Reserve}
      (hr : w.loadReserve key = .ok r)
      (hop : Klend.withdrawObligationCollateral w.lendingMarket r o amount clock.slot key .maxLtv =
        .ok (r', o', n))
      (hreserves : w'.reserves = w.reserves.store key r') :
      ChangesObligation w w' clock index (.withdrawObligationCollateral index key amount) o o'
  | borrow {o o' : Obligation} {key : Pubkey} {amount : U64} {r r' : Reserve}
      {state : Option ReferrerTokenStateKey} {ost ost' : Option ReferrerTokenState}
      {rs : Reserves} {res : CalculateBorrowResult} {remaining : List Pubkey}
      (hr : w.loadReserve key = .ok r)
      (hop : Klend.borrowObligationLiquidity w.lendingMarket r o amount clock key ost
        (w.reserves.hold key) remaining = .ok (r', o', ost', rs, res))
      (hreserves : w'.reserves = rs.store key r') :
      ChangesObligation w w' clock index
        (.borrowObligationLiquidity index key amount state remaining) o o'
  | repay {o o' : Obligation} {key : Pubkey} {amount n : U64} {r r' : Reserve} {rs : Reserves}
      {remaining : List Pubkey} (hr : w.loadReserve key = .ok r)
      (hop : Klend.repayObligationLiquidity r o clock amount key w.lendingMarket
        (w.reserves.hold key) remaining = .ok (r', o', rs, n))
      (hreserves : w'.reserves = rs.store key r') :
      ChangesObligation w w' clock index (.repayObligationLiquidity index key amount remaining) o o'
  | socialize {o o' : Obligation} {key : Pubkey} {amount : U64} {r r' : Reserve} {rs : Reserves}
      {f : Fraction} {remaining : List Pubkey} (hr : w.loadReserve key = .ok r)
      (hop : Klend.socializeLoss r key o amount clock.slot (w.reserves.hold key) remaining =
        .ok (r', o', rs, f))
      (hreserves : w'.reserves = rs.store key r') :
      ChangesObligation w w' clock index (.socializeLoss index key amount remaining) o o'
  | liquidate {repayKey withdrawKey : Pubkey} {amount least : U64} {override : Option U64}
      {remaining : List Pubkey}
      (l : Liquidation w w' clock index repayKey withdrawKey amount override remaining) :
      ChangesObligation w w' clock index
        (.liquidateObligationAndRedeemReserveCollateral index repayKey withdrawKey amount least
          override remaining) l.obligation l.withdrawn.updateHasDebt.markStale
  | mark {o o' : Obligation} {pct : U8} {timestamp : U64}
      (hop : Klend.markObligationForDeleveraging w.lendingMarket o pct timestamp = .ok o')
      (hreserves : w'.reserves = w.reserves) :
      ChangesObligation w w' clock index (.markObligationForDeleveraging index pct) o o'

variable {w w' : World} {clock : Clock} {ix : Instruction}

theorem ActsOnReserve.obligations_eq {t : ℕ} {key : Pubkey}
    (h : ActsOnReserve t (fun _ _ ↦ True) (fun _ _ ↦ True) key w w') :
    w'.obligations = w.obligations := h.obligations

theorem process_obligations (h : w.process clock ix = .ok w') :
    (ix.namedObligation = none ∧ w'.obligations = w.obligations) ∨
    (ix.namedObligation = none ∧ w'.reserves = w.reserves ∧ ∃ tag owner referrer, w'.obligations =
      w.obligations ++ [.init tag clock.slot w.lendingMarketPk owner referrer]) ∨
    ∃ index o o', ix.namedObligation = some index ∧ w.obligations[index]? = some o ∧
      w'.obligations = w.obligations.set index o' ∧
      ChangesObligation w w' clock index ix o o' := by
  cases ix with
  | refreshReserve key price => exact .inl ⟨rfl, (refreshReserve_acts h).obligations_eq⟩
  | depositReserveLiquidity key amount =>
    exact .inl ⟨rfl, (depositReserveLiquidity_acts (t := 0) h).obligations_eq⟩
  | redeemReserveCollateral key amount =>
    exact .inl ⟨rfl, (redeemReserveCollateral_acts h).obligations_eq⟩
  | flashBorrowReserveLiquidity key amount =>
    exact .inl ⟨rfl, (flashBorrowReserveLiquidity_acts (t := 0) h).obligations_eq⟩
  | flashRepayReserveLiquidity key amount referrer =>
    exact .inl ⟨rfl, (flashRepayReserveLiquidity_acts h).obligations_eq⟩
  | redeemFees key => exact .inl ⟨rfl, (redeemFees_acts (t := 0) h).obligations_eq⟩
  | withdrawReferrerFees key referrer =>
    exact .inl ⟨rfl, (withdrawReferrerFees_acts (t := 0) h).obligations_eq⟩
  | initReferrerTokenState key referrer =>
    simp only [process, initReferrerTokenState, bind_eq_ok, pure_eq_ok] at h
    obtain ⟨-, -, -, -, rfl⟩ := h
    exact .inl ⟨rfl, rfl⟩
  | initObligation tag owner referrer =>
    simp only [process, initObligation, pure_eq_ok] at h
    subst h
    exact .inr (.inl ⟨rfl, rfl, tag, owner, referrer, rfl⟩)
  | refreshObligation index remaining states =>
    obtain ⟨o, ds, bs, o', rs, st, ho, hop, rfl⟩ := refreshObligation_spec h
    exact .inr (.inr ⟨index, o, o', rfl, (loadObligation_eq_ok.1 ho).1, rfl, .refresh hop⟩)
  | requestElevationGroup index newGroup remaining states =>
    obtain ⟨o, ds, bs, o', rs, st, ho, hop, rfl⟩ := requestElevationGroup_spec h
    exact .inr (.inr ⟨index, o, o', rfl, (loadObligation_eq_ok.1 ho).1, rfl, .request hop⟩)
  | depositObligationCollateral index key amount =>
    obtain ⟨o, r, r₁, r', o', ho, hr, hr₁, hop, rfl⟩ := depositObligationCollateral_spec h
    exact .inr (.inr ⟨index, o, o', rfl, (loadObligation_eq_ok.1 ho).1, rfl,
      .deposit hr hr₁ hop rfl⟩)
  | withdrawObligationCollateral index key amount =>
    obtain ⟨o, r, r', o', n, ho, hr, hop, rfl⟩ := withdrawObligationCollateral_spec h
    exact .inr (.inr ⟨index, o, o', rfl, (loadObligation_eq_ok.1 ho).1, rfl,
      .withdraw hr hop rfl⟩)
  | borrowObligationLiquidity index key amount state remaining =>
    obtain ⟨o, r, ost, r', o', ost', rs, res, ho, hr, hop, hrs, hobl, -⟩ :=
      borrowObligationLiquidity_spec h
    exact .inr (.inr ⟨index, o, o', rfl, (loadObligation_eq_ok.1 ho).1, hobl,
      .borrow hr hop hrs⟩)
  | repayObligationLiquidity index key amount remaining =>
    obtain ⟨o, r, r', o', rs, n, ho, hr, hop, rfl⟩ := repayObligationLiquidity_spec h
    exact .inr (.inr ⟨index, o, o', rfl, (loadObligation_eq_ok.1 ho).1, rfl, .repay hr hop rfl⟩)
  | socializeLoss index key amount remaining =>
    obtain ⟨o, r, r', o', rs, f, ho, hr, hop, rfl⟩ := socializeLoss_spec h
    exact .inr (.inr ⟨index, o, o', rfl, (loadObligation_eq_ok.1 ho).1, rfl,
      .socialize hr hop rfl⟩)
  | liquidateObligationAndRedeemReserveCollateral index repayKey withdrawKey amount least override
      remaining =>
    obtain ⟨l⟩ := liquidate_spec h
    exact .inr (.inr ⟨index, l.obligation, _, rfl, l.obligation_eq, l.obligations_eq,
      .liquidate l⟩)
  | markObligationForDeleveraging index pct =>
    simp only [process, markObligationForDeleveraging, bind_eq_ok, pure_eq_ok] at h
    obtain ⟨o, ho, ts, -, o', hop, rfl⟩ := h
    exact .inr (.inr ⟨index, o, o', rfl, (loadObligation_eq_ok.1 ho).1, rfl, .mark hop rfl⟩)

theorem process_lendingMarket (h : w.process clock ix = .ok w') :
    w'.lendingMarket = w.lendingMarket := by
  have hacts {t : ℕ} {key : Pubkey}
      (hacts : ActsOnReserve t (fun _ _ ↦ True) (fun _ _ ↦ True) key w w') :
      w'.lendingMarket = w.lendingMarket := hacts.lendingMarket
  cases ix with
  | refreshReserve => exact hacts (refreshReserve_acts h)
  | depositReserveLiquidity => exact hacts (t := 0) (depositReserveLiquidity_acts h)
  | redeemReserveCollateral => exact hacts (redeemReserveCollateral_acts h)
  | flashBorrowReserveLiquidity => exact hacts (t := 0) (flashBorrowReserveLiquidity_acts h)
  | flashRepayReserveLiquidity => exact hacts (flashRepayReserveLiquidity_acts h)
  | redeemFees => exact hacts (t := 0) (redeemFees_acts h)
  | withdrawReferrerFees => exact hacts (t := 0) (withdrawReferrerFees_acts h)
  | initReferrerTokenState =>
    simp only [process, initReferrerTokenState, bind_eq_ok, pure_eq_ok] at h
    obtain ⟨-, -, -, -, rfl⟩ := h
    rfl
  | initObligation =>
    simp only [process, initObligation, pure_eq_ok] at h
    subst h
    rfl
  | refreshObligation =>
    obtain ⟨_, _, _, _, _, _, -, -, rfl⟩ := refreshObligation_spec h
    rfl
  | requestElevationGroup =>
    obtain ⟨_, _, _, _, _, _, -, -, rfl⟩ := requestElevationGroup_spec h
    rfl
  | depositObligationCollateral =>
    obtain ⟨_, _, _, _, _, -, -, -, -, rfl⟩ := depositObligationCollateral_spec h
    rfl
  | withdrawObligationCollateral =>
    obtain ⟨_, _, _, _, _, -, -, -, rfl⟩ := withdrawObligationCollateral_spec h
    rfl
  | borrowObligationLiquidity =>
    obtain ⟨_, _, _, _, _, _, _, _, -, -, -, -, -, -, hmarket, -⟩ :=
      borrowObligationLiquidity_spec h
    exact hmarket
  | repayObligationLiquidity =>
    obtain ⟨_, _, _, _, _, _, -, -, -, rfl⟩ := repayObligationLiquidity_spec h
    rfl
  | socializeLoss =>
    obtain ⟨_, _, _, _, _, _, -, -, -, rfl⟩ := socializeLoss_spec h
    rfl
  | liquidateObligationAndRedeemReserveCollateral =>
    obtain ⟨l⟩ := liquidate_spec h
    exact l.lendingMarket_eq
  | markObligationForDeleveraging =>
    simp only [process, markObligationForDeleveraging, bind_eq_ok, pure_eq_ok] at h
    obtain ⟨_, -, _, -, _, -, rfl⟩ := h
    rfl

/-- A property of obligations that new ones have, that the change of one obligation keeps, and that
the rest keep while the market around them moves, holds of all of them after the instruction. -/
theorem process_forall {P : World → Obligation → Prop} (h : w.process clock ix = .ok w')
    (hnew : ∀ tag owner referrer, P w' (.init tag clock.slot w.lendingMarketPk owner referrer))
    (hchange : ∀ index o o', ChangesObligation w w' clock index ix o o' → o ∈ w.obligations →
      P w o → P w' o')
    (hkeep : ∀ o ∈ w.obligations, P w o → P w' o) (hP : ∀ o ∈ w.obligations, P w o) :
    ∀ o ∈ w'.obligations, P w' o := by
  intro o ho
  obtain ⟨-, heq⟩ | ⟨-, -, tag, owner, referrer, heq⟩ | ⟨index, o₁, o', -, ho₁, heq, hch⟩ :=
    process_obligations h
  · rw [heq] at ho
    exact hkeep o ho (hP o ho)
  · rw [heq, List.mem_append, List.mem_singleton] at ho
    obtain ho | rfl := ho
    · exact hkeep o ho (hP o ho)
    · exact hnew tag owner referrer
  · rw [heq] at ho
    obtain ho | rfl := List.mem_or_eq_of_mem_set ho
    · exact hkeep o ho (hP o ho)
    · have hmem := List.mem_of_getElem? ho₁
      exact hchange index o₁ o hch hmem (hP o₁ hmem)

end World

end Klend
