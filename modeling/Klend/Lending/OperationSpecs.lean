import Klend.Lending.Instructions

/-! # What the operations do

One lemma for each operation on an obligation: what it required, and the states it
went through. Later proofs use these lemmas in place of the definitions.
-/

namespace Klend

section Loops

variable {σ S : Type} {occupied : σ → Bool} {body : ℕ → S → σ → Pubkey → Result (S × σ)}
  {i : ℕ} {s s' : S} {x : σ} {xs ys : List σ} {ks : List Pubkey}

theorem forOccupied_nil_eq_ok :
    forOccupied occupied body i s [] ks = .ok (s', ys) ↔ s' = s ∧ ys = [] := by
  rw [forOccupied, pure_eq_ok, Prod.mk.injEq]
  exact and_congr eq_comm eq_comm

theorem forOccupied_cons_eq_ok :
    forOccupied occupied body i s (x :: xs) ks = .ok (s', ys) ↔
      (occupied x = true ∧ ∃ k ks₁ s₁ x₁ xs₁, ks = k :: ks₁ ∧ body i s x k = .ok (s₁, x₁) ∧
        forOccupied occupied body (i + 1) s₁ xs ks₁ = .ok (s', xs₁) ∧ ys = x₁ :: xs₁) ∨
      (occupied x = false ∧ ∃ xs₁,
        forOccupied occupied body (i + 1) s xs ks = .ok (s', xs₁) ∧ ys = x :: xs₁) := by
  cases hx : occupied x
  · simp only [forOccupied, hx, Bool.false_eq_true, if_false, bind_eq_ok, pure_eq_ok,
      Prod.exists, Prod.mk.injEq, false_and, true_and, false_or]
    constructor
    · rintro ⟨s₁, xs₁, h, rfl, rfl⟩
      exact ⟨xs₁, h, rfl⟩
    · rintro ⟨xs₁, h, rfl⟩
      exact ⟨s', xs₁, h, rfl, rfl⟩
  · cases ks with
    | nil => simp [forOccupied, hx]
    | cons k ks₁ =>
      simp only [forOccupied, hx, if_true, bind_eq_ok, pure_eq_ok, Prod.exists, Prod.mk.injEq,
        true_and, false_and, or_false, Bool.true_eq_false]
      constructor
      · rintro ⟨s₁, x₁, hb, s₂, xs₁, hl, rfl, rfl⟩
        exact ⟨k, ks₁, s₁, x₁, xs₁, rfl, hb, hl, rfl⟩
      · rintro ⟨k', ks', s₁, x₁, xs₁, h, hb, hl, rfl⟩
        obtain ⟨rfl, rfl⟩ := List.cons.inj h
        exact ⟨s₁, x₁, hb, s', xs₁, hl, rfl, rfl⟩

/-- What holds of the slots passed so far and of the state holds of all slots at the end. -/
theorem forOccupied_induct {P : List σ → S → Prop} (hs : P [] s)
    (hfree : ∀ l s x, xs[l.length]? = some x → occupied x = false → P l s → P (l ++ [x]) s)
    (hbody : ∀ l s x k s' x', xs[l.length]? = some x → occupied x = true →
      body (i + l.length) s x k = .ok (s', x') → P l s → P (l ++ [x']) s')
    (h : forOccupied occupied body i s xs ks = .ok (s', ys)) : P ys s' := by
  induction xs generalizing i s ks ys P with
  | nil =>
    obtain ⟨rfl, rfl⟩ := forOccupied_nil_eq_ok.1 h
    exact hs
  | cons x xs ih =>
    -- the rest of the loop is run with the first slot in front of what it passes
    have hrest : ∀ {s₁ x₁ ks₁ xs₁}, P [x₁] s₁ →
        forOccupied occupied body (i + 1) s₁ xs ks₁ = .ok (s', xs₁) → P (x₁ :: xs₁) s' := by
      intro s₁ x₁ ks₁ xs₁ hP hl
      refine ih (P := fun l ↦ P (x₁ :: l)) hP (fun l s x₂ hx₂ hocc hl ↦ ?_)
        (fun l s x₂ k s' x' hx₂ hocc hb hl ↦ ?_) hl
      · exact hfree (x₁ :: l) s x₂ hx₂ hocc hl
      · refine hbody (x₁ :: l) s x₂ k s' x' hx₂ hocc ?_ hl
        rwa [List.length_cons, Nat.add_comm l.length, ← Nat.add_assoc]
    rcases forOccupied_cons_eq_ok.1 h with ⟨hx, k, ks₁, s₁, x₁, xs₁, -, hb, hl, rfl⟩ |
      ⟨hx, xs₁, hl, rfl⟩
    · exact hrest (hbody [] s x k s₁ x₁ rfl hx hb hs) hl
    · exact hrest (hfree [] s x rfl hx hs) hl

theorem forOccupied_invariant {P : S → Prop} {Q : σ → σ → Prop}
    (hfree : ∀ x ∈ xs, occupied x = false → Q x x)
    (hbody : ∀ j s x k s' x', xs[j]? = some x → occupied x = true → P s →
      body (i + j) s x k = .ok (s', x') → P s' ∧ Q x x') (hs : P s)
    (h : forOccupied occupied body i s xs ks = .ok (s', ys)) : P s' ∧ List.Forall₂ Q xs ys := by
  induction xs generalizing i s ks ys with
  | nil =>
    obtain ⟨rfl, rfl⟩ := forOccupied_nil_eq_ok.1 h
    exact ⟨hs, .nil⟩
  | cons x xs ih =>
    have htail : ∀ j s x₁ k s' x', xs[j]? = some x₁ → occupied x₁ = true → P s →
        body (i + 1 + j) s x₁ k = .ok (s', x') → P s' ∧ Q x₁ x' := by
      intro j s x₁ k s' x' hx₁ hocc hP hb
      exact hbody (j + 1) s x₁ k s' x' hx₁ hocc hP (by rwa [Nat.add_right_comm] at hb)
    have hfree' : ∀ x ∈ xs, occupied x = false → Q x x := fun x hx ↦ hfree x (.tail _ hx)
    rcases forOccupied_cons_eq_ok.1 h with ⟨hx, k, ks₁, s₁, x₁, xs₁, -, hb, hl, rfl⟩ |
      ⟨hx, xs₁, hl, rfl⟩
    · obtain ⟨hP, hQ⟩ := hbody 0 s x k s₁ x₁ rfl hx hs hb
      obtain ⟨hP', hrest⟩ := ih hfree' htail hP hl
      exact ⟨hP', .cons hQ hrest⟩
    · obtain ⟨hP', hrest⟩ := ih hfree' htail hs hl
      exact ⟨hP', .cons (hfree x List.mem_cons_self hx) hrest⟩

theorem forOccupied_relates {R : S → S → Prop} (hrefl : ∀ s, R s s)
    (htrans : ∀ {a b c}, R a b → R b c → R a c)
    (hbody : ∀ i s x k s' x', occupied x = true → body i s x k = .ok (s', x') → R s s')
    (h : forOccupied occupied body i s xs ks = .ok (s', ys)) : R s s' :=
  (forOccupied_invariant (Q := fun _ _ ↦ True) (fun _ _ _ ↦ trivial)
    (fun _ s₁ x k s₂ x' _ hocc hP hb ↦ ⟨htrans hP (hbody _ s₁ x k s₂ x' hocc hb), trivial⟩)
    (hrefl s) h).1

theorem forOccupied_forall₂ {Q : σ → σ → Prop} (hrefl : ∀ x, occupied x = false → Q x x)
    (hbody : ∀ i s x k s' x', occupied x = true → body i s x k = .ok (s', x') → Q x x')
    (h : forOccupied occupied body i s xs ks = .ok (s', ys)) : List.Forall₂ Q xs ys :=
  (forOccupied_invariant (P := fun _ ↦ True) (fun x _ ↦ hrefl x)
    (fun _ s₁ x k s₂ x' _ hocc _ hb ↦ ⟨trivial, hbody _ s₁ x k s₂ x' hocc hb⟩) trivial h).2

theorem forOccupiedExact_eq_ok :
    forOccupiedExact occupied body s xs ks = .ok (s', ys) ↔
      forOccupied occupied body 0 s xs ks = .ok (s', ys) ∧ ks.length = xs.countP occupied := by
  simp only [forOccupiedExact, bind_eq_ok, require_eq_ok, pure_eq_ok, Prod.exists, Prod.mk.injEq]
  constructor
  · rintro ⟨s₁, xs₁, h, -, hlen, rfl, rfl⟩
    exact ⟨h, hlen⟩
  · rintro ⟨h, hlen⟩
    exact ⟨s', ys, h, (), hlen, rfl, rfl⟩

end Loops

section Slots

variable {o : Obligation} {key : Pubkey} {i : ℕ} {b : ObligationLiquidity}

theorem findLiquidityInBorrows_spec (h : o.findLiquidityInBorrows key = .ok (b, i)) :
    o.borrows[i]? = some b ∧ b.borrowReserve = key := by
  simp only [Obligation.findLiquidityInBorrows, Obligation.findLiquidityIndexInBorrows, bind_eq_ok,
    require_eq_ok, okOr_eq_ok, unwrap_eq_ok, pure_eq_ok, Prod.mk.injEq] at h
  obtain ⟨-, -, j, hj, b', hb', rfl, rfl⟩ := h
  obtain ⟨hlt, hp, -⟩ := List.findIdx?_eq_some_iff_getElem.1 hj
  rw [List.getElem?_eq_getElem hlt, Option.some.injEq] at hb'
  exact ⟨by rw [List.getElem?_eq_getElem hlt, hb'], by simpa [hb'] using hp⟩

theorem positionOfCollateral_spec (h : o.positionOfCollateralInDeposits key = .ok i) :
    ∃ d, o.deposits[i]? = some d ∧ d.depositReserve = key := by
  simp only [Obligation.positionOfCollateralInDeposits, bind_eq_ok, require_eq_ok,
    okOr_eq_ok] at h
  obtain ⟨-, -, hj⟩ := h
  obtain ⟨hlt, hp, -⟩ := List.findIdx?_eq_some_iff_getElem.1 hj
  exact ⟨_, List.getElem?_eq_getElem hlt, by simpa using hp⟩

theorem calculateRepay_spec {amount n : U64} {debt settle : Fraction}
    (h : Reserve.calculateRepay amount debt = .ok ⟨settle, n⟩) :
    settle.toCeil = .ok n ∧ settle.bits ≤ debt.bits ∧ settle.bits ≤ amount * 2 ^ 60 := by
  simp only [Reserve.calculateRepay, bind_eq_ok, pure_eq_ok,
    CalculateRepayResult.mk.injEq] at h
  obtain ⟨n', hn, rfl, rfl⟩ := h
  refine ⟨hn, ?_⟩
  split at hn
  · next hmax =>
    rw [Fraction.toCeil_eq_ok] at hn
    have : (amount : ℕ) = 2 ^ 64 - 1 := by rw [hmax]; rfl
    rw [if_pos hmax]
    omega
  · next hmax =>
    rw [if_neg hmax]
    simp only [Fraction.bits_min, Fraction.bits_fromNum]
    omega

end Slots

/-- A borrow behind the update of its reserve. -/
def bookBorrow (lendingMarket : LendingMarket) (borrowReserve : Reserve) (obligation : Obligation)
    (borrowReservePk : Pubkey) (referrerTokenState : Option ReferrerTokenState)
    (reserves : Reserves) (depositReservesIter : List Pubkey) (result : CalculateBorrowResult)
    (borrowAmount : U64) :
    Result (Reserve × Obligation × Option ReferrerTokenState × Reserves ×
      CalculateBorrowResult) := do
  let assetTier ← borrowReserve.config.getAssetTier
  let (obligation, borrowIndex) ← obligation.findOrAddLiquidityToBorrows borrowReservePk
    borrowReserve.liquidity.cumulativeBorrowRateBsf assetTier
  let slotLiquidity ← unwrap obligation.borrows[borrowIndex]?
  let slotLiquidity ← slotLiquidity.borrow result.borrowAmountF
  let obligation := { obligation with borrows := obligation.borrows.set borrowIndex slotLiquidity }
  let (borrowReserve, referrerTokenState) ← creditReferrer lendingMarket borrowReserve
    referrerTokenState result.referrerFee
  let obligation := { obligation with hasDebt := 1 }.markStale
  let newUtilizationRate ← borrowReserve.liquidity.utilizationRate
  let utilizationLimit := borrowReserve.config.utilizationLimitBlockBorrowingAbovePct
  require (¬ (Fraction.fromPercent utilizationLimit.widen ≤ newUtilizationRate ∧
    utilizationLimit ≠ 0)) .borrowingAboveUtilizationRateDisabled
  validateObligationAssetTiers obligation
  let elevationGroup ← lendingMarket.getElevationGroup obligation.elevationGroup
  let (obligation, borrowReserve, reserves) ← updateElevationGroupDebtTrackersOnBorrow
    borrowAmount obligation borrowIndex elevationGroup borrowReservePk borrowReserve reserves
    depositReservesIter
  let slotLiquidity ← unwrap obligation.borrows[borrowIndex]?
  postBorrowObligationInvariants result.borrowAmountF obligation borrowReserve
    slotLiquidity.marketValueSf lendingMarket.minNetValueInObligationSf
  pure (borrowReserve, obligation, referrerTokenState, reserves, result)

theorem borrowObligationLiquidity_eq (lendingMarket : LendingMarket) (borrowReserve : Reserve)
    (obligation : Obligation) (liquidityAmount : U64) (clock : Clock) (borrowReservePk : Pubkey)
    (referrerTokenState : Option ReferrerTokenState) (reserves : Reserves)
    (depositReservesIter : List Pubkey) :
    borrowObligationLiquidity lendingMarket borrowReserve obligation liquidityAmount clock
        borrowReservePk referrerTokenState reserves depositReservesIter = (do
      require (liquidityAmount ≠ 0) .invalidAmount
      borrowReserve.lastUpdate.requireFresh clock.slot .allChecks .reserveStale
      require (lendingMarket.isBorrowingDisabled = false) .borrowingDisabled
      obligation.checkNotMarkedForDeleveraging
      let _ ← borrowReserve.liquidity.utilizationRate
      let reserveLiquidityBorrowedF := borrowReserve.liquidity.totalBorrow
      let borrowLimitF := Fraction.fromNum borrowReserve.config.borrowLimit
      let newBorrowedAmountF ← (Fraction.fromNum liquidityAmount).add reserveLiquidityBorrowedF
      require (¬ (liquidityAmount ≠ Word.max 64 ∧ borrowLimitF < newBorrowedAmountF))
        .borrowLimitExceeded
      checkObligationFullyRefreshedAndNotNull obligation clock.slot
      let remainingBorrowValue := obligation.remainingBorrowValue
      require (remainingBorrowValue ≠ Fraction.zero) .borrowTooLarge
      checkSameElevationGroup obligation borrowReserve
      checkElevationGroupBorrowingEnabled lendingMarket obligation
      checkNonElevationGroupBorrowingEnabled obligation
      let remainingReserveCapacity := borrowLimitF.saturatingSub reserveLiquidityBorrowedF
      require (remainingReserveCapacity ≠ Fraction.zero) .borrowLimitExceeded
      let result ← borrowReserve.calculateBorrow liquidityAmount remainingBorrowValue
        remainingReserveCapacity lendingMarket.referralFeeBps
        (obligation.elevationGroup ≠ elevationGroupNone) referrerTokenState.isSome
      let borrowAmount ← result.borrowAmountF.toCeil
      let timestamp ← clock.timestamp
      let debtWithdrawalCap ←
        borrowReserve.config.debtWithdrawalCap.addToWithdrawalAccum borrowAmount timestamp
      require (result.receiveAmount ≠ 0) .borrowTooSmall
      let liquidity ← borrowReserve.liquidity.borrow result.borrowAmountF
      bookBorrow lendingMarket { borrowReserve with
        liquidity, config := { borrowReserve.config with debtWithdrawalCap } }.markStale obligation
        borrowReservePk referrerTokenState reserves depositReservesIter result borrowAmount) := rfl

section Operations

variable {market : LendingMarket} {r r' : Reserve} {o o' : Obligation} {amount slot : U64}
  {clock : Clock} {key : Pubkey} {ost ost' : Option ReferrerTokenState} {rs rs' : Reserves}
  {iter iter' : List Pubkey}

theorem creditReferrer_of_not {n : U64} (hnot : ¬ (ost.isSome ∧ 0 < market.referralFeeBps))
    (h : creditReferrer market r ost n = .ok (r', ost')) : r' = r ∧ ost' = ost := by
  unfold creditReferrer at h
  cases ost with
  | none =>
    simp only [pure_eq_ok, Prod.mk.injEq] at h
    exact ⟨h.1.symm, h.2.symm⟩
  | some st =>
    dsimp only at h
    rw [if_neg fun hbps ↦ hnot ⟨rfl, hbps⟩, pure_eq_ok, Prod.mk.injEq] at h
    exact ⟨h.1.symm, h.2.symm⟩

theorem creditReferrer_credits {n : U64} (hstate : ost.isSome) (hbps : 0 < market.referralFeeBps)
    (h : creditReferrer market r ost n = .ok (r', ost')) :
    ∃ (st : ReferrerTokenState) (cumulative unclaimed accumulated : Fraction) (available : U64),
      ost = some st ∧
      ost' = some { st with amountCumulativeSf := cumulative, amountUnclaimedSf := unclaimed } ∧
      r' = { r with liquidity := { r.liquidity with
        availableAmount := available, accumulatedReferrerFeesSf := accumulated } } ∧
      cumulative.bits = st.amountCumulativeSf.bits + n * 2 ^ 60 ∧
      unclaimed.bits = st.amountUnclaimedSf.bits + n * 2 ^ 60 ∧
      accumulated.bits = r.liquidity.accumulatedReferrerFeesSf.bits + n * 2 ^ 60 ∧
      (available : ℕ) = r.liquidity.availableAmount + n := by
  obtain ⟨st, rfl⟩ := Option.isSome_iff_exists.1 hstate
  simp only [creditReferrer, if_pos hbps, addReferrerFee, Reserve.addAvailable, bind_eq_ok,
    pure_eq_ok, Fraction.add_eq_ok, Word.add_eq_ok, Prod.exists, Prod.mk.injEq,
    Fraction.bits_fromNum] at h
  obtain ⟨-, -, ⟨c, hc, u, hu, p, hp, rfl, rfl⟩, -, ⟨a, ha, rfl⟩, rfl, rfl⟩ := h
  exact ⟨st, c, u, p, a, rfl, rfl, rfl, hc, hu, hp, ha⟩

theorem creditReferrer_spec {n : U64} (h : creditReferrer market r ost n = .ok (r', ost')) :
    (r' = r ∧ ost' = ost) ∨
    ∃ (st : ReferrerTokenState) (cumulative unclaimed accumulated : Fraction) (available : U64),
      ost = some st ∧
      ost' = some { st with amountCumulativeSf := cumulative, amountUnclaimedSf := unclaimed } ∧
      r' = { r with liquidity := { r.liquidity with
        availableAmount := available, accumulatedReferrerFeesSf := accumulated } } ∧
      cumulative.bits = st.amountCumulativeSf.bits + n * 2 ^ 60 ∧
      unclaimed.bits = st.amountUnclaimedSf.bits + n * 2 ^ 60 ∧
      accumulated.bits = r.liquidity.accumulatedReferrerFeesSf.bits + n * 2 ^ 60 ∧
      (available : ℕ) = r.liquidity.availableAmount + n := by
  by_cases hcredit : ost.isSome ∧ 0 < market.referralFeeBps
  · exact .inr (creditReferrer_credits hcredit.1 hcredit.2 h)
  · exact .inl (creditReferrer_of_not hcredit h)

/-- A referral fee moves out of the pending fees, to the referrer of the next account or to the
protocol. -/
theorem accumulateReferrerFees_spec {ref : Pubkey} {bps : U16} {slots : U64}
    {debt prev : Fraction} {hasRef : Bool} {states states' : ReferrerTokenStates}
    {it it' : List ReferrerTokenStateKey}
    (h : accumulateReferrerFees key r ref bps slots debt prev hasRef states it =
      .ok (r', states', it')) :
    (r' = r ∧ states' = states ∧ it' = it) ∨
    ∃ fee pending : Fraction,
      pending.bits + fee.bits = r.liquidity.pendingReferrerFeesSf.bits ∧
      ((∃ (k : ReferrerTokenStateKey) (st : ReferrerTokenState)
          (cumulative unclaimed accumulated : Fraction),
        it = k :: it' ∧ states k = some st ∧
        validateReferrerTokenState st k r.liquidity.mintPubkey ref key = .ok () ∧
        cumulative.bits = st.amountCumulativeSf.bits + fee.bits ∧
        unclaimed.bits = st.amountUnclaimedSf.bits + fee.bits ∧
        accumulated.bits = r.liquidity.accumulatedReferrerFeesSf.bits + fee.bits ∧
        states' = Function.update states k (some { st with
          amountCumulativeSf := cumulative, amountUnclaimedSf := unclaimed }) ∧
        r' = { r with liquidity := { r.liquidity with
          pendingReferrerFeesSf := pending, accumulatedReferrerFeesSf := accumulated } }) ∨
      (∃ accumulated : Fraction,
        accumulated.bits = r.liquidity.accumulatedProtocolFeesSf.bits + fee.bits ∧
        states' = states ∧ it' = it ∧
        r' = { r with liquidity := { r.liquidity with
          pendingReferrerFeesSf := pending, accumulatedProtocolFeesSf := accumulated } })) := by
  unfold accumulateReferrerFees at h
  dsimp only at h
  split at h
  · simp only [pure_eq_ok, Prod.mk.injEq] at h
    exact .inl ⟨h.1.symm, h.2.1.symm, h.2.2.symm⟩
  · simp only [bind_eq_ok, Fraction.sub_eq_ok] at h
    obtain ⟨-, -, -, -, -, -, -, -, -, -, -, -, fee, -, pending, hpending, h⟩ := h
    refine .inr ⟨_, pending, hpending, ?_⟩
    split at h
    · cases it with
      | nil => simp at h
      | cons k rest =>
        simp only [addReferrerFee, bind_eq_ok, pure_eq_ok, unwrap_eq_ok, Fraction.add_eq_ok,
          Prod.exists, Prod.mk.injEq] at h
        obtain ⟨st, hst, u, hvalid, -, -, ⟨c, hc, n, hn, p, hp, rfl, rfl⟩, rfl, rfl, rfl⟩ := h
        exact .inl ⟨k, st, c, n, p, rfl, hst, hvalid, hc, hn, hp, rfl, rfl⟩
    · simp only [bind_eq_ok, pure_eq_ok, Fraction.add_eq_ok, Prod.mk.injEq] at h
      obtain ⟨p, hp, rfl, rfl, rfl⟩ := h
      exact .inr ⟨p, hp, rfl, rfl, rfl⟩

theorem updateOnBorrow_frame {n : U64} {i : ℕ} {group : Option ElevationGroup}
    (h : updateElevationGroupDebtTrackersOnBorrow n o i group key r rs iter =
      .ok (o', r', rs')) : ∃ outside, r' = r.setDebtOutside outside := by
  cases group with
  | none =>
    simp only [updateElevationGroupDebtTrackersOnBorrow, bind_eq_ok, pure_eq_ok,
      Prod.mk.injEq] at h
    obtain ⟨outside, -, -, -, -, -, -, -, -, rfl, -⟩ := h
    exact ⟨outside, rfl⟩
  | some g =>
    simp only [updateElevationGroupDebtTrackersOnBorrow, bind_eq_ok, pure_eq_ok, Prod.exists,
      Prod.mk.injEq] at h
    obtain ⟨-, -, -, -, -, -, -, -, rfl, -⟩ := h
    exact ⟨_, rfl⟩

theorem bookBorrow_spec {n : U64} {res res' : CalculateBorrowResult}
    (h : bookBorrow market r o key ost rs iter res n = .ok (r', o', ost', rs', res')) :
    res' = res ∧ ∃ (tier : AssetTier)
      (o₁ : Obligation) (i : ℕ) (b b₁ : ObligationLiquidity) (r₁ : Reserve) (rate : Fraction)
      (group : Option ElevationGroup) (b₂ : ObligationLiquidity),
      r.config.getAssetTier = .ok tier ∧
      o.findOrAddLiquidityToBorrows key r.liquidity.cumulativeBorrowRateBsf tier = .ok (o₁, i) ∧
      o₁.borrows[i]? = some b ∧
      b.borrow res.borrowAmountF = .ok b₁ ∧
      creditReferrer market r ost res.referrerFee = .ok (r₁, ost') ∧
      r₁.liquidity.utilizationRate = .ok rate ∧
      ¬ (Fraction.fromPercent r₁.config.utilizationLimitBlockBorrowingAbovePct.widen ≤ rate ∧
        r₁.config.utilizationLimitBlockBorrowingAbovePct ≠ 0) ∧
      validateObligationAssetTiers
        (Obligation.markStale { o₁ with borrows := o₁.borrows.set i b₁, hasDebt := 1 }) =
        .ok () ∧
      market.getElevationGroup o₁.elevationGroup = .ok group ∧
      updateElevationGroupDebtTrackersOnBorrow n
        (Obligation.markStale { o₁ with borrows := o₁.borrows.set i b₁, hasDebt := 1 }) i group
        key r₁ rs iter = .ok (o', r', rs') ∧
      o'.borrows[i]? = some b₂ ∧
      postBorrowObligationInvariants res.borrowAmountF o' r' b₂.marketValueSf
        market.minNetValueInObligationSf = .ok () := by
  simp only [bookBorrow, bind_eq_ok, require_eq_ok, pure_eq_ok, unwrap_eq_ok, Prod.exists,
    Prod.mk.injEq] at h
  obtain ⟨tier, htier, o₁, i, hfind, b, hb, b₁, hb₁, r₁, ost₁, hcredit, rate, hrate, -,
    hutilization, u₂, hvalid, group, hgroup, o₂, r₂, rs₂, htrack, b₂, hb₂, u, hpost, rfl, rfl, rfl,
    rfl, rfl⟩ := h
  exact ⟨rfl, tier, o₁, i, b, b₁, r₁, rate, group, b₂, htier, hfind, hb, hb₁, hcredit, hrate,
    hutilization, hvalid, hgroup, htrack, hb₂, hpost⟩


theorem borrowObligationLiquidity_cases {res : CalculateBorrowResult}
    (h : borrowObligationLiquidity market r o amount clock key ost rs iter =
      .ok (r', o', ost', rs', res)) :
    (amount ≠ 0 ∧ r.lastUpdate.requireFresh clock.slot .allChecks .reserveStale = .ok () ∧
      checkObligationFullyRefreshedAndNotNull o clock.slot = .ok () ∧
      checkNonElevationGroupBorrowingEnabled o = .ok () ∧
      o.remainingBorrowValue ≠ Fraction.zero ∧
      (Fraction.fromNum r.config.borrowLimit).saturatingSub r.liquidity.totalBorrow ≠
        Fraction.zero) ∧
    (∃ newBorrowedAmountF, (Fraction.fromNum amount).add r.liquidity.totalBorrow =
        .ok newBorrowedAmountF ∧
      ¬ (amount ≠ Word.max 64 ∧ Fraction.fromNum r.config.borrowLimit < newBorrowedAmountF)) ∧
    r.calculateBorrow amount o.remainingBorrowValue
      ((Fraction.fromNum r.config.borrowLimit).saturatingSub r.liquidity.totalBorrow)
      market.referralFeeBps (o.elevationGroup ≠ elevationGroupNone) ost.isSome = .ok res ∧
    res.receiveAmount ≠ 0 ∧
    ∃ (borrowAmount timestamp : U64) (cap : WithdrawalCaps) (l : ReserveLiquidity),
      res.borrowAmountF.toCeil = .ok borrowAmount ∧
      clock.timestamp = .ok timestamp ∧
      r.config.debtWithdrawalCap.addToWithdrawalAccum borrowAmount timestamp = .ok cap ∧
      r.liquidity.borrow res.borrowAmountF = .ok l ∧
      bookBorrow market (Reserve.markStale { r with
        liquidity := l, config := { r.config with debtWithdrawalCap := cap } }) o key ost rs iter
        res borrowAmount = .ok (r', o', ost', rs', res) := by
  simp only [borrowObligationLiquidity_eq, bind_eq_ok, require_eq_ok] at h
  obtain ⟨-, hamount, u₁, hfresh, -, -, -, -, -, -, sum, hsum, -, hlimit, u₂, hobl, -, hvalue, -, -,
    -, -, u₃, hnon, -, hremaining, res', hres, n, hn, ts, hts, cap, hcap, -, hreceive, l, hl,
    hbook⟩ := h
  obtain rfl := (bookBorrow_spec hbook).1
  exact ⟨⟨hamount, hfresh, hobl, hnon, hvalue, hremaining⟩, ⟨sum, hsum, hlimit⟩, hres, hreceive,
    n, ts, cap, l, hn, hts, hcap, hl, hbook⟩

/-- A borrow lends out the computed amount, credits the referrer, and then updates the trackers by
the amount rounded up. -/
theorem borrowObligationLiquidity_spec {res : CalculateBorrowResult}
    (h : borrowObligationLiquidity market r o amount clock key ost rs iter =
      .ok (r', o', ost', rs', res)) :
    (r.lastUpdate.stale = false ∧ r.lastUpdate.slot = clock.slot ∧
      r.lastUpdate.priceStatus.contains .allChecks) ∧
    (o.lastUpdate.stale = false ∧ o.lastUpdate.slot = clock.slot ∧
      o.lastUpdate.priceStatus.contains .allChecks) ∧
    o.depositedValueSf ≠ Fraction.zero ∧
    r.calculateBorrow amount o.remainingBorrowValue
      ((Fraction.fromNum r.config.borrowLimit).saturatingSub r.liquidity.totalBorrow)
      market.referralFeeBps (o.elevationGroup ≠ elevationGroupNone) ost.isSome = .ok res ∧
    ∃ (borrowAmount : U64) (cap : WithdrawalCaps) (l : ReserveLiquidity) (tier : AssetTier)
      (o₁ : Obligation) (i : ℕ) (b b₁ : ObligationLiquidity) (r₁ : Reserve)
      (group : Option ElevationGroup) (b₂ : ObligationLiquidity),
      res.borrowAmountF.toCeil = .ok borrowAmount ∧
      r.liquidity.borrow res.borrowAmountF = .ok l ∧
      o.findOrAddLiquidityToBorrows key l.cumulativeBorrowRateBsf tier = .ok (o₁, i) ∧
      o₁.borrows[i]? = some b ∧
      b.borrow res.borrowAmountF = .ok b₁ ∧
      creditReferrer market (Reserve.markStale { r with
        liquidity := l, config := { r.config with debtWithdrawalCap := cap } }) ost
        res.referrerFee = .ok (r₁, ost') ∧
      market.getElevationGroup o₁.elevationGroup = .ok group ∧
      updateElevationGroupDebtTrackersOnBorrow borrowAmount
        (Obligation.markStale { o₁ with borrows := o₁.borrows.set i b₁, hasDebt := 1 }) i group
        key r₁ rs iter = .ok (o', r', rs') ∧
      o'.borrows[i]? = some b₂ ∧
      postBorrowObligationInvariants res.borrowAmountF o' r' b₂.marketValueSf
        market.minNetValueInObligationSf = .ok () ∧
      amount ≠ 0 ∧
      (Fraction.fromNum r.config.borrowLimit).saturatingSub r.liquidity.totalBorrow ≠
        Fraction.zero ∧
      res.receiveAmount ≠ 0 ∧
      o.remainingBorrowValue ≠ Fraction.zero ∧
      checkNonElevationGroupBorrowingEnabled o = .ok () ∧
      r.config.getAssetTier = .ok tier ∧
      validateObligationAssetTiers
        (Obligation.markStale { o₁ with borrows := o₁.borrows.set i b₁, hasDebt := 1 }) =
        .ok () := by
  obtain ⟨⟨hamount, hfresh, hobl, hnon, hvalue, hremaining⟩, -, hres, hreceive, n, ts, cap, l, hn,
    -, -, hl, hbook⟩ := borrowObligationLiquidity_cases h
  obtain ⟨-, tier, o₁, i, b, b₁, r₁, rate, group, b₂, htier, hfind, hb, hb₁, hcredit, -, -, hvalid,
    hgroup, htrack, hb₂, hpost⟩ := bookBorrow_spec hbook
  simp only [checkObligationFullyRefreshedAndNotNull, bind_eq_ok, require_eq_ok,
    LastUpdate.requireFresh_eq_ok] at hfresh hobl
  obtain ⟨-, hobl, -, -, hval⟩ := hobl
  exact ⟨hfresh, hobl, hval, hres, n, cap, l, tier, o₁, i, b, b₁, r₁, group, b₂, hn, hl, hfind,
    hb, hb₁, hcredit, hgroup, htrack, hb₂, hpost, hamount, hremaining, hreceive, hvalue, hnon,
    htier, hvalid⟩

theorem calculateBorrow_pos {value remaining : Fraction} {bps : U16} {inGroup hasReferrer : Bool}
    {res : CalculateBorrowResult}
    (h : r.calculateBorrow amount value remaining bps inGroup hasReferrer = .ok res)
    (hreceive : res.receiveAmount ≠ 0) : 0 < res.borrowAmountF.bits := by
  have hpos : 0 < (res.receiveAmount : ℕ) := Nat.pos_of_ne_zero fun h0 ↦ hreceive (Fin.ext h0)
  unfold Reserve.calculateBorrow at h
  by_cases hmax : amount = Word.max 64
  · simp only [if_pos hmax, bind_eq_ok, pure_eq_ok, Prod.exists, Fraction.toFloor_eq_ok,
      Word.sub_eq_ok] at h
    obtain ⟨-, -, -, -, -, -, f, -, fee, ref, -, n, hn, less, hless, rest, hrest, rfl⟩ := h
    dsimp only at hpos hn ⊢
    omega
  · simp only [if_neg hmax, bind_eq_ok, pure_eq_ok, Prod.exists, Fraction.add_eq_ok,
      Fraction.bits_fromNum] at h
    obtain ⟨-, -, fee, ref, -, total, -, f, hf, -, -, -, -, -, -, -, -, rfl⟩ := h
    dsimp only at hpos ⊢
    omega

/-- A repayment brings the debt up to date, updates the trackers by the amount rounded up, and then
settles the debt on both sides. -/
theorem repayObligationLiquidity_spec {n : U64}
    (h : repayObligationLiquidity r o clock amount key market rs iter = .ok (r', o', rs', n)) :
    (r.lastUpdate.stale = false ∧ r.lastUpdate.slot = clock.slot) ∧
    (o.lastUpdate.stale = false ∧ o.lastUpdate.slot = clock.slot) ∧
    ∃ (b : ObligationLiquidity) (i : ℕ) (b₁ : ObligationLiquidity) (settle : Fraction)
      (cap : WithdrawalCaps) (o₁ : Obligation) (r₁ : Reserve) (l : ReserveLiquidity)
      (o₂ : Obligation),
      o.findLiquidityInBorrows key = .ok (b, i) ∧
      b.accrueInterest r.liquidity.cumulativeBorrowRateBsf = .ok b₁ ∧
      Reserve.calculateRepay amount b₁.borrowedAmountSf = .ok ⟨settle, n⟩ ∧
      updateElevationGroupDebtTrackersOnRepay n { o with borrows := o.borrows.set i b₁ } i
        { r with config := { r.config with debtWithdrawalCap := cap } } rs iter =
          .ok (o₁, r₁, rs') ∧
      r₁.liquidity.repay n settle = .ok l ∧
      r' = Reserve.markStale { r₁ with liquidity := l } ∧
      o₁.repay settle i = .ok o₂ ∧
      o' = o₂.updateHasDebt.markStale := by
  simp only [repayObligationLiquidity, bind_eq_ok, require_eq_ok, LastUpdate.requireFresh_eq_ok,
    pure_eq_ok, unwrap_eq_ok, Prod.exists, Prod.mk.injEq] at h
  obtain ⟨-, -, -, ⟨hr1, hr2, -⟩, -, ⟨ho1, ho2, -⟩, b, i, hfind, -, -, b₁, hb₁, ⟨settle, m⟩, hcalc,
    -, -, -, -, cap, -, o₁, r₁, rs₁, htrack, l, hl, o₂, ho₂, -, -, -, -, rfl, rfl, rfl, rfl⟩ := h
  exact ⟨⟨hr1, hr2⟩, ⟨ho1, ho2⟩, b, i, b₁, settle, cap, o₁, r₁, l, o₂, hfind, hb₁, hcalc, htrack,
    hl, rfl, ho₂, rfl⟩

theorem socializeLoss_spec {f : Fraction}
    (h : socializeLoss r key o amount slot rs iter = .ok (r', o', rs', f)) :
    (r.lastUpdate.stale = false ∧ r.lastUpdate.slot = slot) ∧
    (o.lastUpdate.stale = false ∧ o.lastUpdate.slot = slot) ∧
    o.depositsEmpty = true ∧
    ∃ (b : ObligationLiquidity) (i : ℕ) (supply : Fraction) (n : U64) (o₁ : Obligation)
      (r₁ : Reserve) (l : ReserveLiquidity) (o₂ : Obligation),
      o.findLiquidityInBorrows key = .ok (b, i) ∧
      f = min (Fraction.fromNum amount) b.borrowedAmountSf ∧
      r.liquidity.totalSupply = .ok supply ∧
      f.toCeil = .ok n ∧
      updateElevationGroupDebtTrackersOnRepay n o i
        (if supply ≤ f then { r with version := Word.max 64 } else r) rs iter =
          .ok (o₁, r₁, rs') ∧
      r₁.liquidity.forgiveDebt f = .ok l ∧
      r' = Reserve.markStale { r₁ with liquidity := l } ∧
      o₁.repay f i = .ok o₂ ∧
      o' = o₂.updateHasDebt.markStale := by
  simp only [socializeLoss, bind_eq_ok, require_eq_ok, LastUpdate.requireFresh_eq_ok,
    pure_eq_ok, Prod.exists, Prod.mk.injEq] at h
  obtain ⟨-, ⟨hr1, hr2, -⟩, -, ⟨ho1, ho2, -⟩, -, hempty, -, -, b, i, hfind, supply, hsupply, n, hn,
    o₁, r₁, rs₁, htrack, l, hl, o₂, ho₂, rfl, rfl, rfl, rfl⟩ := h
  exact ⟨⟨hr1, hr2⟩, ⟨ho1, ho2⟩, hempty, b, i, supply, n, o₁, r₁, l, o₂, hfind, rfl, hsupply, hn,
    htrack, hl, rfl, ho₂, rfl⟩

/-- A liquidation repays like a repayment, withdraws collateral, and refreshes the withdrawn
reserve before its trackers lose a fully withdrawn collateral. -/
theorem liquidateObligation_spec {repayKey withdrawKey : Pubkey} {override : Option U64}
    {res : LiquidateObligationResult}
    (h : liquidateObligation market repayKey withdrawKey o clock amount override rs iter =
      .ok (o', rs', res)) :
    ∃ (repayReserve withdrawReserve : Reserve) (group : Option ElevationGroup)
      (b : ObligationLiquidity) (i : ℕ) (j : ℕ) (d : ObligationCollateral) (ts : U64)
      (result : CalculateLiquidationResult),
      rs.load repayKey = .ok repayReserve ∧ rs.load withdrawKey = .ok withdrawReserve ∧
      assertObligationLiquidatable repayReserve withdrawReserve o amount clock.slot = .ok () ∧
      getElevationGroup o.elevationGroup market = .ok group ∧
      o.findLiquidityInBorrows repayKey = .ok (b, i) ∧
      o.positionOfCollateralInDeposits withdrawKey = .ok j ∧
      o.deposits[j]? = some d ∧
      clock.timestamp = .ok ts ∧
      calculateLiquidation withdrawReserve repayReserve amount market o b d ts
        (o.highestBorrowFactorPct ≤ repayReserve.config.borrowFactorPct)
        (((getMaxLtvAndLiquidationThreshold withdrawReserve group).2.widen : U64) ≤
          o.lowestReserveDepositLiquidationLtv) override = .ok result ∧
      ∃ (o₁ : Obligation) (r₁ : Reserve) (held : Reserves) (d₁ : ObligationCollateral)
        (l : ReserveLiquidity) (o₂ o₃ : Obligation) (kind : WithdrawResult)
        (w₁ w₂ w₃ : Reserve),
        updateElevationGroupDebtTrackersOnRepay result.repayAmount o i repayReserve
          (rs.hold repayKey) iter = .ok (o₁, r₁, held) ∧
        o₁.deposits[j]? = some d₁ ∧
        r₁.liquidity.repay result.repayAmount result.settleAmountF = .ok l ∧
        o₁.repay result.settleAmountF i = .ok o₂ ∧
        o₂.withdraw result.withdrawAmount j = .ok (o₃, kind) ∧
        o' = o₃.updateHasDebt.markStale ∧
        (held.store repayKey (Reserve.markStale { r₁ with liquidity := l })).load withdrawKey =
          .ok w₁ ∧
        refreshReserve w₁ clock none market.referralFeeBps = .ok w₂ ∧
        (if d.depositedAmount = result.withdrawAmount then
          updateElevationGroupDebtTrackersOnFullWithdraw
            d₁.borrowedAmountAgainstThisCollateralInElevationGroup o'.elevationGroup w₂
        else .ok w₂) = .ok w₃ ∧
        rs' = (held.store repayKey (Reserve.markStale { r₁ with liquidity := l })).store
          withdrawKey w₃ ∧
        res.repayAmount = result.repayAmount ∧ res.withdrawAmount = result.withdrawAmount ∧
        (getMaxLtvAndLiquidationThreshold withdrawReserve group).2 ≠ 0 ∧
        b.borrowFactorAdjustedMarketValueSf ≠ Fraction.zero ∧
        d.marketValueSf ≠ Fraction.zero := by
  simp only [liquidateObligation, repayAndWithdrawFromObligationPostLiquidation, bind_eq_ok,
    require_eq_ok, pure_eq_ok, unwrap_eq_ok, Prod.exists, Prod.mk.injEq] at h
  obtain ⟨rr, hrr, wr, hwr, group, hgroup, -, hthreshold, u, hassert, b, i, hfind, -, howed, j, hj,
    d, hd, -, hworth, ts, hts, result, hresult, o₁, r₁, held, htrack, d₁, hd₁, o₃, r₂,
    ⟨-, -, -, -, l, hl, o₂, ho₂, o₂', kind, hw, rfl, rfl⟩, w₁, hw₁, w₂, hw₂, -, -, most, -, h⟩ := h
  have hend : ∃ w₃, (if d.depositedAmount = result.withdrawAmount then
      updateElevationGroupDebtTrackersOnFullWithdraw
        d₁.borrowedAmountAgainstThisCollateralInElevationGroup
        o₂'.updateHasDebt.markStale.elevationGroup w₂
      else .ok w₂) = .ok w₃ ∧ o₂'.updateHasDebt.markStale = o' ∧
      (held.store repayKey (Reserve.markStale { r₁ with liquidity := l })).store withdrawKey w₃ =
        rs' ∧ res.repayAmount = result.repayAmount ∧
      res.withdrawAmount = result.withdrawAmount := by
    by_cases hfull : d.depositedAmount = result.withdrawAmount
    · simp only [hfull, decide_true, if_true, bind_eq_ok, pure_eq_ok, Prod.mk.injEq] at h ⊢
      obtain ⟨w₃, hw₃, ho', hrs', rfl⟩ := h
      exact ⟨w₃, hw₃, ho', hrs', rfl, rfl⟩
    · simp only [hfull, decide_false, Bool.false_eq_true, if_false, bind_eq_ok, pure_eq_ok,
        Prod.mk.injEq] at h ⊢
      obtain ⟨w₃, rfl, ho', hrs', rfl⟩ := h
      exact ⟨w₂, rfl, ho', hrs', rfl, rfl⟩
  obtain ⟨w₃, hw₃, rfl, rfl, hrepay, hwithdraw⟩ := hend
  exact ⟨rr, wr, group, b, i, j, d, ts, result, hrr, hwr, hassert, hgroup, hfind, hj, hd, hts,
    hresult, o₁, r₁, held, d₁, l, o₂, o₂', kind, w₁, w₂, w₃, htrack, hd₁, hl, ho₂, hw, rfl, hw₁,
    hw₂, hw₃, rfl, hrepay, hwithdraw, hthreshold, howed, hworth⟩

/-- The withdrawn collateral is redeemed unless there is nothing to redeem it with. -/
theorem postLiquidateRedeem_spec {n m least : U64} {bonus : Fraction} {total : Option (U64 × U64)}
    (h : postLiquidateRedeem r n m bonus least clock = .ok (r', total)) :
    (∃ x fee, redeemReserveCollateral r m clock false = .ok (r', x) ∧ total = some (x, fee)) ∨
      (r' = r ∧ total = none) := by
  unfold postLiquidateRedeem at h
  split at h
  · simp only [bind_eq_ok, pure_eq_ok, Prod.exists, Prod.mk.injEq] at h
    obtain ⟨r₁, x, hredeem, fee, -, -, -, -, -, rfl, rfl⟩ := h
    exact .inl ⟨x, fee, hredeem, rfl⟩
  · simp only [bind_eq_ok, pure_eq_ok, Prod.mk.injEq] at h
    obtain ⟨-, -, -, -, -, -, rfl, rfl⟩ := h
    exact .inr ⟨rfl, rfl⟩

theorem liquidateAndRedeem_spec {repayKey withdrawKey : Pubkey} {override : Option U64}
    {least : U64} {res : LiquidateAndRedeemResult}
    (h : liquidateAndRedeem market repayKey withdrawKey o clock amount least override rs iter =
      .ok (o', rs', res)) :
    ∃ (rs₁ : Reserves) (result : LiquidateObligationResult) (w w' : Reserve),
      liquidateObligation market repayKey withdrawKey o clock amount override rs iter =
        .ok (o', rs₁, result) ∧
      rs₁.load withdrawKey = .ok w ∧
      postLiquidateRedeem w result.withdrawAmount result.withdrawCollateralAmount
        result.liquidationBonusRate least clock =
          .ok (w', res.totalWithdrawLiquidityAmount) ∧
      rs' = rs₁.store withdrawKey w' ∧
      res.withdrawCollateralAmount = result.withdrawCollateralAmount ∧
      res.repayAmount = result.repayAmount ∧ res.withdrawAmount = result.withdrawAmount := by
  simp only [liquidateAndRedeem, bind_eq_ok, pure_eq_ok, Prod.exists, Prod.mk.injEq] at h
  obtain ⟨o₁, rs₁, result, hliq, w, hw, w', total, hpost, rfl, rfl, rfl⟩ := h
  exact ⟨rs₁, result, w, w', hliq, hw, hpost, rfl, rfl, rfl, rfl⟩

theorem depositObligationCollateral_spec {check : MaxReservesAsCollateralCheck}
    (h : depositObligationCollateral market r o slot amount key check = .ok (r', o')) :
    (r.lastUpdate.stale = false ∧ r.lastUpdate.slot = slot) ∧
    (o.lastUpdate.stale = false ∧ o.lastUpdate.slot = slot) ∧
    ∃ (group : Option ElevationGroup) (total : Option U64) (tier : AssetTier) (o₁ : Obligation)
      (i : ℕ) (r₁ : Reserve) (d d₁ : ObligationCollateral),
      getElevationGroup o.elevationGroup market = .ok group ∧
      o.getBorrowedAmountIfSingleToken = .ok total ∧
      o.findOrAddCollateralToDeposits key tier
        (fun d ↦ updateElevationGroupDebtTrackersOnNewDeposit total d o.depositsCount group key r
          check) r = .ok (o₁, i, r₁) ∧
      o₁.deposits[i]? = some d ∧
      d.deposit amount = .ok d₁ ∧
      o' = Obligation.markStale { o₁ with deposits := o₁.deposits.set i d₁ } ∧
      r' = r₁.markStale ∧ amount ≠ 0 ∧
      r.config.getAssetTier = .ok tier ∧
      validateObligationAssetTiers o' = .ok () ∧
      ¬ (0 < r.config.disableUsageAsCollOutsideEmode ∧ o.elevationGroup = elevationGroupNone ∧
        Fraction.zero < o.borrowFactorAdjustedDebtValueSf) := by
  simp only [depositObligationCollateral, bind_eq_ok, ite_seq_eq_ok, require_eq_ok,
    LastUpdate.requireFresh_eq_ok, pure_eq_ok, unwrap_eq_ok, Prod.exists, Prod.mk.injEq] at h
  obtain ⟨-, hamount, -, ⟨hr1, hr2, -⟩, -, ⟨ho1, ho2, -⟩, -, husable, -, -, group, hgroup, -, total,
    htotal, tier, htier, o₁, i, r₁, hfind, d, hd, d₁, hd₁, u, hvalid, -, -, -, -, -, -, rfl, rfl⟩ :=
    h
  exact ⟨⟨hr1, hr2⟩, ⟨ho1, ho2⟩, group, total, tier, o₁, i, r₁, d, d₁, hgroup, htotal, hfind, hd,
    hd₁, rfl, rfl, hamount, htier, hvalid, husable⟩

theorem withdrawObligationCollateral_spec {check : LtvMaxWithdrawalCheck} {n : U64}
    (h : withdrawObligationCollateral market r o amount slot key check = .ok (r', o', n)) :
    (r.lastUpdate.stale = false ∧ r.lastUpdate.slot = slot) ∧
    (o.lastUpdate.stale = false ∧ o.lastUpdate.slot = slot) ∧
    ∃ (i : ℕ) (d : ObligationCollateral) (o₁ : Obligation) (kind : WithdrawResult),
      o.positionOfCollateralInDeposits key = .ok i ∧
      o.deposits[i]? = some d ∧
      o.withdraw n i = .ok (o₁, kind) ∧
      o' = o₁.markStale ∧
      (if kind = .full then updateElevationGroupDebtTrackersOnFullWithdraw
        d.borrowedAmountAgainstThisCollateralInElevationGroup o₁.elevationGroup r
      else .ok r) = .ok r' := by
  simp only [withdrawObligationCollateral, bind_of_ite, bind_eq_ok, ite_seq_eq_ok, require_eq_ok,
    LastUpdate.requireFresh_eq_ok, pure_eq_ok, unwrap_eq_ok, Prod.exists, Prod.mk.injEq] at h
  obtain ⟨-, -, -, ⟨hr1, hr2, -⟩, -, ⟨ho1, ho2, -⟩, i, hi, d, hd, -, -, -, -, -, -, -, -, -, m, -,
    o₁, kind, hw, r₁, hr₁, -, -, -, -, -, -, -, -, rfl, rfl, rfl⟩ := h
  exact ⟨⟨hr1, hr2⟩, ⟨ho1, ho2⟩, i, d, o₁, kind, hi, hd, hw, rfl, hr₁⟩

section Refresh

variable {states states' : ReferrerTokenStates} {stateKeys : List ReferrerTokenStateKey}
  {check : MaxReservesAsCollateralCheck} {group : Option ElevationGroup}
  {borrows : RefreshObligationBorrowsResult} {deposits : RefreshObligationDepositsResult}

theorem refreshObligationBorrows_spec
    (h : refreshObligationBorrows o market slot group rs iter states stateKeys =
      .ok (o', rs', states', borrows)) :
    ∃ (s : BorrowsPass) (slots : List ObligationLiquidity),
      forOccupied ObligationLiquidity.occupied (refreshBorrow o market slot group) 0
        { reserves := rs, referrerTokenStates := states, referrerTokenStatesIter := stateKeys
          borrowsAssetTiers := o.borrowsAssetTiers
          hasDebt := o.hasDebt
          borrowedAssetsMarketValue := Fraction.zero
          borrowFactorAdjustedDebtValue := Fraction.zero
          pricesState := PriceStatusFlags.allChecks
          highestBorrowFactorF := Fraction.one
          borrowedAmountsAccumulatorForElevationGroup := 0
          numBorrowReserves := 0 } o.borrows iter = .ok (s, slots) ∧
      (group.isSome → s.numBorrowReserves ≤ 1) ∧
      o' = { o with
        borrows := slots, borrowsAssetTiers := s.borrowsAssetTiers, hasDebt := s.hasDebt } ∧
      rs' = s.reserves ∧ states' = s.referrerTokenStates ∧
      borrows.borrowFactorAdjustedDebtValueF = s.borrowFactorAdjustedDebtValue ∧
      borrows.borrowedAssetsMarketValueF = s.borrowedAssetsMarketValue ∧
      borrows.borrowedAmountInElevationGroup =
        (if group.isSome then some s.borrowedAmountsAccumulatorForElevationGroup else none) ∧
      s.highestBorrowFactorF.toPercent 64 = .ok (some borrows.highestBorrowFactorPct) ∧
      borrows.pricesState = s.pricesState := by
  simp only [refreshObligationBorrows, bind_eq_ok, require_eq_ok, pure_eq_ok, unwrap_eq_ok,
    Prod.exists, Prod.mk.injEq] at h
  obtain ⟨s, slots, hloop, -, hcount, -, hpct, pct, rfl, rfl, rfl, rfl, rfl⟩ := h
  exact ⟨s, slots, hloop, fun hg ↦ not_lt.1 fun hlt ↦ hcount ⟨hg, hlt⟩, rfl, rfl, rfl, rfl, rfl,
    rfl, hpct, rfl⟩

/-- The group and its debt, as the loop over the deposits receives them. -/
def groupWithDebt (group : Option ElevationGroup) (debt : Option U64) :
    Option (ElevationGroup × U64) :=
  match group, debt with
  | some g, some n => some (g, n)
  | _, _ => none

theorem refreshObligationDeposits_spec {debt : Option U64}
    (h : refreshObligationDeposits o market slot check group rs iter debt =
      .ok (o', rs', deposits)) :
    group.isSome = debt.isSome ∧
    ∃ (s : DepositsPass) (slots : List ObligationCollateral),
      forOccupied ObligationCollateral.occupied
        (refreshDeposit market slot group (groupWithDebt group debt)) 0
        { reserves := rs
          depositsAssetTiers := o.depositsAssetTiers
          lowestDepositLiquidationLtvThresholdPct := Word.max 8
          lowestDepositMaxLtvPct := Word.max 8
          depositedValue := Fraction.zero
          allowedBorrowValue := Fraction.zero
          unhealthyBorrowValue := Fraction.zero
          numOfObsoleteReserves := 0
          pricesState := PriceStatusFlags.allChecks
          borrowingDisabled := false
          collateralsCount := 0 } o.deposits iter = .ok (s, slots) ∧
      o' = { o with deposits := slots, depositsAssetTiers := s.depositsAssetTiers } ∧
      rs' = s.reserves ∧
      deposits.depositedValueF = s.depositedValue ∧
      deposits.allowedBorrowValueF = s.allowedBorrowValue ∧
      deposits.unhealthyBorrowValueF = s.unhealthyBorrowValue ∧
      deposits.lowestDepositLiquidationLtvThresholdPct =
        s.lowestDepositLiquidationLtvThresholdPct ∧
      deposits.borrowingDisabled = s.borrowingDisabled ∧
      deposits.pricesState = s.pricesState := by
  unfold refreshObligationDeposits at h
  cases group with
  | none =>
    cases debt with
    | some n => simp at h
    | none =>
      simp only [bind_eq_ok, pure_eq_ok, Prod.exists, Prod.mk.injEq] at h
      obtain ⟨-, rfl, s, slots, hloop, rfl, rfl, rfl⟩ := h
      exact ⟨rfl, s, slots, hloop, rfl, rfl, rfl, rfl, rfl, rfl, rfl, rfl⟩
  | some g =>
    cases debt with
    | none => simp at h
    | some n =>
      simp only [bind_eq_ok, require_eq_ok, pure_eq_ok, Prod.exists, Prod.mk.injEq] at h
      obtain ⟨-, rfl, s, slots, hloop, -, -, rfl, rfl, rfl⟩ := h
      exact ⟨rfl, s, slots, hloop, rfl, rfl, rfl, rfl, rfl, rfl, rfl, rfl⟩

theorem refreshObligation_spec
    (h : refreshObligation o market slot check rs iter iter' states stateKeys =
      .ok (o', rs', states')) :
    ∃ (group : Option ElevationGroup) (o₁ : Obligation) (rs₁ : Reserves)
      (borrows : RefreshObligationBorrowsResult) (o₂ : Obligation)
      (deposits : RefreshObligationDepositsResult),
      getElevationGroup o.elevationGroup market = .ok group ∧
      refreshObligationBorrows o market slot group rs iter' states stateKeys =
        .ok (o₁, rs₁, states', borrows) ∧
      refreshObligationDeposits o₁ market slot check group rs₁ iter
        borrows.borrowedAmountInElevationGroup = .ok (o₂, rs', deposits) ∧
      o' = { o₂ with
        borrowedAssetsMarketValueSf := borrows.borrowedAssetsMarketValueF
        depositedValueSf := deposits.depositedValueF
        borrowFactorAdjustedDebtValueSf := borrows.borrowFactorAdjustedDebtValueF
        allowedBorrowValueSf := min deposits.allowedBorrowValueF
          (Fraction.fromNum market.globalAllowedBorrowValue)
        unhealthyBorrowValueSf := deposits.unhealthyBorrowValueF
        lowestReserveDepositLiquidationLtv :=
          deposits.lowestDepositLiquidationLtvThresholdPct.widen
        lowestReserveDepositMaxLtvPct := deposits.lowestDepositMaxLtvPct
        numOfObsoleteReserves := deposits.numOfObsoleteReserves
        borrowingDisabled := boolToU8 deposits.borrowingDisabled
        highestBorrowFactorPct := borrows.highestBorrowFactorPct
        lastUpdate := o₂.lastUpdate.updateSlot slot
          (some (deposits.pricesState.intersection borrows.pricesState)) } := by
  simp only [refreshObligation, bind_eq_ok, pure_eq_ok, Prod.exists, Prod.mk.injEq] at h
  obtain ⟨group, hgroup, o₁, rs₁, st₁, borrows, hb, o₂, rs₂, deposits, hd, rfl, rfl, rfl⟩ := h
  exact ⟨group, o₁, rs₁, borrows, o₂, deposits, hgroup, hb, hd, rfl⟩

/-- A change of group leaves the old group, refreshes debts and collaterals in the new one, and
tests the limits last. -/
theorem requestElevationGroup_spec {newGroup : U8}
    (h : requestElevationGroup o market slot newGroup rs iter iter' states stateKeys =
      .ok (o', rs', states')) :
    (o.lastUpdate.stale = false ∧ o.lastUpdate.slot = slot) ∧
    o.elevationGroup ≠ newGroup ∧
    ∃ (oldGroup group : Option ElevationGroup) (o₁ : Obligation) (rs₁ : Reserves)
      (o₂ : Obligation) (rs₂ : Reserves) (borrows : RefreshObligationBorrowsResult)
      (o₃ : Obligation) (deposits : RefreshObligationDepositsResult),
      getElevationGroup o.elevationGroup market = .ok oldGroup ∧
      resetElevationGroupDebts o oldGroup rs iter iter' = .ok (o₁, rs₁) ∧
      getElevationGroup newGroup market = .ok group ∧
      refreshObligationBorrows o₁ market slot group rs₁ iter' states stateKeys =
        .ok (o₂, rs₂, states', borrows) ∧
      refreshObligationDeposits o₂ market slot .perform group rs₂ iter
        borrows.borrowedAmountInElevationGroup = .ok (o₃, rs', deposits) ∧
      o' = Obligation.markStale { o₃ with
        elevationGroup := newGroup
        borrowingDisabled := boolToU8 deposits.borrowingDisabled } ∧
      checkElevationGroupBorrowLimitConstraints o' group rs' iter iter' = .ok () := by
  simp only [requestElevationGroup, checkObligationFullyRefreshedAndNotNull, bind_eq_ok,
    require_eq_ok, LastUpdate.requireFresh_eq_ok, Prod.exists] at h
  obtain ⟨-, ⟨-, ⟨ho1, ho2, -⟩, -⟩, -, hne, ltv, -, oldGroup, hold, o₁, rs₁, hreset, group, hgroup,
    h⟩ := h
  refine ⟨⟨ho1, ho2⟩, hne, oldGroup, group, o₁, rs₁, ?_⟩
  cases group <;> simp only [bind_eq_ok, require_eq_ok, pure_eq_ok, Prod.exists, Prod.mk.injEq] at h
  · obtain ⟨o₂, rs₂, st₂, borrows, hb, o₃, rs₃, deposits, hd, -, -, -, -, u, hcheck, rfl, rfl,
      rfl⟩ := h
    exact ⟨o₂, rs₂, borrows, o₃, deposits, hold, hreset, hgroup, hb, hd, rfl, hcheck⟩
  · obtain ⟨-, -, -, -, -, -, o₂, rs₂, st₂, borrows, hb, o₃, rs₃, deposits, hd, -, -, -, -, u,
      hcheck, rfl, rfl, rfl⟩ := h
    exact ⟨o₂, rs₂, borrows, o₃, deposits, hold, hreset, hgroup, hb, hd, rfl, hcheck⟩

theorem refreshBorrow_spec {index : ℕ} {s s' : BorrowsPass} {b b' : ObligationLiquidity}
    (h : refreshBorrow o market slot group index s b key = .ok (s', b')) :
    ∃ (r : Reserve) (b₁ : ObligationLiquidity) (n : U64) (r₁ : Reserve)
      (b₂ : ObligationLiquidity) (slots : U64) (r₂ : Reserve) (mv bfmv : Fraction),
      key ≠ 0 ∧ s.reserves key = some r ∧
      b.borrowReserve = key ∧
      (r.lastUpdate.stale = false ∧ r.lastUpdate.slot = slot) ∧
      r.version = programVersion ∧
      b.accrueInterest r.liquidity.cumulativeBorrowRateBsf = .ok b₁ ∧
      b₁.borrowedAmountSf.toCeil = .ok n ∧
      Word.add s.borrowedAmountsAccumulatorForElevationGroup n =
        .ok s'.borrowedAmountsAccumulatorForElevationGroup ∧
      trackRefreshedBorrow group key r b₁ n = .ok (r₁, b₂) ∧
      o.lastUpdate.slotsElapsed slot = .ok slots ∧
      accumulateReferrerFees key r₁ o.referrer market.referralFeeBps slots b₁.borrowedAmountSf
        b.borrowedAmountSf o.hasReferrer s.referrerTokenStates s.referrerTokenStatesIter =
          .ok (r₂, s'.referrerTokenStates, s'.referrerTokenStatesIter) ∧
      calculateObligationLiquidityMarketValue r₂ b₂ = .ok mv ∧
      s.borrowedAssetsMarketValue.add mv = .ok s'.borrowedAssetsMarketValue ∧
      mv.mul (r₂.borrowFactorF group.isSome) = .ok bfmv ∧
      s.borrowFactorAdjustedDebtValue.add bfmv = .ok s'.borrowFactorAdjustedDebtValue ∧
      s'.reserves = s.reserves.store key r₂ ∧
      s'.numBorrowReserves = s.numBorrowReserves + 1 ∧
      b' = { b₂ with marketValueSf := mv, borrowFactorAdjustedMarketValueSf := bfmv } ∧
      s'.borrowsAssetTiers = s.borrowsAssetTiers.set index r₂.config.assetTier ∧
      s'.hasDebt = 1 ∧
      s'.highestBorrowFactorF =
        (if Fraction.fromNum market.minValueSkipLiquidationBfChecks ≤ mv then
          max s.highestBorrowFactorF (r₂.borrowFactorF group.isSome)
        else s.highestBorrowFactorF) ∧
      s'.pricesState = s.pricesState.intersection r₂.lastUpdate.priceStatus := by
  simp only [refreshBorrow, checkObligationLiquidityBorrowReserve, checkObligationReserve,
    bind_eq_ok, require_eq_ok, LastUpdate.requireFresh_eq_ok, pure_eq_ok,
    Reserves.loadRemaining_eq_ok, Prod.exists, Prod.mk.injEq] at h
  obtain ⟨r, ⟨hkey, hr⟩, -, ⟨-, hb, -, ⟨hr1, hr2, -⟩, hver⟩, b₁, hb₁, n, hn, acc, hacc, r₁, b₂,
    htrack, slots, hslots, r₂, st₂, it₂, hfees, mv, hmv, bav, hbav, bfmv, hbfmv, bfd, hbfd, -, -, -,
    -, -, -, rfl, rfl⟩ := h
  exact ⟨r, b₁, n, r₁, b₂, slots, r₂, mv, bfmv, hkey, hr, hb, ⟨hr1, hr2⟩, hver, hb₁, hn, hacc,
    htrack, hslots, hfees, hmv, hbav, hbfmv, hbfd, rfl, rfl, rfl, rfl, rfl, rfl, rfl⟩

theorem refreshDeposit_spec {index : ℕ} {withDebt : Option (ElevationGroup × U64)}
    {s s' : DepositsPass} {d d' : ObligationCollateral}
    (h : refreshDeposit market slot group withDebt index s d key = .ok (s', d')) :
    ∃ (r r₁ : Reserve) (d₁ : ObligationCollateral) (mv allowed unhealthy : Fraction),
      key ≠ 0 ∧ s.reserves key = some r ∧
      d.depositReserve = key ∧
      (r.lastUpdate.stale = false ∧ r.lastUpdate.slot = slot) ∧
      r.version = programVersion ∧
      trackRefreshedDeposit withDebt key r d = .ok (r₁, d₁) ∧
      calculateObligationCollateralMarketValue r₁ d₁ = .ok mv ∧
      s.depositedValue.add mv = .ok s'.depositedValue ∧
      mv.mul (Fraction.fromPercent (getMaxLtvAndLiquidationThreshold r₁ group).1.widen) =
        .ok allowed ∧
      s.allowedBorrowValue.add allowed = .ok s'.allowedBorrowValue ∧
      mv.mul (Fraction.fromPercent (getMaxLtvAndLiquidationThreshold r₁ group).2.widen) =
        .ok unhealthy ∧
      s.unhealthyBorrowValue.add unhealthy = .ok s'.unhealthyBorrowValue ∧
      s'.reserves = s.reserves.store key r₁ ∧
      d' = { d₁ with marketValueSf := mv } ∧
      s'.depositsAssetTiers = s.depositsAssetTiers.set index r₁.config.assetTier ∧
      s'.lowestDepositLiquidationLtvThresholdPct =
        (if Fraction.fromNum market.minValueSkipLiquidationLtvChecks ≤ mv ∧
            0 < (getMaxLtvAndLiquidationThreshold r₁ group).2 then
          min s.lowestDepositLiquidationLtvThresholdPct
            (getMaxLtvAndLiquidationThreshold r₁ group).2
        else s.lowestDepositLiquidationLtvThresholdPct) ∧
      s'.borrowingDisabled = (s.borrowingDisabled ∨
        (group.isNone ∧ 0 < r.config.disableUsageAsCollOutsideEmode) : Bool) ∧
      s'.pricesState = s.pricesState.intersection r₁.lastUpdate.priceStatus := by
  simp only [refreshDeposit, checkObligationCollateralDepositReserve, checkObligationReserve,
    bind_of_ite, bind_eq_ok, require_eq_ok, LastUpdate.requireFresh_eq_ok, pure_eq_ok,
    Reserves.loadRemaining_eq_ok, Prod.exists, Prod.mk.injEq] at h
  obtain ⟨r, ⟨hkey, hr⟩, -, -, -, -, -, ⟨-, hd, -, ⟨hr1, hr2, -⟩, hver⟩, r₁, d₁, htrack, mv, hmv,
    dv, hdv, al, hal, abv, habv, un, hun, ubv, hubv, -, -, -, -, -, -, -, -, rfl, rfl⟩ := h
  exact ⟨r, r₁, d₁, mv, al, un, hkey, hr, hd, ⟨hr1, hr2⟩, hver, htrack, hmv, hdv, hal, habv, hun,
    hubv, rfl, rfl, rfl, rfl, rfl, rfl⟩

end Refresh

end Operations

end Klend
