import Klend.Library.SlotTable
import Klend.Results.InterestEstimates
import Klend.Sdk.ObligationSimulation

/-! # Debts of a simulated obligation

The simulation adds an amount to the debt that is stored and then scales the sum to the rate
of the reserve, where the program accrues the debt before. The rate that is stored is read as
the sum of its limbs. The amount goes through a number and is rounded to the unit of the slot.
-/

namespace Klend.Sdk

section Scaling

variable {p c c' s : ℕ} {a b k : ℚ}

theorem shown_eq (hk : k ≠ 0) (n : ℕ) :
    (n : ℚ) / k * ((c' : ℚ) / k) / ((s : ℚ) / k) = (n : ℚ) * c' / s / k := by
  by_cases hs : (s : ℚ) = 0
  · simp [hs]
  · field_simp

theorem accrued_eq (hk : k ≠ 0) (p : ℕ) :
    (p : ℚ) / k * ((c' : ℚ) / k / ((c : ℚ) / k)) = (p : ℚ) * c' / c / k := by
  by_cases hc : (c : ℚ) = 0
  · simp [hc]
  · field_simp

/-- A sum is scaled like its first part only where nothing is scaled. -/
theorem scaled_add_eq_iff (ha : 0 < a) (hs : 0 < s) (hsc : s ≤ c) (hcc : c ≤ c') :
    (p + a) * c' / s = (p : ℚ) * c' / c + a ↔ c = c' ∧ s = c := by
  have hsq : (0 : ℚ) < s := by exact_mod_cast hs
  have hcq : (0 : ℚ) < c := by exact_mod_cast hs.trans_le hsc
  have hscq : (s : ℚ) ≤ c := by exact_mod_cast hsc
  constructor
  · intro h
    have hcross : (p + a) * c' * c = s * (p * c' + a * c) := by
      field_simp at h
      linarith
    have hdebt : (p : ℚ) * c' * s ≤ p * c' * c := by gcongr
    have hle : a * c * c' ≤ a * c * s := by linarith
    have hcs : (c' : ℚ) ≤ s := le_of_mul_le_mul_left hle (mul_pos ha hcq)
    have hcs : c' ≤ s := by exact_mod_cast hcs
    omega
  · rintro ⟨rfl, rfl⟩
    rw [mul_div_cancel_right₀ _ hsq.ne', mul_div_cancel_right₀ _ hsq.ne']

theorem lt_scaled_add (hab : a < b) (hb : 0 ≤ b) (hs : 0 < s) (hsc : s ≤ c) (hcc : c ≤ c') :
    (p : ℚ) * c' / c + a < (p + b) * c' / s := by
  have hsq : (0 : ℚ) < s := by exact_mod_cast hs
  have hscq : (s : ℚ) ≤ c := by exact_mod_cast hsc
  have hgrown : b ≤ b * c' / s := by
    rw [le_div_iff₀ hsq]
    exact mul_le_mul_of_nonneg_left (by exact_mod_cast hsc.trans hcc) hb
  have hdebt : (p : ℚ) * c' / c ≤ p * c' / s := by gcongr
  calc (p : ℚ) * c' / c + a < p * c' / s + b * c' / s := by linarith
    _ = (p + b) * c' / s := by rw [add_mul, add_div]

theorem scaled_eq_iff {n m : ℚ} (hs : 0 < s) (hc : 0 < c) :
    n * c' / s = (p : ℚ) * c' / c + m ↔ n * c' * c = (p * c' + m * c) * s := by
  have hsq : (s : ℚ) ≠ 0 := by exact_mod_cast hs.ne'
  have hcq : (c : ℚ) ≠ 0 := by exact_mod_cast hc.ne'
  rw [div_add' _ _ _ hcq, div_eq_div_iff hsq hcq]

/-- What is left of a debt is scaled like the debt where the interest on what is taken off makes
up for the misread rate. -/
theorem scaled_sub_eq_iff :
    (p - a) * c' * c = (p * c' - a * c) * s ↔ (p - a) * c' * (c - s) = a * s * (c' - c) := by
  constructor
  · intro h
    linarith
  · intro h
    linarith

theorem scaled_le_iff (hc : 0 < c) : (p : ℚ) * c' / c ≤ a ↔ p * c' ≤ a * c :=
  div_le_iff₀ (by exact_mod_cast hc)

end Scaling

/-- The reserves as the client loads them, under addresses of accounts. -/
structure KaminoMarket.Valid (market : KaminoMarket) : Prop where
  reserve : ∀ entry ∈ market.reserves, entry.2.Valid
  address : ∀ entry ∈ market.reserves, isNotNullPubkey entry.1

/-- The obligation is one of the market: its debts were accrued to rates that are not above those
of the reserves. -/
structure KaminoMarket.Holds (market : KaminoMarket) (o : Klend.Obligation) : Prop where
  distinct : o.borrows.Pairwise fun b b' ↦ b.borrowReserve ≠ 0 → b.borrowReserve ≠ b'.borrowReserve
  borrow : ∀ b ∈ o.borrows, b.borrowReserve ≠ 0 → ∃ reserve,
    market.getReserveByAddress b.borrowReserve = some reserve ∧
      b.cumulativeBorrowRateBsf.bits ≠ 0 ∧
      b.cumulativeBorrowRateBsf.bits ≤ reserve.state.liquidity.cumulativeBorrowRateBsf.bits
  deposit : ∀ d ∈ o.deposits, d.depositReserve ≠ 0 →
    ∃ reserve, market.getReserveByAddress d.depositReserve = some reserve

namespace KaminoObligation

section Rates

variable {market : KaminoMarket} {rate : KaminoReserve → Option ℚ} {keys : List Pubkey}

theorem valid_of_getReserveByAddress {key : Pubkey} {reserve : KaminoReserve}
    (hmarket : market.Valid) (h : market.getReserveByAddress key = some reserve) :
    reserve.Valid ∧ isNotNullPubkey key :=
  ⟨hmarket.reserve _ (KaminoMarket.mem_of_getReserveByAddress h),
    hmarket.address _ (KaminoMarket.mem_of_getReserveByAddress h)⟩

theorem collectRates_get {rates : PubkeyHashMap ℚ} {key : Pubkey}
    (h : collectRates market rate keys = some rates) (hkey : key ∈ keys)
    (hnull : isNotNullPubkey key) :
    rates.get key = (market.getReserveByAddress key).bind rate := by
  suffices hfold : ∀ (l : List Pubkey) (rates rates' : PubkeyHashMap ℚ),
      l.foldlM (addRate market rate) rates = some rates' → ∀ key,
        (key ∈ l ∨ rates.get key = (market.getReserveByAddress key).bind rate) →
        rates'.get key = (market.getReserveByAddress key).bind rate from
    hfold _ _ _ h key (.inl (List.mem_filter.2 ⟨hkey, hnull⟩))
  intro l
  induction l with
  | nil =>
    rintro rates rates' hrates key hkey
    rw [← Option.some.inj hrates]
    exact hkey.resolve_left List.not_mem_nil
  | cons first l ih =>
    intro rates rates' hrates key hkey
    rw [List.foldlM_cons, addRate, Option.bind_eq_bind, Option.bind_eq_some_iff] at hrates
    obtain ⟨rates₁, hrates₁, hrates⟩ := hrates
    simp only [Option.bind_eq_bind, Option.bind_eq_some_iff, Option.pure_def,
      Option.some.injEq] at hrates₁
    obtain ⟨reserve, hreserve, value, hvalue, rfl⟩ := hrates₁
    apply ih _ _ hrates key
    by_cases hfirst : key = first
    · rw [hfirst, PubkeyHashMap.get_set_self, hreserve, Option.bind_some, hvalue]
      exact .inr rfl
    · rw [PubkeyHashMap.get_set_of_ne hfirst]
      exact hkey.imp_left fun hmem ↦ (List.mem_cons.1 hmem).resolve_left hfirst

theorem exists_collectRates (hmarket : market.Valid)
    (hkeys : ∀ key ∈ keys, isNotNullPubkey key →
      ∃ reserve, market.getReserveByAddress key = some reserve)
    (hrate : ∀ reserve : KaminoReserve, reserve.Valid → ∃ value, rate reserve = some value) :
    ∃ rates, collectRates market rate keys = some rates := by
  suffices hfold : ∀ l : List Pubkey,
      (∀ key ∈ l, ∃ reserve, market.getReserveByAddress key = some reserve) →
      ∀ rates, ∃ rates', l.foldlM (addRate market rate) rates = some rates' from
    hfold _ (fun key hkey ↦ hkeys key (List.mem_filter.1 hkey).1 (List.mem_filter.1 hkey).2) []
  intro l hl
  induction l with
  | nil => exact fun rates ↦ ⟨rates, rfl⟩
  | cons first l ih =>
    intro rates
    obtain ⟨reserve, hreserve⟩ := hl first (List.mem_cons_self ..)
    obtain ⟨value, hvalue⟩ := hrate reserve (valid_of_getReserveByAddress hmarket hreserve).1
    have hstep : addRate market rate rates first = some (rates.set first value) := by
      simp [addRate, hreserve, hvalue]
    rw [List.foldlM_cons, hstep]
    exact ih (fun key hkey ↦ hl key (List.mem_cons_of_mem _ hkey)) _

end Rates

section Simulated

variable {market : KaminoMarket} {o : Klend.Obligation} {slot elevationGroup : ℕ}
  {additionalReserves : List Pubkey} {getPx : KaminoReserve → ℚ} {key : Pubkey}
  {reserve : KaminoReserve}

theorem ne_zero_of_isNotNullPubkey (h : isNotNullPubkey key) : key ≠ 0 := by
  rw [isNotNullPubkey, decide_eq_true_eq] at h
  exact h.2

/-- The rates of an obligation are those of the reserves, whatever reserves are asked for
besides. -/
theorem getRatesForObligation_spec (hmarket : market.Valid) (ho : market.Holds o) (slot : ℕ)
    (hadditional : ∀ key ∈ additionalReserves,
      ∃ reserve, market.getReserveByAddress key = some reserve) :
    ∃ rates, getRatesForObligation market (.decode o) slot additionalReserves = some rates ∧
      ∀ d ∈ (Obligation.decode o).deposits, isNotNullPubkey d.depositReserve →
        rates.collateralExchangeRates.get d.depositReserve =
          (market.getReserveByAddress d.depositReserve).bind
            (·.getEstimatedCollateralExchangeRate slot (market.state.referralFeeBps : ℕ)) := by
  obtain ⟨exchangeRates, hexchange⟩ := @exists_collectRates market
    (·.getEstimatedCollateralExchangeRate slot (market.state.referralFeeBps : ℕ))
    ((Obligation.decode o).deposits.map ObligationCollateral.depositReserve ++ additionalReserves)
    hmarket
    (by
      intro key hkey hnull
      rcases List.mem_append.1 hkey with hkey | hkey
      · simp only [Obligation.decode, List.map_map, List.mem_map] at hkey
        obtain ⟨d, hd, rfl⟩ := hkey
        exact ho.deposit d hd (ne_zero_of_isNotNullPubkey hnull)
      · exact hadditional key hkey)
    (fun reserve hreserve ↦ (hreserve.exists_exchangeRate slot _).imp fun _ h ↦ h.1)
  obtain ⟨borrowRates, hborrow⟩ := @exists_collectRates market
    (·.getEstimatedCumulativeBorrowRate slot (market.state.referralFeeBps : ℕ))
    ((Obligation.decode o).borrows.map ObligationLiquidity.borrowReserve ++ additionalReserves)
    hmarket
    (by
      intro key hkey hnull
      rcases List.mem_append.1 hkey with hkey | hkey
      · simp only [Obligation.decode, List.map_map, List.mem_map] at hkey
        obtain ⟨b, hb, rfl⟩ := hkey
        exact (ho.borrow b hb (ne_zero_of_isNotNullPubkey hnull)).imp fun _ h ↦ h.1
      · exact hadditional key hkey)
    (fun reserve hreserve ↦ (hreserve.exists_cumulativeBorrowRate slot _).imp fun _ h ↦ h.1)
  refine ⟨⟨exchangeRates, borrowRates⟩, ?_, fun d hd ↦ collectRates_get hexchange ?_⟩
  · rw [getRatesForObligation, getCollateralExchangeRatesForObligation, hexchange,
      getCumulativeBorrowRatesForObligation, hborrow]
    rfl
  · exact List.mem_append_left _ (List.mem_map_of_mem hd)

theorem exists_deposited {rates : PubkeyHashMap ℚ} {slot : ℕ} (hmarket : market.Valid)
    (ho : market.Holds o)
    (hgroup : ∀ d ∈ o.deposits, isNotNullPubkey d.depositReserve → elevationGroup ≤ 32)
    (hget : ∀ d ∈ (Obligation.decode o).deposits, isNotNullPubkey d.depositReserve →
      rates.get d.depositReserve = (market.getReserveByAddress d.depositReserve).bind
        (·.getEstimatedCollateralExchangeRate slot (market.state.referralFeeBps : ℕ))) :
    ∃ stats, calculateObligationDeposits market elevationGroup getPx
      (Obligation.decode o).deposits (some rates) = some stats := by
  apply exists_calculateObligationDeposits
  intro d hd hnull
  obtain ⟨d, hd', rfl⟩ := List.mem_map.1 hd
  obtain ⟨other, hother⟩ := ho.deposit d hd' (ne_zero_of_isNotNullPubkey hnull)
  obtain ⟨rate, hrate, -⟩ := (valid_of_getReserveByAddress hmarket hother).1.exists_exchangeRate
    slot (market.state.referralFeeBps : ℕ)
  refine ⟨hgroup d hd' hnull, other, positionOf getPx other (d.depositedAmount / rate),
    hother, ?_⟩
  have hrate' := hget _ hd hnull
  rw [show (ObligationCollateral.decode d).depositReserve = d.depositReserve from rfl, hother,
    Option.bind_some, hrate] at hrate'
  rw [depositPosition, KaminoMarket.address_of_getReserveByAddress hother, hrate']
  rfl

/-- The positions of the deposits depend on the rates of their reserves only. -/
theorem calculateObligationDeposits_congr {deposits : List ObligationCollateral}
    {rates rates' : PubkeyHashMap ℚ}
    (h : ∀ d ∈ deposits, isNotNullPubkey d.depositReserve →
      rates.get d.depositReserve = rates'.get d.depositReserve) :
    calculateObligationDeposits market elevationGroup getPx deposits (some rates) =
      calculateObligationDeposits market elevationGroup getPx deposits (some rates') := by
  have hstep : ∀ d ∈ deposits, ∀ stats,
      addDeposit market elevationGroup getPx (some rates) stats d =
        addDeposit market elevationGroup getPx (some rates') stats d := by
    intro d hd stats
    by_cases hnull : isNotNullPubkey d.depositReserve
    · rcases hreserve : market.getReserveByAddress d.depositReserve with - | reserve
      · rw [addDeposit, addDeposit, if_pos hnull, if_pos hnull, hreserve]
        rfl
      · have hposition : depositPosition getPx (some rates) reserve d =
            depositPosition getPx (some rates') reserve d := by
          rw [depositPosition, depositPosition,
            KaminoMarket.address_of_getReserveByAddress hreserve, h d hd hnull]
        rw [addDeposit, addDeposit, if_pos hnull, if_pos hnull, hreserve, Option.bind_eq_bind,
          Option.bind_some, hposition]
        rfl
    · rw [addDeposit_of_null hnull, addDeposit_of_null hnull]
  suffices hfold : ∀ stats,
      deposits.foldlM (addDeposit market elevationGroup getPx (some rates)) stats =
        deposits.foldlM (addDeposit market elevationGroup getPx (some rates')) stats by
    rw [calculateObligationDeposits, hfold, calculateObligationDeposits]
  clear h
  induction deposits with
  | nil => exact fun stats ↦ rfl
  | cons d deposits ih =>
    intro stats
    have htail := ih fun d' hd' ↦ hstep d' (List.mem_cons_of_mem _ hd')
    rw [List.foldlM_cons, List.foldlM_cons, hstep d (List.mem_cons_self ..)]
    exact congrArg _ (funext htail)

/-- Reserves that the obligation does not hold leave the totals of its deposits alone. -/
theorem exists_deposited_of_additional {group : ℕ} {getPx : KaminoReserve → ℚ}
    (hmarket : market.Valid) (ho : market.Holds o) (hgroup : group ≤ 32) (slot : ℕ)
    (hadditional : ∀ key ∈ additionalReserves,
      ∃ reserve, market.getReserveByAddress key = some reserve) :
    ∃ rates rates' deposited,
      getRatesForObligation market (.decode o) slot [] = some rates ∧
      getRatesForObligation market (.decode o) slot additionalReserves = some rates' ∧
      calculateObligationDeposits market group getPx (Obligation.decode o).deposits
        (some rates.collateralExchangeRates) = some deposited ∧
      calculateObligationDeposits market group getPx (Obligation.decode o).deposits
        (some rates'.collateralExchangeRates) = some deposited := by
  obtain ⟨rates, hrates, hget⟩ :=
    @getRatesForObligation_spec market o [] hmarket ho slot nofun
  obtain ⟨rates', hrates', hget'⟩ := getRatesForObligation_spec hmarket ho slot hadditional
  obtain ⟨deposited, hdeposited⟩ := @exists_deposited market o group getPx
    rates.collateralExchangeRates slot hmarket ho (fun _ _ _ ↦ hgroup) hget
  refine ⟨rates, rates', deposited, hrates, hrates', hdeposited, ?_⟩
  rw [← hdeposited]
  exact calculateObligationDeposits_congr fun d hd hnull ↦
    (hget' d hd hnull).trans (hget d hd hnull).symm

/-- The sum that the client reads as the rate of a debt. -/
def limbSum (rate : BigFraction) : ℕ :=
  ((Digits.digits (2 ^ 64) 4 rate.bits).map Fin.val).sum

section LimbSum

variable {rate : BigFraction}

theorem value_limbs : Digits.value (Digits.digits (2 ^ 64) 4 rate.bits) = rate.bits :=
  Digits.value_digits (rate.isLt.trans_eq (by norm_num))

theorem limbSum_le : limbSum rate ≤ rate.bits := by
  have hle := Digits.sum_le_value (Digits.digits (2 ^ 64) 4 rate.bits)
  rwa [value_limbs] at hle

theorem limbSum_pos (h : rate.bits ≠ 0) : 0 < limbSum rate := by
  apply Digits.sum_pos
  rwa [value_limbs]

theorem limbSum_eq_iff : limbSum rate = rate.bits ↔ rate.bits < 2 ^ 64 := by
  have hiff := @Digits.sum_eq_value_iff (2 ^ 64) (by norm_num)
    (Digits.digits (2 ^ 64) 4 rate.bits)
  rwa [value_limbs] at hiff

end LimbSum

theorem borrowPosition_eq {borrow : ObligationLiquidity}
    (hrate : borrow.cumulativeBorrowRateBsf.sum < 2 ^ 256)
    (hamount : borrow.borrowedAmountSf < 2 ^ 256) :
    borrowPosition getPx none reserve borrow = some (positionOf getPx reserve
      (sfToDecimal borrow.borrowedAmountSf * reserve.getCumulativeBorrowRate /
        sfToDecimal borrow.cumulativeBorrowRateBsf.sum)) := by
  rw [borrowPosition, getCumulativeBorrowRate, List.sum_reverse, toDecimal_eq hrate,
    getBorrowAmount, toDecimal_eq hamount]
  rfl

theorem borrowPosition_decode (b : Klend.ObligationLiquidity) {bits : ℕ} (h : bits < 2 ^ 256) :
    borrowPosition getPx none reserve
        { ObligationLiquidity.decode b with borrowedAmountSf := bits } =
      some (positionOf getPx reserve (sfToDecimal bits * reserve.getCumulativeBorrowRate /
        sfToDecimal (limbSum b.cumulativeBorrowRateBsf))) :=
  borrowPosition_eq (limbSum_le.trans_lt b.cumulativeBorrowRateBsf.isLt) h

/-- The position of the debt that is stored under a key. -/
def storedPosition (market : KaminoMarket) (o : Klend.Obligation) (key : Pubkey) :
    Option Position := do
  let reserve ← market.getReserveByAddress key
  let b ← o.borrows.find? (·.borrowReserve = key)
  borrowPosition getOraclePx none reserve (.decode b)

theorem storedPosition_spec (ho : market.Holds o) {borrow : ObligationLiquidity}
    (h : borrow ∈ (Obligation.decode o).borrows) (hnull : isNotNullPubkey borrow.borrowReserve) :
    ∃ reserve position, market.getReserveByAddress borrow.borrowReserve = some reserve ∧
      borrowPosition getOraclePx none reserve borrow = some position ∧
      storedPosition market o borrow.borrowReserve = some position := by
  obtain ⟨b, hb, rfl⟩ := List.mem_map.1 h
  have hne : b.borrowReserve ≠ 0 := ne_zero_of_isNotNullPubkey hnull
  obtain ⟨reserve, hreserve, -⟩ := ho.borrow b hb hne
  obtain ⟨position, hposition⟩ : ∃ position,
      borrowPosition getOraclePx none reserve (.decode b) = some position :=
    ⟨_, borrowPosition_decode b (b.borrowedAmountSf.isLt.trans (by norm_num))⟩
  have hfind := SlotTable.find?_key_of_pairwise ho.distinct hb hne
  have hstored : storedPosition market o b.borrowReserve = some position := by
    rw [storedPosition, hreserve, Option.bind_eq_bind, Option.bind_some, hfind,
      Option.bind_eq_bind, Option.bind_some, hposition]
  exact ⟨reserve, position, hreserve, hposition, hstored⟩

/-- The simulation shows a debt to the reserve, and every other position as it was. -/
def ShowsDebt (market : KaminoMarket) (obligation : Obligation) (params : SimulationParams)
    (reserve : Pubkey) (debt : ℚ) : Prop :=
  ∃ rates unchanged simulated position,
    getRatesForObligation market obligation params.slot [] = some rates ∧
    calculatePositions market (params.elevationGroupOverride.getD obligation.elevationGroup)
      getOraclePx obligation.deposits obligation.borrows rates.collateralExchangeRates none =
        some unchanged ∧
    getSimulatedObligationStats market obligation params = some simulated ∧
    simulated.borrows.get reserve = some position ∧ position.amount = debt ∧
    simulated.deposits = unchanged.deposits ∧
    ∀ key, key ≠ reserve → simulated.borrows.get key = unchanged.borrows.get key

variable {params : SimulationParams} {mint : Pubkey}

/-- The mints that are given have reserves, and the group exists. -/
structure ParamsValid (market : KaminoMarket) (o : Klend.Obligation) (params : SimulationParams) :
    Prop where
  mintCollateral : ∀ mint ∈ params.mintCollateral,
    ∃ reserve, market.getReserveByMint mint = some reserve
  elevationGroup : params.elevationGroupOverride.getD (Obligation.decode o).elevationGroup ≤ 32

theorem exists_collateralReserve (hparams : ParamsValid market o params) :
    ∃ collateralReserve, reserveOfMint market params.mintCollateral = some collateralReserve ∧
      ∀ reserve ∈ collateralReserve,
        market.getReserveByAddress reserve.address = some reserve := by
  rcases hgiven : params.mintCollateral with - | mint
  · exact ⟨none, rfl, fun _ h ↦ absurd h (Option.not_mem_none _)⟩
  · obtain ⟨reserve, hreserve⟩ := hparams.mintCollateral mint hgiven
    refine ⟨some reserve, by rw [reserveOfMint, hreserve]; rfl, ?_⟩
    intro other hother
    rw [← Option.mem_some_iff.1 hother]
    exact KaminoMarket.getReserveByAddress_of_mint hreserve

/-- Where the debts to one reserve are replaced, its position is that of the new ones, and every
other position is as it was. -/
theorem exists_borrowed_of_changed {group : ℕ} (hmarket : market.Valid) (ho : market.Holds o)
    (haddress : market.getReserveByAddress reserve.address = some reserve)
    {borrows : List ObligationLiquidity} {position : Position}
    (hchanged : ∀ borrow ∈ borrows, borrow.borrowReserve = reserve.address →
      borrowPosition getOraclePx none reserve borrow = some position)
    (hother : ∀ borrow, borrow.borrowReserve ≠ reserve.address →
      isNotNullPubkey borrow.borrowReserve →
      (borrow ∈ borrows ↔ borrow ∈ (Obligation.decode o).borrows))
    (hmem : reserve.address ∈ borrows.map ObligationLiquidity.borrowReserve) :
    ∃ borrowed borrowed',
      calculateObligationBorrows market group getOraclePx (Obligation.decode o).borrows none =
        some borrowed ∧
      calculateObligationBorrows market group getOraclePx borrows none = some borrowed' ∧
      borrowed'.borrows.get reserve.address = some position ∧
      ∀ key, key ≠ reserve.address → borrowed'.borrows.get key = borrowed.borrows.get key := by
  have hnull := (valid_of_getReserveByAddress hmarket haddress).2
  obtain ⟨borrowed, hborrowed, hstored⟩ := @calculateObligationBorrows_spec market group
    getOraclePx none (Obligation.decode o).borrows (storedPosition market o)
    fun borrow hborrow hnull ↦ storedPosition_spec ho hborrow hnull
  obtain ⟨borrowed', hborrowed', hshown⟩ := @calculateObligationBorrows_spec market group
    getOraclePx none borrows
    (Function.update (storedPosition market o) reserve.address (some position))
    (by
      intro borrow hborrow hnull
      by_cases hkey : borrow.borrowReserve = reserve.address
      · rw [hkey, Function.update_self]
        exact ⟨reserve, position, haddress, hchanged borrow hborrow hkey, rfl⟩
      · rw [Function.update_of_ne hkey]
        exact storedPosition_spec ho ((hother borrow hkey hnull).1 hborrow) hnull)
  refine ⟨borrowed, borrowed', hborrowed, hborrowed', ?_, fun key hkey ↦ ?_⟩
  · rw [hshown, if_pos ⟨hnull, hmem⟩, Function.update_self]
  · rw [hshown, hstored, Function.update_of_ne hkey]
    refine if_congr (and_congr_right fun hkeyNull ↦ ?_) rfl rfl
    rw [List.mem_map, List.mem_map]
    constructor
    · rintro ⟨borrow, hborrow, rfl⟩
      exact ⟨borrow, (hother borrow hkey hkeyNull).1 hborrow, rfl⟩
    · rintro ⟨borrow, hborrow, rfl⟩
      exact ⟨borrow, (hother borrow hkey hkeyNull).2 hborrow, rfl⟩

/-- Where the action changes the debt to one reserve only, that is what the simulation shows. -/
theorem showsDebt_iff_of_action (hmarket : market.Valid) (ho : market.Holds o)
    (hparams : ParamsValid market o params) (hmint : params.mintDebt = some mint)
    (hreserve : market.getReserveByMint mint = some reserve) {borrows : List ObligationLiquidity}
    {position : Position}
    (haction : ∀ rates collateralReserve,
      simulateAction (.decode o) params rates collateralReserve (some reserve) =
        some ((Obligation.decode o).deposits, borrows))
    (hchanged : ∀ borrow ∈ borrows, borrow.borrowReserve = reserve.address →
      borrowPosition getOraclePx none reserve borrow = some position)
    (hother : ∀ borrow, borrow.borrowReserve ≠ reserve.address →
      isNotNullPubkey borrow.borrowReserve →
      (borrow ∈ borrows ↔ borrow ∈ (Obligation.decode o).borrows))
    (hmem : reserve.address ∈ borrows.map ObligationLiquidity.borrowReserve) (debt : ℚ) :
    ShowsDebt market (.decode o) params reserve.address debt ↔ position.amount = debt := by
  have haddress := KaminoMarket.getReserveByAddress_of_mint hreserve
  obtain ⟨collateralReserve, hcollateral, hadditional⟩ := exists_collateralReserve hparams
  have hreserves : ∀ key ∈ (collateralReserve.toList ++ [reserve]).map KaminoReserve.address,
      ∃ reserve, market.getReserveByAddress key = some reserve := by
    intro key hkey
    obtain ⟨other, hother, rfl⟩ := List.mem_map.1 hkey
    rcases List.mem_append.1 hother with hother | hother
    · exact ⟨other, hadditional other (Option.mem_toList.1 hother)⟩
    · rw [List.mem_singleton.1 hother]
      exact ⟨reserve, haddress⟩
  obtain ⟨rates, rates', deposited, hrates, hrates', hdeposited, hdeposited'⟩ :=
    @exists_deposited_of_additional market o _ _ getOraclePx hmarket ho hparams.elevationGroup
      params.slot hreserves
  obtain ⟨borrowed, borrowed', hborrowed, hborrowed', hposition, hothers⟩ :=
    exists_borrowed_of_changed hmarket ho haddress hchanged hother hmem
  obtain ⟨unchanged, hunchanged, hunchangedEq⟩ : ∃ unchanged : Positions,
      calculatePositions market
        (params.elevationGroupOverride.getD (Obligation.decode o).elevationGroup) getOraclePx
        (Obligation.decode o).deposits (Obligation.decode o).borrows rates.collateralExchangeRates
        none = some unchanged ∧
      unchanged.borrows = borrowed.borrows ∧ unchanged.deposits = deposited.deposits := by
    rw [calculatePositions, hdeposited, Option.bind_eq_bind, Option.bind_some, hborrowed]
    exact ⟨_, rfl, rfl, rfl⟩
  obtain ⟨simulated, hsimulated, hsimulatedEq⟩ : ∃ simulated : Positions,
      getSimulatedObligationStats market (.decode o) params = some simulated ∧
      simulated.borrows = borrowed'.borrows ∧ simulated.deposits = deposited.deposits := by
    have hdebt : reserveOfMint market params.mintDebt = some (some reserve) := by
      rw [hmint, reserveOfMint, hreserve, Option.map_some]
    simp only [getSimulatedObligationStats, hcollateral, hdebt, Option.bind_eq_bind,
      Option.bind_some, Option.toList_some, hrates', haction, calculatePositions, hdeposited',
      hborrowed', Option.pure_def]
    exact ⟨_, rfl, rfl, rfl⟩
  rw [← hsimulatedEq.1] at hposition hothers
  constructor
  · rintro ⟨_, _, simulated', position', -, -, hsimulated', hposition', hdebt, -⟩
    obtain rfl := Option.some.inj (hsimulated.symm.trans hsimulated')
    obtain rfl := Option.some.inj (hposition.symm.trans hposition')
    exact hdebt
  · intro hdebt
    exact ⟨rates, unchanged, simulated, position, hrates, hunchanged, hsimulated, hposition,
      hdebt, hsimulatedEq.2.trans hunchangedEq.2.symm,
      fun key hkey ↦ (hothers key hkey).trans (by rw [hunchangedEq.1])⟩

/-- The action changes the debt by a number of either sign. -/
def ChangesDebt (params : SimulationParams) (change : ℚ) : Prop :=
  ∃ amount, params.amountDebt = some amount ∧
    (params.action = .borrow ∧ change = numberOf amount ∨
      params.action = .repay ∧ change = numberOf (-amount))

variable {change debt : ℚ} {b : Klend.ObligationLiquidity}

theorem ChangesDebt.simulateAction (h : ChangesDebt params change) (obligation : Obligation)
    (rates : PubkeyHashMap ℚ) (collateralReserve : Option KaminoReserve)
    (reserve : KaminoReserve) :
    simulateAction obligation params rates collateralReserve (some reserve) =
      (simulateBorrowChange obligation.borrows change reserve.address
        reserve.getCumulativeBorrowRate).map (Prod.mk obligation.deposits) := by
  obtain ⟨amount, hamount, ⟨haction, rfl⟩ | ⟨haction, rfl⟩⟩ := h
  · simp only [KaminoObligation.simulateAction, haction, hamount, Option.bind_eq_bind,
      Option.bind_some, one_mul]
    rw [Option.map_eq_bind]
    rfl
  · simp only [KaminoObligation.simulateAction, haction, hamount, Option.bind_eq_bind,
      Option.bind_some, neg_one_mul]
    rw [Option.map_eq_bind]
    rfl

theorem not_showsDebt {obligation : Obligation} (haction : ChangesDebt params change)
    (hmint : params.mintDebt = some mint) (hreserve : market.getReserveByMint mint = some reserve)
    (h : simulateBorrowChange obligation.borrows change reserve.address
      reserve.getCumulativeBorrowRate = none) :
    ¬ ShowsDebt market obligation params reserve.address debt := by
  rintro ⟨rates, unchanged, simulated, position, -, -, hsimulated, -⟩
  have hdebt : reserveOfMint market params.mintDebt = some (some reserve) := by
    rw [hmint, reserveOfMint, hreserve, Option.map_some]
  simp [getSimulatedObligationStats, hdebt, haction.simulateAction, h] at hsimulated

variable (hmarket : market.Valid) (ho : market.Holds o) (hparams : ParamsValid market o params)
  (hmint : params.mintDebt = some mint) (hreserve : market.getReserveByMint mint = some reserve)
  (haction : ChangesDebt params change)
include hmarket ho hparams hmint hreserve haction

theorem showsDebt_of_existing
    (hfind : o.borrows.find? (·.borrowReserve = reserve.address) = some b) {bits : ℕ}
    (hbits : fromDecimal (positiveOrZero
      (sfToDecimal b.borrowedAmountSf.bits + decimalOf change)) = some bits)
    (hlt : bits < 2 ^ 256) :
    ShowsDebt market (.decode o) params reserve.address debt ↔
      sfToDecimal bits * reserve.getCumulativeBorrowRate /
        sfToDecimal (limbSum b.cumulativeBorrowRateBsf) = debt := by
  have hkey : b.borrowReserve = reserve.address := by
    simpa using List.find?_some hfind
  have hdecoded : (Obligation.decode o).borrows.find? (·.borrowReserve = reserve.address) =
      some (.decode b) := by
    rw [find?_decode, hfind, Option.map_some]
  obtain ⟨changed, hchanged⟩ : ∃ changed, changed =
      { ObligationLiquidity.decode b with borrowedAmountSf := bits } := ⟨_, rfl⟩
  have hchangedKey : changed.borrowReserve = reserve.address := by
    rw [hchanged]
    exact hkey
  have hchange : simulateBorrowChange (Obligation.decode o).borrows change reserve.address
      reserve.getCumulativeBorrowRate = some ((Obligation.decode o).borrows.map fun unchanged ↦
        if unchanged.borrowReserve = reserve.address then changed else unchanged) := by
    have hdecimal : toDecimal (ObligationLiquidity.decode b).borrowedAmountSf =
        some (sfToDecimal b.borrowedAmountSf.bits) :=
      toDecimal_eq (b.borrowedAmountSf.isLt.trans (by norm_num))
    simp only [simulateBorrowChange, hdecoded, hdecimal, hbits, hchanged, Option.bind_eq_bind,
      Option.bind_some, Option.pure_def]
  obtain ⟨amount, hamount⟩ : ∃ amount, amount =
      sfToDecimal bits * reserve.getCumulativeBorrowRate /
        sfToDecimal (limbSum b.cumulativeBorrowRateBsf) := ⟨_, rfl⟩
  have hposition : borrowPosition getOraclePx none reserve changed =
      some (positionOf getOraclePx reserve amount) := by
    rw [hchanged, hamount]
    exact borrowPosition_decode b hlt
  rw [← hamount]
  show _ ↔ (positionOf getOraclePx reserve amount).amount = debt
  apply showsDebt_iff_of_action hmarket ho hparams hmint hreserve
    fun rates collateralReserve ↦ by rw [haction.simulateAction, hchange, Option.map_some]
  · intro borrow hborrow hborrowKey
    obtain ⟨old, hold, rfl⟩ := List.mem_map.1 hborrow
    split at hborrowKey
    · next hsame =>
      rw [if_pos hsame]
      exact hposition
    · next hdiffer => exact absurd hborrowKey hdiffer
  · intro borrow hdiffer _
    constructor
    · intro hborrow
      obtain ⟨old, hold, rfl⟩ := List.mem_map.1 hborrow
      split at hdiffer
      · exact absurd hchangedKey hdiffer
      · next hother =>
        rw [if_neg hother]
        exact hold
    · intro hborrow
      exact List.mem_map.2 ⟨borrow, hborrow, if_neg hdiffer⟩
  · have hmem := List.mem_of_find?_eq_some hdecoded
    refine List.mem_map.2 ⟨changed, List.mem_map.2 ⟨_, hmem, if_pos hkey⟩, hchangedKey⟩

/-- A new debt is shown as the change, which is not negative. -/
theorem showsDebt_of_new {i bits : ℕ} (hbits : fromDecimal (decimalOf change) = some bits)
    (hlt : bits < 2 ^ 256)
    (hfind : o.borrows.find? (·.borrowReserve = reserve.address) = none)
    (hfree : o.borrows.findIdx? (·.borrowReserve = 0) = some i) :
    ShowsDebt market (.decode o) params reserve.address debt ↔ sfToDecimal bits = debt := by
  have haddress := KaminoMarket.getReserveByAddress_of_mint hreserve
  have hvalid := valid_of_getReserveByAddress hmarket haddress
  have hdecoded : (Obligation.decode o).borrows.find? (·.borrowReserve = reserve.address) =
      none := by
    rw [find?_decode, hfind, Option.map_none]
  have hdecodedFree : (Obligation.decode o).borrows.findIdx? (·.borrowReserve = 0) = some i := by
    rw [findIdx?_decode, hfree]
  obtain ⟨hi, hzero, -⟩ := List.findIdx?_eq_some_iff_getElem.1 hdecodedFree
  have hzero : (Obligation.decode o).borrows[i].borrowReserve = 0 := by simpa using hzero
  obtain ⟨added, hadded⟩ : ∃ added : ObligationLiquidity, added = {
      borrowReserve := reserve.address
      cumulativeBorrowRateBsf :=
        [reserve.state.liquidity.cumulativeBorrowRateBsf.bits, 0, 0, 0]
      borrowedAmountSf := bits } := ⟨_, rfl⟩
  have hchange : simulateBorrowChange (Obligation.decode o).borrows change reserve.address
      reserve.getCumulativeBorrowRate = some ((Obligation.decode o).borrows.set i added) := by
    have hrate : fromDecimal reserve.getCumulativeBorrowRate =
        some reserve.state.liquidity.cumulativeBorrowRateBsf.bits :=
      fromDecimal_sfToDecimal reserve.state.liquidity.cumulativeBorrowRateBsf.isLt
    simp only [simulateBorrowChange, hdecoded, hdecodedFree, hbits, hrate, hadded,
      Option.bind_eq_bind, Option.bind_some, Option.pure_def]
  have hposition : borrowPosition getOraclePx none reserve added =
      some (positionOf getOraclePx reserve (sfToDecimal bits)) := by
    have hsum : added.cumulativeBorrowRateBsf.sum =
        reserve.state.liquidity.cumulativeBorrowRateBsf.bits := by
      rw [hadded]
      simp
    have hcumulative : reserve.getCumulativeBorrowRate =
        sfToDecimal added.cumulativeBorrowRateBsf.sum := by
      rw [hsum, KaminoReserve.getCumulativeBorrowRate, bigToDecimal]
    have hne := hvalid.1.getCumulativeBorrowRate_ne_zero
    have hposition := @borrowPosition_eq getOraclePx reserve added
      (hsum ▸ reserve.state.liquidity.cumulativeBorrowRateBsf.isLt)
      (hadded ▸ hlt)
    rw [← hcumulative, mul_div_cancel_right₀ _ hne] at hposition
    rw [hposition, hadded]
  show _ ↔ (positionOf getOraclePx reserve (sfToDecimal bits)).amount = debt
  apply showsDebt_iff_of_action hmarket ho hparams hmint hreserve
    fun rates collateralReserve ↦ by rw [haction.simulateAction, hchange, Option.map_some]
  · intro borrow hborrow hborrowKey
    obtain hborrow | rfl := List.mem_or_eq_of_mem_set hborrow
    · have hnone := List.find?_eq_none.1 hdecoded borrow hborrow
      simp [hborrowKey] at hnone
    · exact hposition
  · intro borrow hdiffer hnull
    constructor
    · intro hborrow
      obtain hborrow | rfl := List.mem_or_eq_of_mem_set hborrow
      · exact hborrow
      · exact absurd (by rw [hadded]) hdiffer
    · intro hborrow
      obtain ⟨j, hj⟩ := List.mem_iff_getElem?.1 hborrow
      have hne : j ≠ i := by
        rintro rfl
        rw [List.getElem?_eq_getElem hi, Option.some.injEq] at hj
        rw [← hj, hzero] at hnull
        exact ne_zero_of_isNotNullPubkey hnull rfl
      apply List.mem_iff_getElem?.2
      exact ⟨j, by rw [List.getElem?_set_ne hne.symm, hj]⟩
  · refine List.mem_map.2 ⟨added, List.mem_set hi added, by rw [hadded]⟩

omit hmarket ho hparams hmint hreserve haction

/-- The debt to a reserve, accrued to its cumulative rate, in the client's decimals. -/
def accruedDebt (o : Klend.Obligation) (reserve : KaminoReserve) : ℚ :=
  match o.borrows.find? (·.borrowReserve = reserve.address) with
  | some b => sfToDecimal b.borrowedAmountSf.bits *
      (reserve.getCumulativeBorrowRate / bigToDecimal b.cumulativeBorrowRateBsf)
  | none => 0

/-- An amount in the unit of a slot, behind the number and the decimal that it goes through. -/
def amountSf (x : ℚ) : ℤ := round (decimalOf (numberOf x) * multiplierNumber)

/-- What a repayment leaves in a slot. -/
def leftSf (debt : ℕ) (x : ℚ) : ℤ :=
  round (max (debt - decimalOf (numberOf x) * multiplierNumber) 0)

/-- The amount comes through unchanged, and the debt was accrued to the rate of the reserve, below
sixteen, or there is none and a slot is free. Or the amount comes through as less, and this is
just what the scaling adds. -/
def ShowsBorrow (o : Klend.Obligation) (reserve : KaminoReserve) (x : ℚ) : Prop :=
  match o.borrows.find? (·.borrowReserve = reserve.address) with
  | some b =>
    let debt := b.borrowedAmountSf.bits
    let rate := b.cumulativeBorrowRateBsf.bits
    let reserveRate := reserve.state.liquidity.cumulativeBorrowRateBsf.bits
    let sum := limbSum b.cumulativeBorrowRateBsf
    debt + amountSf x < 2 ^ 256 ∧
      ((amountSf x : ℚ) = x * multiplierNumber ∧ rate = reserveRate ∧ rate < 2 ^ 64 ∨
      (amountSf x : ℚ) < x * multiplierNumber ∧ ((debt : ℚ) + amountSf x) * reserveRate * rate =
        (debt * reserveRate + x * multiplierNumber * rate) * sum)
  | none => (∃ b ∈ o.borrows, b.borrowReserve = 0) ∧ amountSf x < 2 ^ 256 ∧
      (amountSf x : ℚ) = x * multiplierNumber

/-- The repayment covers the stored debt and the accrued one. Or something is left, and the
interest on the amount is what this gains by the sum of the limbs: below sixteen, none. -/
def ShowsRepay (o : Klend.Obligation) (reserve : KaminoReserve) (x : ℚ) : Prop :=
  let amount := x * multiplierNumber
  match o.borrows.find? (·.borrowReserve = reserve.address) with
  | some b =>
    let debt : ℚ := b.borrowedAmountSf.bits
    let rate : ℚ := b.cumulativeBorrowRateBsf.bits
    let reserveRate : ℚ := reserve.state.liquidity.cumulativeBorrowRateBsf.bits
    let sum : ℚ := limbSum b.cumulativeBorrowRateBsf
    let left : ℚ := leftSf b.borrowedAmountSf.bits x
    if left = 0 then debt * reserveRate ≤ amount * rate
    else if left = debt - amount then
      (debt - amount) * reserveRate * (rate - sum) = amount * sum * (reserveRate - rate)
    else left * reserveRate * rate = (debt * reserveRate - amount * rate) * sum
  | none => (∃ b ∈ o.borrows, b.borrowReserve = 0) ∧
      decimalOf (numberOf x) * multiplierNumber < 1 / 2

section Shown

variable {x : ℚ}

theorem showsRepay_of_find
    (hfind : o.borrows.find? (·.borrowReserve = reserve.address) = some b)
    (hne : leftSf b.borrowedAmountSf.bits x ≠ 0)
    (hleft : (leftSf b.borrowedAmountSf.bits x : ℚ) =
      b.borrowedAmountSf.bits - x * multiplierNumber)
    (hrate : b.cumulativeBorrowRateBsf = reserve.state.liquidity.cumulativeBorrowRateBsf)
    (hlt : b.cumulativeBorrowRateBsf.bits < 2 ^ 64) : ShowsRepay o reserve x := by
  rw [ShowsRepay, hfind]
  dsimp only
  rw [if_neg (by exact_mod_cast hne), if_pos hleft, limbSum_eq_iff.2 hlt, hrate, sub_self, mul_zero,
    mul_zero]

theorem accruedDebt_eq (hfind : o.borrows.find? (·.borrowReserve = reserve.address) = some b) :
    accruedDebt o reserve = (b.borrowedAmountSf.bits : ℚ) *
      reserve.state.liquidity.cumulativeBorrowRateBsf.bits / b.cumulativeBorrowRateBsf.bits /
        multiplierNumber := by
  rw [accruedDebt, hfind]
  exact accrued_eq multiplierNumber_pos.ne' _

theorem decimalOf_numberOf_pos (hx : 0 < x) :
    0 < decimalOf (numberOf x) * multiplierNumber :=
  mul_pos (decimalOf_pos (numberOf_pos hx)) multiplierNumber_pos

theorem amountSf_nonneg (hx : 0 < x) : 0 ≤ amountSf x := round_nonneg (decimalOf_numberOf_pos hx).le

theorem leftSf_nonneg (debt : ℕ) : 0 ≤ leftSf debt x := round_nonneg (le_max_right _ _)

theorem leftSf_le (hx : 0 < x) (debt : ℕ) : leftSf debt x ≤ debt := by
  rw [leftSf, ← round_intCast (debt : ℤ)]
  apply round_mono
  exact max_le (by push_cast; linarith [decimalOf_numberOf_pos hx]) (by positivity)

theorem decimalOf_numberOf_neg (hx : 0 < x) :
    decimalOf (numberOf (-x)) = -decimalOf (numberOf x) := by
  rw [numberOf_neg, decimalOf_neg (numberOf_pos hx)]

theorem fromDecimal_borrow (hx : 0 < x) (debt : ℕ) :
    fromDecimal (positiveOrZero (sfToDecimal debt + decimalOf (numberOf x))) =
      newFraction (debt + amountSf x) := by
  have hamount := decimalOf_pos (numberOf_pos hx)
  rw [fromDecimal, positiveOrZero,
    max_eq_left (add_nonneg (sfToDecimal_nonneg debt) hamount.le), add_mul, sfToDecimal,
    div_mul_cancel₀ _ multiplierNumber_pos.ne',
    round_natCast_add (decimalOf_numberOf_pos hx).le, amountSf]

theorem fromDecimal_repay (hx : 0 < x) (debt : ℕ) :
    fromDecimal (positiveOrZero (sfToDecimal debt + decimalOf (numberOf (-x)))) =
      newFraction (leftSf debt x) := by
  rw [fromDecimal, positiveOrZero, decimalOf_numberOf_neg hx, ← sub_eq_add_neg,
    max_mul_of_nonneg _ _ multiplierNumber_pos.le, sub_mul, sfToDecimal,
    div_mul_cancel₀ _ multiplierNumber_pos.ne', zero_mul, leftSf]

theorem rates_of_find (hmarket : market.Valid) (ho : market.Holds o)
    (hreserve : market.getReserveByMint mint = some reserve)
    (hfind : o.borrows.find? (·.borrowReserve = reserve.address) = some b) :
    b.cumulativeBorrowRateBsf.bits ≠ 0 ∧ b.cumulativeBorrowRateBsf.bits ≤
      reserve.state.liquidity.cumulativeBorrowRateBsf.bits := by
  have haddress := KaminoMarket.getReserveByAddress_of_mint hreserve
  have hnull := (valid_of_getReserveByAddress hmarket haddress).2
  have hkey : b.borrowReserve = reserve.address := by
    simpa using List.find?_some hfind
  obtain ⟨reserve', hreserve', hrates⟩ :=
    ho.borrow b (List.mem_of_find?_eq_some hfind) (hkey ▸ ne_zero_of_isNotNullPubkey hnull)
  obtain rfl : reserve = reserve' := Option.some.inj (haddress.symm.trans (hkey ▸ hreserve'))
  exact hrates

theorem simulateBorrowChange_eq_none_of_existing {address : Pubkey}
    (hfind : o.borrows.find? (·.borrowReserve = address) = some b)
    (h : fromDecimal (positiveOrZero (sfToDecimal b.borrowedAmountSf.bits + decimalOf change)) =
      none) (rate : ℚ) :
    simulateBorrowChange (Obligation.decode o).borrows change address rate = none := by
  have hdecimal : toDecimal (ObligationLiquidity.decode b).borrowedAmountSf =
      some (sfToDecimal b.borrowedAmountSf.bits) :=
    toDecimal_eq (b.borrowedAmountSf.isLt.trans (by norm_num))
  rw [simulateBorrowChange, find?_decode, hfind, Option.map_some]
  simp only [hdecimal, h, Option.bind_eq_bind, Option.bind_some, Option.bind_none]

theorem simulateBorrowChange_eq_none {address : Pubkey}
    (hfind : o.borrows.find? (·.borrowReserve = address) = none)
    (h : o.borrows.findIdx? (·.borrowReserve = 0) = none ∨ fromDecimal (decimalOf change) = none)
    (rate : ℚ) :
    simulateBorrowChange (Obligation.decode o).borrows change address rate = none := by
  rw [simulateBorrowChange, find?_decode, hfind, Option.map_none]
  dsimp only
  rw [findIdx?_decode]
  rcases h with h | h
  · rw [h]
    rfl
  · rw [h]
    cases o.borrows.findIdx? (·.borrowReserve = 0) <;> rfl

include hmarket ho hparams hmint hreserve

theorem showsDebt_iff_of_new (haction : ChangesDebt params change)
    (hfind : o.borrows.find? (·.borrowReserve = reserve.address) = none) :
    ShowsDebt market (.decode o) params reserve.address debt ↔
      (∃ b ∈ o.borrows, b.borrowReserve = 0) ∧
        ∃ bits, fromDecimal (decimalOf change) = some bits ∧ sfToDecimal bits = debt := by
  rcases hfree : o.borrows.findIdx? (·.borrowReserve = 0) with - | i
  · apply iff_of_false
    · exact not_showsDebt haction hmint hreserve
        (simulateBorrowChange_eq_none hfind (.inl hfree) _)
    · rintro ⟨⟨b, hb, hzero⟩, -⟩
      have hused := List.findIdx?_eq_none_iff.1 hfree b hb
      simp [hzero] at hused
  · obtain ⟨hlt, hzero, -⟩ := List.findIdx?_eq_some_iff_getElem.1 hfree
    have hslot : ∃ b ∈ o.borrows, b.borrowReserve = 0 :=
      ⟨_, List.getElem_mem hlt, by simpa using hzero⟩
    rw [and_iff_right hslot]
    rcases hbits : fromDecimal (decimalOf change) with - | bits
    · apply iff_of_false
      · exact not_showsDebt haction hmint hreserve
          (simulateBorrowChange_eq_none hfind (.inr hbits) _)
      · rintro ⟨_, heq, -⟩
        cases heq
    · rw [showsDebt_of_new hmarket ho hparams hmint hreserve haction hbits
        (newFraction_lt hbits) hfind hfree]
      simp

theorem showsBorrow_iff (hx : 0 < x) (haction : ChangesDebt params (numberOf x)) :
    ShowsDebt market (.decode o) params reserve.address (accruedDebt o reserve + x) ↔
      ShowsBorrow o reserve x := by
  have hnonneg := amountSf_nonneg hx
  rcases hfind : o.borrows.find? (·.borrowReserve = reserve.address) with - | b
  · rw [showsDebt_iff_of_new hmarket ho hparams hmint hreserve haction hfind, accruedDebt,
      ShowsBorrow, hfind]
    dsimp only
    rw [zero_add, fromDecimal, ← amountSf]
    apply and_congr_right
    intro _
    by_cases hlt : amountSf x < 2 ^ 256
    · rw [newFraction_eq hnonneg hlt, and_iff_right hlt]
      simp only [Option.some.injEq, exists_eq_left']
      rw [sfToDecimal, div_eq_iff multiplierNumber_pos.ne', cast_toNat hnonneg]
    · rw [newFraction_eq_none (.inr (not_lt.1 hlt))]
      simp only [reduceCtorEq, false_and, exists_false, false_iff]
      exact fun h ↦ hlt h.1
  · obtain ⟨hrate, hle⟩ := rates_of_find hmarket ho hreserve hfind
    have hsum := limbSum_pos hrate
    rw [ShowsBorrow, hfind]
    dsimp only
    have hsaved := fromDecimal_borrow hx b.borrowedAmountSf.bits
    by_cases hlt : b.borrowedAmountSf.bits + amountSf x < 2 ^ 256
    · have hdebt : 0 ≤ b.borrowedAmountSf.bits + amountSf x := by positivity
      rw [newFraction_eq hdebt hlt] at hsaved
      rw [showsDebt_of_existing hmarket ho hparams hmint hreserve haction hfind hsaved
          (newFraction_lt hsaved), and_iff_right hlt, accruedDebt_eq hfind,
        KaminoReserve.getCumulativeBorrowRate, bigToDecimal, sfToDecimal, sfToDecimal, sfToDecimal,
        shown_eq multiplierNumber_pos.ne', div_add' _ _ _ multiplierNumber_pos.ne',
        div_left_inj' multiplierNumber_pos.ne', cast_toNat hdebt, Int.cast_add, Int.cast_natCast]
      rcases lt_trichotomy (amountSf x : ℚ) (x * multiplierNumber) with hless | hsame | hmore
      · rw [or_iff_right fun h ↦ hless.ne h.1, and_iff_right hless,
          scaled_eq_iff hsum (Nat.pos_of_ne_zero hrate)]
      · rw [or_iff_left fun h ↦ h.1.ne hsame, and_iff_right hsame, hsame,
          scaled_add_eq_iff (mul_pos hx multiplierNumber_pos) hsum limbSum_le hle, limbSum_eq_iff]
      · apply iff_of_false
        · exact (lt_scaled_add hmore (by exact_mod_cast hnonneg) hsum limbSum_le hle).ne'
        · rintro (h | h)
          · exact hmore.ne' h.1
          · exact lt_asymm hmore h.1
    · apply iff_of_false
      · rw [newFraction_eq_none (.inr (not_lt.1 hlt))] at hsaved
        exact not_showsDebt haction hmint hreserve
          (simulateBorrowChange_eq_none_of_existing hfind hsaved _)
      · exact fun h ↦ hlt h.1

theorem showsRepay_iff (hx : 0 < x) (haction : ChangesDebt params (numberOf (-x))) :
    ShowsDebt market (.decode o) params reserve.address
      (max (accruedDebt o reserve - x) 0) ↔ ShowsRepay o reserve x := by
  rcases hfind : o.borrows.find? (·.borrowReserve = reserve.address) with - | b
  · rw [showsDebt_iff_of_new hmarket ho hparams hmint hreserve haction hfind, accruedDebt,
      ShowsRepay, hfind]
    dsimp only
    rw [zero_sub, max_eq_right (neg_nonpos.2 hx.le), decimalOf_numberOf_neg hx, fromDecimal,
      neg_mul, ← round_neg_eq_zero (decimalOf_numberOf_pos hx)]
    apply and_congr_right
    intro _
    have hnonpos : round (-(decimalOf (numberOf x) * multiplierNumber)) ≤ 0 := by
      rw [← round_zero]
      exact round_mono (neg_nonpos.2 (decimalOf_numberOf_pos hx).le)
    constructor
    · rintro ⟨bits, hbits, -⟩
      by_contra hne
      rw [newFraction_eq_none (.inl (lt_of_le_of_ne hnonpos hne))] at hbits
      cases hbits
    · intro hzero
      rw [hzero]
      exact ⟨0, by decide, sfToDecimal_zero⟩
  · obtain ⟨hrate, hle⟩ := rates_of_find hmarket ho hreserve hfind
    have hsum := limbSum_pos hrate
    have hpos := Nat.pos_of_ne_zero hrate
    have hleft := leftSf_nonneg (x := x) b.borrowedAmountSf.bits
    have hlt : leftSf b.borrowedAmountSf.bits x < 2 ^ 256 := by
      have hdebt := leftSf_le hx b.borrowedAmountSf.bits
      have hfits := b.borrowedAmountSf.isLt
      omega
    have hsaved := fromDecimal_repay hx b.borrowedAmountSf.bits
    rw [newFraction_eq hleft hlt] at hsaved
    rw [showsDebt_of_existing hmarket ho hparams hmint hreserve haction hfind hsaved
        (newFraction_lt hsaved), accruedDebt_eq hfind, ShowsRepay, hfind,
      KaminoReserve.getCumulativeBorrowRate, bigToDecimal, sfToDecimal, sfToDecimal, sfToDecimal,
      shown_eq multiplierNumber_pos.ne', div_sub' multiplierNumber_pos.ne', cast_toNat hleft,
      mul_comm (multiplierNumber : ℚ) x]
    dsimp only
    generalize hamount : x * (multiplierNumber : ℚ) = amount
    split
    · next hzero =>
      rw [hzero, zero_mul, zero_div, zero_div, eq_comm, max_eq_right_iff,
        div_le_iff₀ multiplierNumber_pos, zero_mul, sub_nonpos, scaled_le_iff hpos]
    · next hne =>
      have hshown : 0 < (leftSf b.borrowedAmountSf.bits x : ℚ) *
          reserve.state.liquidity.cumulativeBorrowRateBsf.bits /
            limbSum b.cumulativeBorrowRateBsf / multiplierNumber := by
        have hleft : (0 : ℚ) < leftSf b.borrowedAmountSf.bits x :=
          lt_of_le_of_ne (by exact_mod_cast hleft) (Ne.symm hne)
        have hreserveRate : (0 : ℚ) < reserve.state.liquidity.cumulativeBorrowRateBsf.bits := by
          exact_mod_cast hpos.trans_le hle
        have hsum : (0 : ℚ) < limbSum b.cumulativeBorrowRateBsf := by exact_mod_cast hsum
        have := multiplierNumber_pos
        positivity
      have hmax {y z : ℚ} (hz : 0 < z) : z = max y 0 ↔ z = y := by
        constructor
        · intro h
          rcases max_choice y 0 with hy | hzero
          · exact h.trans hy
          · exact absurd (h.trans hzero) hz.ne'
        · rintro rfl
          exact (max_eq_left hz.le).symm
      rw [hmax hshown, div_left_inj' multiplierNumber_pos.ne', sub_eq_add_neg,
        scaled_eq_iff hsum hpos, neg_mul, ← sub_eq_add_neg]
      split
      · next hexact => rw [hexact, scaled_sub_eq_iff]
      · rfl

end Shown

section Recorded

variable {b b' accrued : Klend.ObligationLiquidity} {rate : BigFraction} {x : Fraction}

theorem accrueInterest_bits (h : b.accrueInterest rate = .ok b') :
    b'.borrowedAmountSf.bits =
        b.borrowedAmountSf.bits * rate.bits / b.cumulativeBorrowRateBsf.bits ∨
      b.cumulativeBorrowRateBsf.bits = 0 := by
  unfold Klend.ObligationLiquidity.accrueInterest at h
  split at h
  · simp at h
  · split at h
    · next heq =>
      rw [pure_eq_ok] at h
      subst h
      rw [heq]
      rcases Nat.eq_zero_or_pos b.cumulativeBorrowRateBsf.bits with hzero | hpos
      · exact .inr hzero
      · exact .inl (Nat.mul_div_cancel _ hpos).symm
    · simp only [bind_eq_ok, BigFraction.ofBits_eq_ok, BigFraction.divInt_eq_ok] at h
      obtain ⟨product, hproduct, quotient, ⟨-, hquotient⟩, h⟩ := h
      split at h
      · rw [pure_eq_ok] at h
        subst h
        rw [hproduct] at hquotient
        exact .inl hquotient
      · simp at h

theorem borrow_records (hrate : b.cumulativeBorrowRateBsf.bits ≠ 0)
    (haccrue : b.accrueInterest rate = .ok accrued) (h : accrued.borrow x = .ok b') :
    b'.borrowedAmountSf.bits =
      b.borrowedAmountSf.bits * rate.bits / b.cumulativeBorrowRateBsf.bits + x.bits := by
  simp only [ObligationLiquidity.borrow, bind_eq_ok, Fraction.add_eq_ok, pure_eq_ok] at h
  obtain ⟨amount, hamount, rfl⟩ := h
  rw [hamount, (accrueInterest_bits haccrue).resolve_right hrate]

theorem repay_records (hrate : b.cumulativeBorrowRateBsf.bits ≠ 0)
    (haccrue : b.accrueInterest rate = .ok accrued) (h : accrued.repay x = .ok b') :
    b'.borrowedAmountSf.bits + x.bits =
      b.borrowedAmountSf.bits * rate.bits / b.cumulativeBorrowRateBsf.bits := by
  simp only [Klend.ObligationLiquidity.repay, bind_eq_ok, Fraction.sub_eq_ok, pure_eq_ok] at h
  obtain ⟨amount, hamount, rfl⟩ := h
  rw [← (accrueInterest_bits haccrue).resolve_right hrate, ← hamount]

end Recorded

end Simulated

section Doubled

open KaminoReserve

def oldRate : BigFraction := ⟨2 ^ 60, by decide +kernel⟩

def doubledRate : BigFraction := ⟨2 * 2 ^ 60, by decide +kernel⟩

def doubledLiquidity : ReserveLiquidity :=
  { halfBorrowedLiquidity with cumulativeBorrowRateBsf := doubledRate }

/-- A reserve whose cumulative rate has doubled. -/
def doubledReserve : KaminoReserve :=
  { halfBorrowed (.newFlat 500) with
    state := { (halfBorrowed (.newFlat 500)).state with liquidity := doubledLiquidity } }

def doubledMarket : KaminoMarket where
  state := .init
  reserves := [(5, doubledReserve)]
  reserves_nodup := List.nodup_singleton 5
  address_eq := by
    intro entry hentry
    rw [List.mem_singleton.1 hentry]
    rfl

/-- A debt that is read as 100, accrued to a rate. -/
def owedHundred (rate : BigFraction) : Klend.Obligation :=
  { (default : Klend.Obligation) with
    borrows := [{ (default : Klend.ObligationLiquidity) with
      borrowReserve := 5
      cumulativeBorrowRateBsf := rate
      borrowedAmountSf := storedAs 100 }] }

def tenParams (action : ActionType) : SimulationParams where
  amountCollateral := none
  amountDebt := some 10
  action := action
  mintCollateral := none
  mintDebt := some 1
  slot := 0
  elevationGroupOverride := none

theorem doubledMarket_valid : doubledMarket.Valid where
  reserve := by
    intro entry hentry
    rw [List.mem_singleton.1 hentry]
    have hvalid : (halfBorrowed (.newFlat 500)).Valid := halfBorrowed_valid (by decide)
    exact {
      supply := by
        obtain ⟨supply, hsupply, -⟩ := exists_eq_ok
          (show doubledLiquidity.totalSupply.toOption.any (fun _ ↦ true) = true by decide)
        exact ⟨supply, hsupply⟩
      cumulativeRate := by
        show doubledRate.bits ≠ 0
        decide
      takeRate := hvalid.takeRate
      curve := hvalid.curve
      duration := hvalid.duration
      slot := hvalid.slot }
  address := by
    intro entry hentry
    rw [List.mem_singleton.1 hentry]
    decide

theorem doubledMarket_mint : doubledMarket.getReserveByMint 1 = some doubledReserve := by
  show [doubledReserve].find? _ = _
  rw [List.find?_cons_of_pos]
  decide

theorem doubledMarket_holds {rate : BigFraction} (hne : rate.bits ≠ 0)
    (hle : rate.bits ≤ doubledRate.bits) : doubledMarket.Holds (owedHundred rate) where
  distinct := List.pairwise_singleton _ _
  borrow := by
    intro b hb _
    rw [List.mem_singleton.1 hb]
    exact ⟨doubledReserve, rfl, hne, hle⟩
  deposit := nofun

theorem tenParams_valid (action : ActionType) (rate : BigFraction) :
    ParamsValid doubledMarket (owedHundred rate) (tenParams action) where
  mintCollateral := nofun
  elevationGroup := by
    show ((0 : Word 8) : ℕ) ≤ 32
    decide

end Doubled

end KaminoObligation

end Klend.Sdk
