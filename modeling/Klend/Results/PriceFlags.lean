import Klend.Accounting.ReserveOperations
import Klend.Lending.ReserveConfigUpdates
import Klend.Lending.Runs

/-! # Price flags

Two of the flags saved with a price speak about the settings of its token: that
the price may be used, and that it is young enough. A refresh that reads a price
sets both from the settings of the moment. One that reads none asks again for the
age alone, so the other flag outlives an update that blocks the price.
-/

namespace Klend

open Relation (ReflTransGen)

namespace PriceStatusFlags

theorem contains_union_self (s flag : PriceStatusFlags) : (s.union flag).contains flag := by
  apply BitVec.eq_of_getLsbD_eq
  intro i _
  simp only [union, BitVec.getLsbD_and, BitVec.getLsbD_or]
  cases s.bits.getLsbD i <;> simp

theorem contains_union_of_disjoint {s other flag : PriceStatusFlags}
    (h : other.bits &&& flag.bits = 0#8) : (s.union other).contains flag ↔ s.contains flag := by
  simp only [contains, union, BitVec.and_or_distrib_right, h, BitVec.or_zero]

end PriceStatusFlags

namespace Prices

theorem contains_setIf_self {status flag : PriceStatusFlags} {passed : Bool}
    (h : ¬ status.contains flag) : (setIf status flag passed).contains flag ↔ passed = true := by
  cases passed with
  | true => exact iff_of_true (status.contains_union_self flag) rfl
  | false => exact iff_of_false h Bool.false_ne_true

theorem contains_setIf_of_disjoint {status other flag : PriceStatusFlags} {passed : Bool}
    (h : other.bits &&& flag.bits = 0#8) :
    (setIf status other passed).contains flag ↔ status.contains flag := by
  cases passed with
  | true => exact PriceStatusFlags.contains_union_of_disjoint h
  | false => exact Iff.rfl

theorem checkTwap_contains {status status' flag : PriceStatusFlags} {price : Fraction}
    {twap : Option TimestampedPrice} {t : TokenInfo} {ts : U64}
    (h : checkTwap status price twap t ts = .ok status')
    (htwap : PriceStatusFlags.twapChecked.bits &&& flag.bits = 0#8)
    (hage : PriceStatusFlags.twapAgeChecked.bits &&& flag.bits = 0#8) :
    status'.contains flag ↔ status.contains flag := by
  unfold checkTwap at h
  split at h
  · cases twap with
    | none => rw [pure_eq_ok.1 h]
    | some twap =>
      simp only [bind_eq_ok, pure_eq_ok] at h
      obtain ⟨inTolerance, -, rfl⟩ := h
      rw [contains_setIf_of_disjoint htwap, contains_setIf_of_disjoint hage]
  · rw [← pure_eq_ok.1 h, PriceStatusFlags.contains_union_of_disjoint hage,
      PriceStatusFlags.contains_union_of_disjoint htwap]

/-- A price that is read carries the two flags exactly when the settings of the moment say so. -/
theorem getValidatedPrice_spec {source : TimestampedPriceWithTwap} {t : TokenInfo} {clock : Clock}
    {p : GetPriceResult} (h : getValidatedPrice source t clock = .ok (some p)) :
    (p.status.contains .priceUsageAllowed ↔ t.blockPriceUsage = 0) ∧
      ∃ ts : U64, clock.timestamp = .ok ts ∧
        (p.status.contains .priceAgeChecked ↔ (ts : ℕ) ≤ p.timestamp + t.maxAgePriceSeconds) := by
  simp only [getValidatedPrice, bind_eq_ok] at h
  obtain ⟨ts, hts, h⟩ := h
  cases hload : source.price.priceLoad with
  | none => simp [hload] at h
  | some price =>
    simp only [hload, bind_eq_ok, pure_eq_ok, Option.some.injEq] at h
    obtain ⟨status, htwap, inBounds, -, rfl⟩ := h
    refine ⟨?_, ts, hts, ?_⟩
    · have hbefore : ¬ (setIf status .heuristicChecked inBounds).contains .priceUsageAllowed := by
        rw [contains_setIf_of_disjoint (by decide), checkTwap_contains htwap (by decide) (by decide),
          contains_setIf_of_disjoint (by decide)]
        decide
      rw [contains_setIf_self hbefore, decide_eq_true_eq]
    · rw [contains_setIf_of_disjoint (by decide), contains_setIf_of_disjoint (by decide),
        checkTwap_contains htwap (by decide) (by decide), contains_setIf_self (by decide),
        checkPriceAge, decide_eq_true_eq, Fin.le_def, Word.saturatingSub_val]
      exact tsub_le_iff_left

end Prices

theorem Clock.unixTimestamp_eq {clock : Clock} {ts : U64} (h : clock.timestamp = .ok ts) :
    clock.unixTimestamp = ((ts : ℕ) : ℤ) := by
  rw [timestamp_eq_ok h, Int.toNat_of_nonneg]
  unfold timestamp at h
  split at h
  · assumption
  · simp at h

namespace Reserve

/-- The flag that allows the price to be used agrees with the token's settings. -/
def UsageFlagTruthful (r : Reserve) : Prop :=
  r.lastUpdate.priceStatus.contains .priceUsageAllowed → r.config.tokenInfo.blockPriceUsage = 0

/-- What the two flags say about the reserve at the time of `clock`. -/
structure PriceFlagsTruthful (r : Reserve) (clock : Clock) : Prop where
  usage : r.UsageFlagTruthful
  age : r.lastUpdate.priceStatus.contains .priceAgeChecked →
    clock.unixTimestamp - r.liquidity.marketPriceLastUpdatedTs ≤
      ((r.config.tokenInfo.maxAgePriceSeconds : ℕ) : ℤ)

/-- The cases in which a refresh cannot save a false flag: it reads a price, or drops the saved
flags with a price that is too old, or finds them true. -/
def KeepsPriceFlagsTruthful (r : Reserve) (clock : Clock) (oracles : Option OraclePrices) : Prop :=
  (∃ o p, oracles = some o ∧ Prices.getPrice r.config.tokenInfo o clock = .ok (some p)) ∨
    isSavedPriceAgeValid r clock = .ok false ∨ r.UsageFlagTruthful

variable {r r₀ r' : Reserve} {clock : Clock} {oracles : Option OraclePrices} {bps : U16}

theorem age_lt_of_isSavedPriceAgeValid (h : isSavedPriceAgeValid r clock = .ok true) :
    clock.unixTimestamp - r.liquidity.marketPriceLastUpdatedTs <
      ((r.config.tokenInfo.maxAgePriceSeconds : ℕ) : ℤ) := by
  simp only [isSavedPriceAgeValid, bind_eq_ok, pure_eq_ok, decide_eq_true_eq, Fin.lt_def,
    Word.saturatingSub_val] at h
  obtain ⟨ts, hts, hlt⟩ := h
  have htime := Clock.unixTimestamp_eq hts
  omega

theorem refreshReserve_truthful_of_price {o : OraclePrices} {p : GetPriceResult}
    (hprice : Prices.getPrice r.config.tokenInfo o clock = .ok (some p))
    (h : refreshReserve r clock (some p) bps = .ok r') : r'.PriceFlagsTruthful clock := by
  simp only [Prices.getPrice, bind_eq_ok] at hprice
  obtain ⟨source, -, hprice⟩ := hprice
  obtain ⟨husage, ts, hts, hage⟩ := Prices.getValidatedPrice_spec hprice
  simp only [refreshReserve, bind_eq_ok, pure_eq_ok] at h
  obtain ⟨r₁, hr₁, rfl⟩ := h
  obtain ⟨hconfig, -⟩ := accrueInterest_keepsPrice hr₁
  constructor
  · intro hflag
    rw [hconfig]
    exact husage.1 hflag
  · intro hflag
    have hyoung := hage.1 hflag
    have htime := Clock.unixTimestamp_eq hts
    rw [hconfig]
    dsimp only
    omega

/-- A refresh that reads no price keeps the saved flags of a young price and drops them all with an
old one. Only the age is asked for again. -/
theorem refreshReserve_truthful_iff (h : refreshReserve r clock none bps = .ok r') :
    r'.PriceFlagsTruthful clock ↔
      isSavedPriceAgeValid r clock = .ok false ∨ r.UsageFlagTruthful := by
  simp only [refreshReserve, bind_eq_ok, pure_eq_ok] at h
  obtain ⟨r₁, hr₁, valid, hvalid, rfl⟩ := h
  obtain ⟨hconfig, hupdate, hts, -⟩ := accrueInterest_keepsPrice hr₁
  have hsame : isSavedPriceAgeValid r clock = .ok valid := by
    rw [← hvalid, isSavedPriceAgeValid, isSavedPriceAgeValid, hconfig, hts]
  cases valid with
  | false =>
    refine iff_of_true ⟨?_, ?_⟩ (.inl hsame)
    · exact fun hflag ↦ absurd hflag (show ¬ PriceStatusFlags.none.contains _ by decide)
    · exact fun hflag ↦ absurd hflag (show ¬ PriceStatusFlags.none.contains _ by decide)
  | true =>
    have hyoung := age_lt_of_isSavedPriceAgeValid hsame
    constructor
    · intro htruth
      refine .inr fun hflag ↦ ?_
      rw [← hconfig]
      exact htruth.usage (by rw [hupdate]; exact hflag)
    · rintro (hold | husage)
      · rw [hsame] at hold
        cases hold
      · refine ⟨fun hflag ↦ ?_, fun _ ↦ ?_⟩
        · rw [hconfig]
          rw [hupdate] at hflag
          exact husage hflag
        · rw [hconfig, hts]
          exact hyoung.le

theorem refreshReserveFrom_truthful_iff (h : refreshReserveFrom r clock oracles bps = .ok r') :
    r'.PriceFlagsTruthful clock ↔ r.KeepsPriceFlagsTruthful clock oracles := by
  cases oracles with
  | none =>
    simp only [refreshReserveFrom, bind_eq_ok, pure_eq_ok] at h
    obtain ⟨_, rfl, h⟩ := h
    rw [refreshReserve_truthful_iff h, KeepsPriceFlagsTruthful]
    refine (or_iff_right ?_).symm
    rintro ⟨o, p, hnone, -⟩
    cases hnone
  | some o =>
    simp only [refreshReserveFrom, bind_eq_ok] at h
    obtain ⟨price, hprice, h⟩ := h
    cases price with
    | some p =>
      exact iff_of_true (refreshReserve_truthful_of_price hprice h) (.inl ⟨o, p, rfl, hprice⟩)
    | none =>
      rw [refreshReserve_truthful_iff h, KeepsPriceFlagsTruthful]
      refine (or_iff_right ?_).symm
      rintro ⟨o, p, ho, hread⟩
      obtain rfl := Option.some.inj ho
      rw [hread] at hprice
      cases hprice

end Reserve

/-- The modes that leave the price of the reserve blocked. -/
def UpdateConfigMode.blocksPriceUsage : UpdateConfigMode → Prop
  | .updateBlockPriceUsage new => new ≠ 0
  | .updateEntireReserveConfig new => new.tokenInfo.blockPriceUsage ≠ 0
  | _ => False

theorem ReserveConfig.update_blockPriceUsage {c c' : ReserveConfig} {mode : UpdateConfigMode}
    (h : c.update mode = .ok c') (hmode : ¬ mode.blocksPriceUsage)
    (hc : c.tokenInfo.blockPriceUsage = 0) : c'.tokenInfo.blockPriceUsage = 0 := by
  cases mode with
  | updateBlockPriceUsage new =>
    obtain rfl := pure_eq_ok.1 h
    exact not_not.1 hmode
  | updateEntireReserveConfig new =>
    obtain rfl := pure_eq_ok.1 h
    exact not_not.1 hmode
  | deprecatedUpdateMultiplierSideBoost => exact absurd h (by simp [ReserveConfig.update])
  | deprecatedUpdateMultiplierTagBoost => exact absurd h (by simp [ReserveConfig.update])
  | updateDebtWithdrawalCap | updateDepositWithdrawalCap | updateDebtWithdrawalCapCurrentTotal
  | updateDepositWithdrawalCapCurrentTotal | updateReserveStatus =>
    simp only [ReserveConfig.update, bind_eq_ok, pure_eq_ok] at h
    obtain ⟨_, -, rfl⟩ := h
    exact hc
  | updateTokenInfoName =>
    simp only [ReserveConfig.update, bind_eq_ok, pure_eq_ok] at h
    obtain ⟨_, -, _, -, rfl⟩ := h
    exact hc
  | _ =>
    obtain rfl := pure_eq_ok.1 h
    exact hc

/-- The calls that touch a reserve's price, its flags and its settings: refreshes, with a price or
without, and the updates of the admitted kind. -/
inductive PriceStep (Admitted : Reserve → UpdateConfigMode → Prop) : Reserve → Reserve → Prop
  | refresh {r r'} (clock : Clock) (oracles : Option OraclePrices) (bps : U16)
      (h : refreshReserveFrom r clock oracles bps = .ok r') : PriceStep Admitted r r'
  | limits {r r'} (ts : U64) (h : refreshReserveLimitTimestamps r ts = .ok r') :
      PriceStep Admitted r r'
  | update {r r'} (mode : UpdateConfigMode) (hmode : Admitted r mode)
      (h : updateReserveConfig r mode = .ok r') : PriceStep Admitted r r'

/-- The updates that block the price only while no saved flag allows it. -/
def BlocksUnflagged (r : Reserve) (mode : UpdateConfigMode) : Prop :=
  mode.blocksPriceUsage → ¬ r.lastUpdate.priceStatus.contains .priceUsageAllowed

/-- The two instructions, as long as none blocks the price. -/
inductive UnblockedInstruction (market : LendingMarket) (key : Pubkey) : Reserve → Reserve → Prop
  | refresh {r r'} (clock : Clock) (oracles : OraclePrices)
      (h : processRefreshReserve r market clock oracles = .ok r') :
      UnblockedInstruction market key r r'
  | update {r r'} (clock : Clock) (mode : UpdateConfigMode) (skip : Bool)
      (hmode : ¬ mode.blocksPriceUsage)
      (h : processUpdateReserveConfig r key market clock mode skip = .ok r') :
      UnblockedInstruction market key r r'

section Runs

variable {Admitted : Reserve → UpdateConfigMode → Prop} {r r₀ r' : Reserve} {clock : Clock}

theorem PriceStep.of_processRefreshReserve {market : LendingMarket} {oracles : OraclePrices}
    (h : processRefreshReserve r market clock oracles = .ok r') :
    ReflTransGen (PriceStep Admitted) r r' := by
  simp only [processRefreshReserve, bind_eq_ok] at h
  obtain ⟨_, -, needed, -, h⟩ := h
  cases needed with
  | true =>
    simp only [if_true, bind_eq_ok] at h
    obtain ⟨_, -, _, -, r₁, hr₁, ts, -, hr'⟩ := h
    exact .tail (.single (.refresh _ _ _ hr₁)) (.limits ts hr')
  | false =>
    simp only [Bool.false_eq_true, if_false, bind_eq_ok] at h
    obtain ⟨r₁, hr₁, ts, -, hr'⟩ := h
    exact .tail (.single (.refresh _ _ _ hr₁)) (.limits ts hr')

theorem PriceStep.of_processUpdateReserveConfig {key : Pubkey} {market : LendingMarket}
    {mode : UpdateConfigMode} {skip : Bool} (hmode : ∀ r₁, Admitted r₁ mode)
    (h : processUpdateReserveConfig r key market clock mode skip = .ok r') :
    ReflTransGen (PriceStep Admitted) r r' := by
  simp only [processUpdateReserveConfig, bind_eq_ok] at h
  obtain ⟨r₁, hr₁, r₂, hr₂, h⟩ := h
  have hend : r₂ = r' := by
    cases skip with
    | true =>
      simp only [if_true, bind_eq_ok, pure_eq_ok] at h
      obtain ⟨_, -, hr'⟩ := h
      exact hr'
    | false =>
      simp only [Bool.false_eq_true, if_false, bind_eq_ok, pure_eq_ok] at h
      obtain ⟨_, -, hr'⟩ := h
      exact hr'
  exact hend ▸ .tail (.single (.refresh _ _ _ hr₁)) (.update mode (hmode r₁) hr₂)

theorem PriceStep.usageFlagTruthful (h : PriceStep BlocksUnflagged r r')
    (hr : r.UsageFlagTruthful) : r'.UsageFlagTruthful := by
  cases h with
  | refresh clock oracles bps h =>
    exact ((Reserve.refreshReserveFrom_truthful_iff h).2 (.inr (.inr hr))).usage
  | limits ts h =>
    obtain ⟨depositClock, borrowClock, rfl, -⟩ := Reserve.refreshReserveLimitTimestamps_spec h
    exact hr
  | update mode hmode h =>
    simp only [updateReserveConfig, bind_eq_ok, pure_eq_ok] at h
    obtain ⟨config, hconfig, rfl⟩ := h
    intro hflag
    have hflag' : r.lastUpdate.priceStatus.contains .priceUsageAllowed := hflag
    exact ReserveConfig.update_blockPriceUsage hconfig (fun hblocks ↦ hmode hblocks hflag')
      (hr hflag')

theorem PriceStep.usageFlagTruthful_of_run (hr : r.UsageFlagTruthful)
    (hrun : ReflTransGen (PriceStep BlocksUnflagged) r r') : r'.UsageFlagTruthful := by
  have hkeeps : Transition.Preserves (PriceStep BlocksUnflagged) Reserve.UsageFlagTruthful :=
    fun _ _ hr hstep ↦ hstep.usageFlagTruthful hr
  exact hkeeps.run hr hrun

theorem Reserve.IsNew.usageFlagTruthful {market : LendingMarket} {key : Pubkey}
    (h : r.IsNew market key) : r.UsageFlagTruthful := by
  obtain ⟨slot, lendingMarket, mint, decimals, deposit, -, hr⟩ := h.init
  intro hflag
  rw [hr] at hflag
  exact absurd hflag (show ¬ PriceStatusFlags.none.contains _ by decide)

/-- In every run of the two instructions from a new reserve the flag is true until a price is
blocked. -/
theorem UnblockedInstruction.usageFlagTruthful {market : LendingMarket} {key : Pubkey}
    (hnew : r₀.IsNew market key) (hrun : ReflTransGen (UnblockedInstruction market key) r₀ r) :
    r.UsageFlagTruthful := by
  have hkeeps : Transition.Preserves (UnblockedInstruction market key)
      Reserve.UsageFlagTruthful := by
    intro r r' hr hstep
    cases hstep with
    | refresh clock oracles h =>
      exact PriceStep.usageFlagTruthful_of_run hr (PriceStep.of_processRefreshReserve h)
    | update clock mode skip hmode h =>
      exact PriceStep.usageFlagTruthful_of_run hr
        (PriceStep.of_processUpdateReserveConfig (fun _ hblocks ↦ absurd hblocks hmode) h)
  exact hkeeps.run hnew.usageFlagTruthful hrun

/-- The flags that a refresh saves are true exactly when it reads a price, or drops the old flags,
or finds them true; and they are true after every refresh of a run in which a price is only blocked
while no flag allows its use. -/
theorem priceFlags_truthful {oracles : Option OraclePrices} {bps : U16}
    (h : refreshReserveFrom r clock oracles bps = .ok r') :
    (r'.PriceFlagsTruthful clock ↔ r.KeepsPriceFlagsTruthful clock oracles) ∧
      ∀ r₀ : Reserve, r₀.UsageFlagTruthful → ReflTransGen (PriceStep BlocksUnflagged) r₀ r →
        r'.PriceFlagsTruthful clock := by
  have hiff := Reserve.refreshReserveFrom_truthful_iff h
  exact ⟨hiff, fun r₀ hr₀ hrun ↦
    hiff.2 (.inr (.inr (PriceStep.usageFlagTruthful_of_run hr₀ hrun)))⟩

end Runs

/-- A Pyth price of one, and no other source. -/
def pythOracle (timestamp : U64) : OraclePrices where
  pyth := some { price := { priceLoad := some Fraction.one, timestamp }, twap := none }
  switchboard := none
  scope := none

/-- A market that reads a price again when half of its maximal age has passed. -/
def halfAgeMarket : LendingMarket := { LendingMarket.init with priceRefreshTriggerToMaxAgePct := 50 }

/-- A new reserve whose price is blocked before it is ever read. -/
def blockedReserve : Reserve :=
  plainReserve { plainConfig 500 with
    tokenInfo := { (plainConfig 500).tokenInfo with blockPriceUsage := 1 } }

theorem priceFlags_truthful_blockedReserve :
    ∃ r', refreshReserveFrom blockedReserve ⟨1, 10⟩ (some (pythOracle 10)) 0 = .ok r' ∧
      r'.lastUpdate.priceStatus.contains .priceAgeChecked ∧ r'.PriceFlagsTruthful ⟨1, 10⟩ := by
  obtain ⟨r', hr', hflag⟩ := exists_eq_ok
    (x := refreshReserveFrom blockedReserve ⟨1, 10⟩ (some (pythOracle 10)) 0)
    (p := fun r' ↦ r'.lastUpdate.priceStatus.contains .priceAgeChecked) (by decide)
  have hnone : ¬ PriceStatusFlags.none.contains .priceUsageAllowed := by decide
  refine ⟨r', hr', of_decide_eq_true hflag,
    (priceFlags_truthful hr').2 (plainReserve (plainConfig 500)) (fun h ↦ absurd h hnone) ?_⟩
  exact .single (.update (.updateBlockPriceUsage 1) (fun _ ↦ hnone) rfl)

/-- A price is read, then blocked by the market's owner; the next refresh finds the saved price young
and leaves it allowed. -/
theorem usageFlag_outlives_block :
    ∃ r₁ r₂ r₃,
      processRefreshReserve (plainReserve (plainConfig 500)) halfAgeMarket ⟨1, 1000000000⟩
        (pythOracle 1000000000) = .ok r₁ ∧
      processUpdateReserveConfig r₁ 5 halfAgeMarket ⟨1, 1000000000⟩ (.updateBlockPriceUsage 1)
        false = .ok r₂ ∧
      processRefreshReserve r₂ halfAgeMarket ⟨2, 1000000001⟩ (pythOracle 1000000001) = .ok r₃ ∧
      r₃.lastUpdate.priceStatus.contains .priceUsageAllowed ∧
      r₃.config.tokenInfo.blockPriceUsage ≠ 0 := by
  obtain ⟨r₁, hr₁, h⟩ := exists_eq_ok
    (x := processRefreshReserve (plainReserve (plainConfig 500)) halfAgeMarket ⟨1, 1000000000⟩
      (pythOracle 1000000000))
    (p := fun r₁ ↦ (processUpdateReserveConfig r₁ 5 halfAgeMarket ⟨1, 1000000000⟩
        (.updateBlockPriceUsage 1) false).toOption.any fun r₂ ↦
      (processRefreshReserve r₂ halfAgeMarket ⟨2, 1000000001⟩
        (pythOracle 1000000001)).toOption.any fun r₃ ↦
      r₃.lastUpdate.priceStatus.contains .priceUsageAllowed ∧
        r₃.config.tokenInfo.blockPriceUsage ≠ 0) (by decide)
  obtain ⟨r₂, hr₂, h⟩ := exists_eq_ok h
  obtain ⟨r₃, hr₃, h⟩ := exists_eq_ok h
  obtain ⟨hflag, hblocked⟩ := of_decide_eq_true h
  exact ⟨r₁, r₂, r₃, hr₁, hr₂, hr₃, hflag, hblocked⟩

end Klend
