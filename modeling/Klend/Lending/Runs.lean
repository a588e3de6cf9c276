import Klend.Lending.Instructions
import Klend.Library.Transition

/-! # Runs of a market

The states a market passes through from its first reserves on, one successful
instruction after the other, at arbitrary clocks.
-/

namespace Klend

open Relation (ReflTransGen)

/-- A reserve as its initialisation leaves it, with the market's minimal deposit in it and nobody
holding shares; its configuration is the initial one or has passed the validator since. -/
structure Reserve.IsNew (r : Reserve) (market : LendingMarket) (key : Pubkey) : Prop where
  init : ∃ (slot : U64) (lendingMarket mint : Pubkey) (decimals : U8) (deposit : U64),
    1000 ≤ deposit ∧
    r = { Reserve.init slot lendingMarket mint decimals deposit with config := r.config }
  config : r.config = (Reserve.init 0 0 0 0 0).config ∨
    validateReserveConfig r.config market key = .ok ()

namespace World

/-- A market with new reserves only. -/
structure Genesis (w : World) : Prop where
  market : w.lendingMarket.Validated
  reserve : ∀ k r, w.reserves k = some r → r.IsNew w.lendingMarket k
  obligations : w.obligations = []
  circulation : ∀ k, w.collateralMintSupply k = 0
  referrers : ∀ k, w.referrerTokenStates k = none

/-- A successful instruction of the admitted kind. -/
def Step (Admitted : World → Clock → Instruction → Prop) (w w' : World) : Prop :=
  ∃ clock ix, Admitted w clock ix ∧ w.process clock ix = .ok w'

/-- Every instruction is admitted. -/
def Anything (_ : World) (_ : Clock) (_ : Instruction) : Prop := True

/-- A run of successful admitted instructions. -/
def Run (Admitted : World → Clock → Instruction → Prop) : World → World → Prop :=
  ReflTransGen (Step Admitted)

/-- The state after a list of instructions, stopping before the first that fails or is not
admitted. -/
def after (w : World) : List (Clock × Instruction) → World
  | [] => w
  | (clock, ix) :: rest =>
    match w.process clock ix with
    | .ok w' => w'.after rest
    | .error _ => w

theorem run_after {Admitted : World → Clock → Instruction → Prop} (w : World)
    (ixs : List (Clock × Instruction)) (h : ∀ ix ∈ ixs, ∀ w, Admitted w ix.1 ix.2) :
    Run Admitted w (w.after ixs) := by
  induction ixs generalizing w with
  | nil => exact .refl
  | cons ix rest ih =>
    rw [after]
    have hrest := fun p hp ↦ h p (List.mem_cons_of_mem _ hp)
    split
    · next w' heq => exact .head ⟨ix.1, ix.2, h ix List.mem_cons_self w, heq⟩ (ih w' hrest)
    · exact .refl

theorem run_after_admitted {Admitted : World → Clock → Instruction → Prop} (w : World)
    (ixs : List (Clock × Instruction))
    (h : ∀ (n : ℕ) ix, ixs[n]? = some ix → Admitted (w.after (ixs.take n)) ix.1 ix.2) :
    Run Admitted w (w.after ixs) := by
  induction ixs generalizing w with
  | nil => exact .refl
  | cons ix rest ih =>
    rw [after]
    split
    · next w' heq =>
      refine .head ⟨ix.1, ix.2, h 0 ix rfl, heq⟩ (ih w' fun n ix' hix' ↦ ?_)
      have hrest := h (n + 1) ix' hix'
      rwa [List.take_succ_cons, after, heq] at hrest
    · exact .refl

/-- The reserve at a key that has one. -/
def reserveAt (w : World) (k : Pubkey) : Reserve := (w.reserves k).getD default

theorem reserves_eq {w : World} {k : Pubkey} (h : (w.reserves k).isSome) :
    w.reserves k = some (w.reserveAt k) := by
  obtain ⟨r, hr⟩ := Option.isSome_iff_exists.1 h
  rw [reserveAt, hr, Option.getD_some]

/-- A market that opens with the given reserves. -/
def opening (market : LendingMarket) (pk : Pubkey) (reserves : List (Pubkey × Reserve)) :
    World where
  lendingMarketPk := pk
  lendingMarket := market
  reserves := fun k ↦ reserves.lookup k
  collateralMintSupply := fun _ ↦ 0
  obligations := []
  referrerTokenStates := fun _ ↦ none

theorem opening_genesis {market : LendingMarket} {pk : Pubkey}
    {reserves : List (Pubkey × Reserve)} (hmarket : market.Validated)
    (hreserves : ∀ p ∈ reserves, p.2.IsNew market p.1) :
    Genesis (opening market pk reserves) where
  market := hmarket
  reserve k r h := by
    obtain ⟨l₁, l₂, hl, -⟩ := List.lookup_eq_some_iff.1 h
    exact hreserves (k, r) (by rw [hl]; simp)
  obligations := rfl
  circulation _ := rfl
  referrers _ := rfl

end World

/-- A configuration as the validator accepts it: a flat borrow rate and no elevation group. -/
def plainConfig (borrowRateBps : U32) : ReserveConfig :=
  { (default : ReserveConfig) with
    loanToValuePct := 75
    liquidationThresholdPct := 80
    minLiquidationBonusBps := 200
    maxLiquidationBonusBps := 500
    badDebtLiquidationBonusBps := 99
    borrowRateCurve := .newFlat borrowRateBps
    borrowFactorPct := 100
    depositLimit := 1000000000000
    borrowLimit := 1000000000000
    tokenInfo := { (default : TokenInfo) with
      maxAgePriceSeconds := 1000000000
      pythConfiguration := { price := 1 } }
    elevationGroups := List.replicate 20 0
    borrowLimitOutsideElevationGroup := Word.max 64
    borrowLimitAgainstThisCollateralInElevationGroup := fun _ ↦ 1000000000000 }

/-- A new reserve of the market at key 1, for a mint without decimals. -/
def plainReserve (config : ReserveConfig) : Reserve :=
  { Reserve.init 0 1 1 0 1000000 with config }

theorem plainReserve_isNew {config : ReserveConfig} {market : LendingMarket} {key : Pubkey}
    (h : validateReserveConfig config market key = .ok ()) :
    (plainReserve config).IsNew market key :=
  ⟨⟨0, 1, 1, 0, 1000000, by decide, rfl⟩, .inr h⟩

theorem plainConfig_validated (market : LendingMarket) (key : Pubkey) :
    validateReserveConfig (plainConfig 500) market key = .ok () := by
  rfl

/-- A configuration that lists group 1. -/
def groupedConfig : ReserveConfig :=
  { plainConfig 500 with elevationGroups := 1 :: List.replicate 19 0 }

namespace World

/-- A new market with two reserves, the second of them plain. -/
def plainOpening (config : ReserveConfig) : World :=
  opening .init 1 [(5, plainReserve config), (6, plainReserve (plainConfig 500))]

theorem plainOpening_genesis {config : ReserveConfig}
    (h : validateReserveConfig config .init 5 = .ok ()) : (plainOpening config).Genesis :=
  opening_genesis LendingMarket.init_validated (by
    simp only [List.mem_cons, List.not_mem_nil, or_false, forall_eq_or_imp, forall_eq]
    exact ⟨plainReserve_isNew h, plainReserve_isNew (plainConfig_validated _ _)⟩)

def plainMarket : World := plainOpening (plainConfig 500)

theorem plainMarket_genesis : plainMarket.Genesis :=
  plainOpening_genesis (plainConfig_validated _ _)

def unitPrice : Option GetPriceResult :=
  some { price := Fraction.one, status := .allChecks, timestamp := 10 }

/-- A depositor of the second reserve takes a loan from the first. -/
def plainLoan : List (Clock × Instruction) :=
  [(⟨1, 10⟩, .refreshReserve 5 unitPrice), (⟨1, 10⟩, .refreshReserve 6 unitPrice),
    (⟨1, 10⟩, .depositReserveLiquidity 6 1000000),
    (⟨1, 10⟩, .initObligation 0 7 0), (⟨1, 10⟩, .refreshObligation 0 [] []),
    (⟨1, 10⟩, .depositObligationCollateral 0 6 1000000),
    (⟨2, 10⟩, .refreshReserve 5 unitPrice), (⟨2, 10⟩, .refreshReserve 6 unitPrice),
    (⟨2, 10⟩, .refreshObligation 0 [6] []),
    (⟨2, 10⟩, .borrowObligationLiquidity 0 5 500000 none [])]

/-- The loan of the plain market, refreshed in slot 3. -/
def refreshedLoan : World :=
  plainMarket.after (plainLoan ++ [(⟨3, 10⟩, .refreshReserve 5 unitPrice),
    (⟨3, 10⟩, .refreshReserve 6 unitPrice), (⟨3, 10⟩, .refreshObligation 0 [6, 5] [])])

/-- The borrowed token at 1.7 times its first price. -/
def risenPrice : Option GetPriceResult :=
  some { price := ⟨17 * 2 ^ 60 / 10, by norm_num⟩, status := .allChecks, timestamp := 10 }

/-- The loan at 85% of its collateral, refreshed in slot 3. -/
def underwaterLoan : World :=
  plainMarket.after (plainLoan ++ [(⟨3, 10⟩, .refreshReserve 5 risenPrice),
    (⟨3, 10⟩, .refreshReserve 6 unitPrice), (⟨3, 10⟩, .refreshObligation 0 [6, 5] [])])

/-- Six days of interest. -/
def plainAccrual : List (Clock × Instruction) :=
  [(⟨1000000, 10⟩, .refreshReserve 5 unitPrice)]

/-- A market with a group whose debt reserve is the first of its two reserves. -/
def groupedMarket : World :=
  opening { LendingMarket.init with
      elevationGroups := fun i ↦
        if i = 0 then
          { maxLiquidationBonusBps := 300, id := 1, ltvPct := 80, liquidationThresholdPct := 90,
            allowNewLoans := 1, maxReservesAsCollateral := 1, debtReserve := 5 }
        else default } 1
    [(5, plainReserve groupedConfig), (6, plainReserve groupedConfig)]

theorem groupedMarket_genesis : groupedMarket.Genesis := by
  apply opening_genesis
  · constructor
    · intro i
      by_cases hi : i = 0
      · subst hi
        exact .inr ⟨rfl, rfl⟩
      · exact .inl (if_neg hi)
    all_goals decide
  · simp only [List.mem_cons, List.not_mem_nil, or_false, forall_eq_or_imp, forall_eq]
    exact ⟨plainReserve_isNew rfl, plainReserve_isNew rfl⟩

/-- A depositor of the second reserve joins the group and takes a loan from the first. -/
def groupedLoan : List (Clock × Instruction) :=
  [(⟨1, 10⟩, .refreshReserve 5 unitPrice), (⟨1, 10⟩, .refreshReserve 6 unitPrice),
    (⟨1, 10⟩, .depositReserveLiquidity 6 1000000),
    (⟨1, 10⟩, .initObligation 0 7 0), (⟨1, 10⟩, .refreshObligation 0 [] []),
    (⟨1, 10⟩, .depositObligationCollateral 0 6 1000000),
    (⟨2, 10⟩, .refreshReserve 5 unitPrice), (⟨2, 10⟩, .refreshReserve 6 unitPrice),
    (⟨2, 10⟩, .refreshObligation 0 [6] []),
    (⟨2, 10⟩, .requestElevationGroup 0 1 [6] []), (⟨2, 10⟩, .refreshReserve 6 unitPrice),
    (⟨2, 10⟩, .refreshObligation 0 [6] []),
    (⟨2, 10⟩, .borrowObligationLiquidity 0 5 500000 none [6])]

end World

end Klend
