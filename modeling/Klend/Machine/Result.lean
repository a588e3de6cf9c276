import Mathlib.Logic.Basic
import Mathlib.Tactic.TypeStar

/-! # Outcomes of program calls

A call returns a value, returns one of the program's error codes, or aborts the
transaction. Overflow checks, failed `unwrap`s and out-of-range indices abort.
-/

namespace Klend

/-- The program's error codes. -/
inductive LendingError where
  | invalidConfig
  | invalidAmount
  | invalidAccountInput
  | mathOverflow
  | integerOverflow
  | negativeInterestRate
  | insufficientLiquidity
  | reserveStale
  | withdrawTooSmall
  | withdrawTooLarge
  | borrowTooSmall
  | borrowTooLarge
  | repayTooSmall
  | liquidationTooSmall
  | obligationHealthy
  | obligationStale
  | obligationReserveLimit
  | obligationDepositsEmpty
  | obligationBorrowsEmpty
  | obligationDepositsZero
  | obligationBorrowsZero
  | invalidObligationCollateral
  | invalidObligationLiquidity
  | obligationCollateralEmpty
  | obligationLiquidityEmpty
  | flashBorrowCpi
  | noFlashRepayFound
  | invalidFlashRepay
  | flashRepayCpi
  | multipleFlashBorrows
  | flashLoansDisabled
  | invalidUtilizationRate
  | invalidBorrowRateCurvePoint
  | lastTimestampGreaterThanCurrent
  | liquidationRewardTooSmall
  | isolatedAssetTierViolation
  | inconsistentElevationGroup
  | invalidElevationGroup
  | invalidElevationGroupConfig
  | unhealthyElevationGroupLtv
  | elevationGroupNewLoansDisabled
  | elevationGroupAlreadyActivated
  | reserveDeprecated
  | reserveObsolete
  | withdrawalCapReached
  | depositLimitExceeded
  | borrowLimitExceeded
  | collateralNonLiquidatable
  | obligationInDeprecatedReserve
  | referrerAccountMissing
  | referrerAccountNotInitialized
  | referrerAccountMintMissmatch
  | referrerAccountWrongAddress
  | referrerAccountReferrerMissmatch
  | insufficientReferralFeesToRedeem
  | insufficientProtocolFeesToRedeem
  | cannotSocializeObligationWithCollateral
  | obligationEmpty
  | borrowingDisabled
  | borrowingDisabledOutsideElevationGroup
  | netValueRemainingTooSmall
  | worseLtvBlocked
  | liabilitiesBiggerThanAssets
  | borrowingAboveUtilizationRateDisabled
  | liquidationBorrowFactorPriority
  | liquidationLowestLtvPriority
  | elevationGroupBorrowLimitExceeded
  | elevationGroupWithoutDebtReserve
  | elevationGroupMaxCollateralReserveZero
  | elevationGroupHasAnotherDebtReserve
  | elevationGroupDebtReserveAsCollateral
  | obligationCollateralExceedsElevationGroupLimit
  | obligationElevationGroupMultipleDebtReserve
  | depositDisabledOutsideElevationGroup
  | cannotCalculateReferralAmountDueToSlotsMismatch
  | obligationCurrentlyMarkedForDeleveraging
  | maximumWithdrawValueZero
  | zeroMaxLtvAssetsInDeposits
  | minLtvAssetsPriority
  | worseLtvThanUnhealthyLtv
  | repayTooSmallForFullLiquidation
  | insufficientRepayAmount
  | globalEmergencyMode
  | invalidOracleConfig
  | invalidTwapConfig
  | priceNotValid
  | noPriceFound
  | reserveTokenBalanceMismatch
  | reserveVaultBalanceMismatch
  | reserveAccountingMismatch
  | invalidFlag
deriving DecidableEq, Repr

/-- Why a call did not return: a program error code, a check made by the account framework, or a
panic. -/
inductive Failure where
  | lending (e : LendingError)
  | anchor
  | panic
deriving DecidableEq, Repr

abbrev Result (α : Type) : Type := Except Failure α

def err {α : Type} (e : LendingError) : Result α := .error (.lending e)

def abort {α : Type} : Result α := .error .panic

/-- `require!`, and `return err!` behind the negated test. -/
def require (c : Prop) [Decidable c] (e : LendingError) : Result Unit :=
  if c then .ok () else err e

/-- A check the account framework makes without one of the program's own codes. -/
def requireAnchor (c : Prop) [Decidable c] : Result Unit :=
  if c then .ok () else .error .anchor

def okOr {α : Type} (o : Option α) (e : LendingError) : Result α :=
  match o with
  | some a => .ok a
  | none => err e

def unwrap {α : Type} (o : Option α) : Result α :=
  match o with
  | some a => .ok a
  | none => abort

section Inversion

variable {α β : Type}

@[simp] theorem bind_eq_ok {x : Result α} {f : α → Result β} {b : β} :
    (x >>= f) = .ok b ↔ ∃ a, x = .ok a ∧ f a = .ok b := by
  cases x <;> simp [bind, Except.bind]

theorem map_eq_ok {x : Result α} {f : α → β} {b : β} :
    (f <$> x) = .ok b ↔ ∃ a, x = .ok a ∧ f a = b := by
  cases x <;> simp [Functor.map, Except.map]

/-- A call that succeeds hands on what it has returned. -/
theorem bind_of_eq_ok {x : Result α} {f : α → Result β} {a : α} (h : x = .ok a) :
    (x >>= f) = f a := by
  rw [h]
  rfl

theorem bind_eq_error {x : Result α} {f : α → Result β} {e : Failure} :
    (x >>= f) = .error e ↔ x = .error e ∨ ∃ a, x = .ok a ∧ f a = .error e := by
  cases x <;> simp [bind, Except.bind]

/-- Not by `rfl`: the kernel would evaluate the rest of the block to check the step. -/
@[simp] theorem ok_bind {a : α} {f : α → Result β} : ((.ok a : Result α) >>= f) = f a := by
  simp only [bind, Except.bind]

/-- A conditional step of a `do` block, with the rest of the block behind both branches. -/
theorem bind_of_ite {c : Prop} [Decidable c] {x y : Result α} {f : α → Result β} :
    (if c then x >>= f else y >>= f) = (if c then x else y) >>= f := by
  split <;> rfl

/-- A check made only under a condition. -/
@[simp] theorem ite_seq_eq_ok {c : Prop} [Decidable c] {x : Result Unit} {y : Result β} {b : β} :
    (if c then x >>= fun _ ↦ y else y) = .ok b ↔ (c → x = .ok ()) ∧ y = .ok b := by
  by_cases hc : c
  · rw [if_pos hc, bind_eq_ok]
    exact ⟨fun ⟨_, hx, hy⟩ ↦ ⟨fun _ ↦ hx, hy⟩, fun ⟨hx, hy⟩ ↦ ⟨(), hx hc, hy⟩⟩
  · rw [if_neg hc]
    exact ⟨fun hy ↦ ⟨fun h ↦ absurd h hc, hy⟩, And.right⟩

/-- A computed value checked only under a condition. -/
theorem ite_bind_seq_eq_ok {c : Prop} [Decidable c] {x : Result α} {f : α → Result Unit}
    {y : Result β} {b : β} : (if c then x >>= fun a ↦ f a >>= fun _ ↦ y else y) = .ok b ↔
      (c → ∃ a, x = .ok a ∧ f a = .ok ()) ∧ y = .ok b := by
  by_cases hc : c
  · simp only [if_pos hc, bind_eq_ok]
    constructor
    · rintro ⟨a, hx, u, hf, hy⟩
      exact ⟨fun _ ↦ ⟨a, hx, hf⟩, hy⟩
    · rintro ⟨hx, hy⟩
      obtain ⟨a, hx, hf⟩ := hx hc
      exact ⟨a, hx, (), hf, hy⟩
  · rw [if_neg hc]
    exact ⟨fun hy ↦ ⟨fun h ↦ absurd h hc, hy⟩, And.right⟩

/-- A successful outcome found by evaluation. -/
theorem exists_eq_ok {x : Result α} {p : α → Bool} (h : x.toOption.any p = true) :
    ∃ a, x = .ok a ∧ p a = true := by
  cases x with
  | error e => simp [Except.toOption] at h
  | ok a => exact ⟨a, rfl, by simpa [Except.toOption] using h⟩

/-- Whether a call fails in the given way, found by evaluation. -/
def failsWith (x : Result α) (f : Failure) : Bool :=
  match x with
  | .ok _ => false
  | .error e => decide (e = f)

theorem eq_error_of_failsWith {x : Result α} {f : Failure} (h : failsWith x f = true) :
    x = .error f := by
  cases x with
  | ok a => cases h
  | error e => exact congrArg Except.error (of_decide_eq_true h)

@[simp] theorem pure_eq_ok {a b : α} : (pure a : Result α) = .ok b ↔ a = b := by
  simp [pure, Except.pure]

@[simp] theorem err_ne_ok {e : LendingError} {a : α} : (err e : Result α) = .ok a ↔ False := by
  simp [err]

@[simp] theorem abort_ne_ok {a : α} : (abort : Result α) = .ok a ↔ False := by
  simp [abort]

@[simp] theorem err_eq_error {e : LendingError} {f : Failure} :
    (err e : Result α) = .error f ↔ f = .lending e := by
  simp [err, eq_comm]

@[simp] theorem abort_eq_error {f : Failure} : (abort : Result α) = .error f ↔ f = .panic := by
  simp [abort, eq_comm]

@[simp] theorem require_eq_ok {c : Prop} [Decidable c] {e : LendingError} {u : Unit} :
    require c e = .ok u ↔ c := by
  unfold require; split <;> simp_all

@[simp] theorem requireAnchor_eq_ok {c : Prop} [Decidable c] {u : Unit} :
    requireAnchor c = .ok u ↔ c := by
  unfold requireAnchor; split <;> simp_all

@[simp] theorem okOr_eq_ok {o : Option α} {e : LendingError} {a : α} :
    okOr o e = .ok a ↔ o = some a := by
  cases o <;> simp [okOr]

@[simp] theorem unwrap_eq_ok {o : Option α} {a : α} : unwrap o = .ok a ↔ o = some a := by
  cases o <;> simp [unwrap]

end Inversion

/-- The call returns a value or one of the program's error codes. -/
def Returns {α : Type} (x : Result α) : Prop := (∃ a, x = .ok a) ∨ ∃ e, x = err e

section Returns

variable {α β : Type} {x : Result α}

theorem Returns.of_ok {a : α} (h : x = .ok a) : Returns x := .inl ⟨a, h⟩

@[simp] theorem returns_pure {a : α} : Returns (pure a : Result α) := .inl ⟨a, rfl⟩

@[simp] theorem returns_err {e : LendingError} : Returns (err e : Result α) := .inr ⟨e, rfl⟩

theorem not_returns_of_panic (h : x = .error .panic) : ¬ Returns x := by
  rintro (⟨a, ha⟩ | ⟨e, he⟩)
  · exact absurd (h.symm.trans ha) nofun
  · exact absurd (h.symm.trans he) nofun

theorem returns_bind {f : α → Result β} :
    Returns (x >>= f) ↔ Returns x ∧ ∀ a, x = .ok a → Returns (f a) := by
  cases x with
  | ok a =>
    rw [ok_bind]
    constructor
    · exact fun h ↦ ⟨.of_ok rfl, fun b hb ↦ Except.ok.inj hb ▸ h⟩
    · exact fun h ↦ h.2 a rfl
  | error e =>
    have hbind : ((.error e : Result α) >>= f) = .error e := bind_eq_error.2 (.inl rfl)
    rw [hbind]
    constructor
    · rintro (⟨b, hb⟩ | ⟨e', he⟩)
      · cases hb
      · exact ⟨.inr ⟨e', congrArg Except.error (Except.error.inj he)⟩, fun _ ha ↦ by cases ha⟩
    · rintro ⟨⟨a, ha⟩ | ⟨e', he⟩, -⟩
      · cases ha
      · exact .inr ⟨e', congrArg Except.error (Except.error.inj he)⟩

@[simp] theorem returns_require {c : Prop} [Decidable c] {e : LendingError} :
    Returns (require c e) := by
  unfold require
  split
  · exact .of_ok rfl
  · exact returns_err

@[simp] theorem returns_okOr {o : Option α} {e : LendingError} : Returns (okOr o e) := by
  cases o with
  | none => exact returns_err
  | some a => exact .of_ok rfl

theorem returns_unwrap {o : Option α} : Returns (unwrap o) ↔ ∃ a, o = some a := by
  cases o with
  | none => exact ⟨fun h ↦ absurd h (not_returns_of_panic rfl), nofun⟩
  | some a => exact ⟨fun _ ↦ ⟨a, rfl⟩, fun _ ↦ .of_ok rfl⟩

/-- The call has no error code of its own: it returns a value or aborts. -/
def Uncoded {α : Type} (x : Result α) : Prop := ∀ e, x ≠ err e

theorem uncoded_pure {a : α} : Uncoded (pure a : Result α) := nofun

theorem uncoded_abort : Uncoded (abort : Result α) := nofun

theorem Uncoded.bind {f : α → Result β} (hx : Uncoded x) (hf : ∀ a, Uncoded (f a)) :
    Uncoded (x >>= f) := by
  intro e h
  rcases bind_eq_error.1 h with hx' | ⟨a, -, hf'⟩
  · exact hx e hx'
  · exact hf a e hf'

theorem Uncoded.returns_iff (hx : Uncoded x) : Returns x ↔ ∃ a, x = .ok a :=
  ⟨fun h ↦ h.elim id fun ⟨e, he⟩ ↦ absurd he (hx e), .inl⟩

theorem Uncoded.returns_bind {f : α → Result β} (hx : Uncoded x) :
    Returns (x >>= f) ↔ ∃ a, x = .ok a ∧ Returns (f a) := by
  rw [Klend.returns_bind, hx.returns_iff]
  constructor
  · rintro ⟨⟨a, ha⟩, hf⟩
    exact ⟨a, ha, hf a ha⟩
  · rintro ⟨a, ha, hf⟩
    exact ⟨⟨a, ha⟩, fun b hb ↦ Except.ok.inj (ha.symm.trans hb) ▸ hf⟩

end Returns

section Views

variable {A B C D : Type} {e : A → B}

/-- Two calls whose values look alike go on alike if what follows does not see more. -/
theorem map_bind_congr {x y : Result A} {f g : A → Result C} {e' : C → D}
    (hxy : e <$> x = e <$> y)
    (hfg : ∀ a b, x = .ok a → y = .ok b → e a = e b → e' <$> f a = e' <$> g b) :
    e' <$> (x >>= f) = e' <$> (y >>= g) := by
  cases x with
  | error err =>
    cases y with
    | error err' =>
      obtain rfl : err = err' := Except.error.inj hxy
      rfl
    | ok b => cases hxy
  | ok a =>
    cases y with
    | error err => cases hxy
    | ok b => exact hfg a b rfl rfl (Except.ok.inj hxy)

theorem exists_ok_of_map {x y : Result A} {a : A} (hxy : e <$> x = e <$> y) (hx : x = .ok a) :
    ∃ b, y = .ok b ∧ e a = e b := by
  subst hx
  cases y with
  | error err => cases hxy
  | ok b => exact ⟨b, rfl, Except.ok.inj hxy⟩

end Views

end Klend
