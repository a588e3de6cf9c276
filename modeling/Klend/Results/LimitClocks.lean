import Klend.Accounting.BooksRuns

/-! # Clocks of the deposit and borrow limits

A limit clock runs only while its limit is crossed, as long as no repayment,
liquidation or socialised loss ends a crossing: these leave the clocks alone.
-/

namespace Klend

namespace Books

variable {b b' : Books} {T : ℕ → Prop} {S F : Books → ℕ → Prop}

theorem Change.clocksIdle (hS : ∀ b s, S b s → b.KeepsDebtCrossed s)
    (hF : ∀ b f, F b f → b.KeepsDebtCrossed f ∧ b.KeepsSupplyCrossed f) :
    Transition.Preserves (Change T S F) fun b ↦ b.Sound ∧ b.ClocksIdle :=
  Change.sound.inter fun _ _ hb hidle ⟨_, _, heffect⟩ ↦
    heffect.clocksIdle hb.takeRatePct hS hF hidle

/-- A stopped clock can only be started at the time of an effect. -/
theorem Change.clocks_since {since : ℕ} (htime : ∀ t, T t → since ≤ t) :
    Transition.Preserves (Change T S F) (fun b ↦ b.depositClock = 0 ∨ since ≤ b.depositClock) ∧
    Transition.Preserves (Change T S F) (fun b ↦ b.borrowClock = 0 ∨ since ≤ b.borrowClock) := by
  constructor
  · rintro b b' hb ⟨t, ht, heffect⟩
    have := htime t ht
    rcases heffect.clock_cases.1 with h | h | h <;> omega
  · rintro b b' hb ⟨t, ht, heffect⟩
    have := htime t ht
    rcases heffect.clock_cases.2 with h | h | h <;> omega

end Books

namespace Reserve

/-- The borrow clock stands still, or the limit stays crossed without this much of the debt. -/
def KeepsBorrowLimitCrossed (r : Reserve) (amount : Fraction) : Prop :=
  r.liquidity.borrowLimitCrossedTimestamp = 0 ∨
    Fraction.fromNum r.config.borrowLimit < r.liquidity.totalBorrow.saturatingSub amount

/-- The deposit clock stands still, or the limit stays crossed without this much of the supply. -/
def KeepsDepositLimitCrossed (r : Reserve) (amount : Fraction) : Prop :=
  r.liquidity.depositLimitCrossedTimestamp = 0 ∨
    ∀ supply, r.liquidity.totalSupply = .ok supply →
      Fraction.fromNum r.config.depositLimit < supply.saturatingSub amount

variable {r : Reserve} {amount : Fraction} {c : U64} {n : ℕ}

theorem KeepsBorrowLimitCrossed.books (h : r.KeepsBorrowLimitCrossed amount)
    (hn : n ≤ amount.bits) : (r.books c).KeepsDebtCrossed n := by
  rcases h with h | h
  · exact .inl (congrArg Fin.val h)
  · right
    rw [Fraction.lt_iff, Fraction.bits_fromNum, Fraction.bits_saturatingSub] at h
    simp only [Reserve.books, unit_eq, ReserveLiquidity.totalBorrow] at h ⊢
    omega

theorem KeepsDepositLimitCrossed.books (h : r.KeepsDepositLimitCrossed amount) {supply : Fraction}
    (hsupply : r.liquidity.totalSupply = .ok supply) (hn : n ≤ amount.bits) :
    (r.books c).KeepsSupplyCrossed n := by
  rcases h with h | h
  · exact .inl (congrArg Fin.val h)
  · right
    have hlt := h supply hsupply
    have heq := (books_of_totalSupply (n := c) hsupply).2
    rw [Fraction.lt_iff, Fraction.bits_fromNum, Fraction.bits_saturatingSub] at hlt
    rw [heq, unit_eq]
    simp only [Reserve.books] at hlt ⊢
    omega

end Reserve

namespace World

/-- Debt that a repayment, a liquidation or a socialised loss may take off, and supply that a loss
may take off, leave a crossed limit crossed unless its clock stands still. -/
def KeepsLimitsCrossed (w : World) (_ : Clock) (ix : Instruction) : Prop :=
  match ix with
  | .repayObligationLiquidity index key amount _ => ∀ o slot slot' r,
      w.obligations[index]? = some o → slot ∈ o.borrows → slot.borrowReserve = key →
      w.reserves key = some r →
      slot.accrueInterest r.liquidity.cumulativeBorrowRateBsf = .ok slot' →
      r.KeepsBorrowLimitCrossed (min (Fraction.fromNum amount) slot'.borrowedAmountSf)
  | .liquidateObligationAndRedeemReserveCollateral index key _ amount _ _ _ => ∀ o slot r,
      w.obligations[index]? = some o → slot ∈ o.borrows → slot.borrowReserve = key →
      w.reserves key = some r →
      r.KeepsBorrowLimitCrossed (min (Fraction.fromNum amount) slot.borrowedAmountSf)
  | .socializeLoss index key amount _ => ∀ o slot r,
      w.obligations[index]? = some o → slot ∈ o.borrows → slot.borrowReserve = key →
      w.reserves key = some r →
      r.KeepsBorrowLimitCrossed (min (Fraction.fromNum amount) slot.borrowedAmountSf) ∧
        r.KeepsDepositLimitCrossed (min (Fraction.fromNum amount) slot.borrowedAmountSf)
  | _ => True

variable {w₀ w w' : World} {clock : Clock} {ix : Instruction} {k : Pubkey} {b : Books} {n : ℕ}
  {r r' : Reserve}

theorem le_min_of_bits {amount : U64} {debt : Fraction} (h : n ≤ amount * unit)
    (h' : n ≤ debt.bits) : n ≤ (min (Fraction.fromNum amount) debt).bits := by
  rw [Fraction.bits_min, Fraction.bits_fromNum, ← unit_eq]
  exact le_min h h'

theorem KeepsLimitsCrossed.settles (h : w.KeepsLimitsCrossed clock ix)
    (hs : w.Settles ix k b n) : b.KeepsDebtCrossed n := by
  cases ix with
  | repayObligationLiquidity index key amount remaining =>
    obtain ⟨rfl, r, slot, slot', ⟨o, ho, hslot, hkey, hr, rfl⟩, hacc, hle, hle'⟩ := hs
    exact (h o slot slot' r ho hslot hkey hr hacc).books (le_min_of_bits hle hle')
  | liquidateObligationAndRedeemReserveCollateral index key _ amount _ _ _ =>
    obtain ⟨rfl, r, slot, ⟨o, ho, hslot, hkey, hr, rfl⟩, hle, hle'⟩ := hs
    exact (h o slot r ho hslot hkey hr).books (le_min_of_bits hle hle')
  | _ => exact hs.elim

theorem KeepsLimitsCrossed.forgives (h : w.KeepsLimitsCrossed clock ix)
    (hf : w.Forgives ix k b n) : b.KeepsDebtCrossed n ∧ b.KeepsSupplyCrossed n := by
  cases ix with
  | socializeLoss index key amount remaining =>
    obtain ⟨rfl, r, slot, supply, ⟨o, ho, hslot, hkey, hr, rfl⟩, hsupply, hle, hle'⟩ := hf
    have hmin := le_min_of_bits hle hle'
    obtain ⟨hborrow, hdeposit⟩ := h o slot r ho hslot hkey hr
    exact ⟨hborrow.books hmin, hdeposit.books hsupply hmin⟩
  | _ => exact hf.elim

/-- The steps of a run from the given time on. -/
def Since (since : ℕ) (_ : World) (clock : Clock) (_ : Instruction) : Prop :=
  since ≤ clock.unixTimestamp.toNat

theorem Run.clocksIdle (hg : w₀.Genesis) (hrun : Run KeepsLimitsCrossed w₀ w)
    (hr : w.reserves k = some r) : (r.books (w.collateralMintSupply k)).ClocksIdle := by
  obtain ⟨r₀, hr₀⟩ := hrun.reserve_rev hr
  obtain ⟨hsound, hidle, -⟩ := hg.books hr₀
  obtain ⟨r₁, hr₁, -, hpath⟩ := hrun.books (T := fun _ ↦ True)
    (S := Books.KeepsDebtCrossed) (F := fun b f ↦ b.KeepsDebtCrossed f ∧ b.KeepsSupplyCrossed f)
    (fun _ _ _ _ ↦ trivial) (fun _ _ _ _ _ hadm hs ↦ hadm.settles hs)
    (fun _ _ _ _ _ hadm hf ↦ hadm.forgives hf) hr₀
  obtain rfl : r₁ = r := Option.some.inj (hr₁.symm.trans hr)
  exact ((Books.Change.clocksIdle (fun _ _ ↦ id) fun _ _ ↦ id).run ⟨hsound, hidle⟩ hpath).2

theorem Run.clocks_since {since : ℕ} (hrun : Run (Since since) w w')
    (hr : w.reserves k = some r) (hr' : w'.reserves k = some r') :
    (r.liquidity.depositLimitCrossedTimestamp = 0 →
      (r'.liquidity.depositLimitCrossedTimestamp : ℕ) = 0 ∨
        since ≤ r'.liquidity.depositLimitCrossedTimestamp) ∧
    (r.liquidity.borrowLimitCrossedTimestamp = 0 →
      (r'.liquidity.borrowLimitCrossedTimestamp : ℕ) = 0 ∨
        since ≤ r'.liquidity.borrowLimitCrossedTimestamp) := by
  obtain ⟨r₁, hr₁, -, hpath⟩ := hrun.books (T := fun t ↦ since ≤ t) (S := fun _ _ ↦ True)
    (F := fun _ _ ↦ True) (fun _ _ _ hadm ↦ hadm) (fun _ _ _ _ _ _ _ ↦ trivial)
    (fun _ _ _ _ _ _ _ ↦ trivial) hr
  obtain rfl : r₁ = r' := Option.some.inj (hr₁.symm.trans hr')
  obtain ⟨hdeposit, hborrow⟩ := Books.Change.clocks_since (S := fun _ _ ↦ True)
    (F := fun _ _ ↦ True) fun t (ht : since ≤ t) ↦ ht
  exact ⟨fun h0 ↦ hdeposit.run (.inl (congrArg Fin.val h0)) hpath,
    fun h0 ↦ hborrow.run (.inl (congrArg Fin.val h0)) hpath⟩

theorem getSecsSinceLimitCrossed_le {crossed : Bool} {started now secs : U64}
    {config : ReserveConfig} {since : ℕ}
    (h : getSecsSinceLimitCrossed crossed started config now = some secs)
    (hstarted : (started : ℕ) = 0 ∨ since ≤ started) : (secs : ℕ) ≤ now - since := by
  unfold getSecsSinceLimitCrossed at h
  split at h
  · next hc =>
    have hne : (started : ℕ) ≠ 0 := fun h0 ↦ hc.2 (Fin.ext h0)
    rw [getSecsSinceDeleveragingStarted, Word.checkedSub_eq_some, Word.saturatingSub_val] at h
    omega
  · cases h

/-- In every state of such a run the clock of a respected limit stands still, and the time later
counted for autodeleveraging is no longer than the time since. -/
theorem limitClocks_idle (hg : w₀.Genesis) (hrun : Run KeepsLimitsCrossed w₀ w)
    (hr : w.reserves k = some r) :
    (∀ supply, r.liquidity.totalSupply = .ok supply →
      supply ≤ Fraction.fromNum r.config.depositLimit →
      r.liquidity.depositLimitCrossedTimestamp = 0 ∧
        ∀ (since : ℕ) w' r' (now secs : U64), Run (Since since) w w' →
          w'.reserves k = some r' →
          getSecsSinceAutodeleverageObligationCollateralDepositLimitCrossed r' now =
            .ok (some secs) → (secs : ℕ) ≤ now - since) ∧
    (r.liquidity.totalBorrow ≤ Fraction.fromNum r.config.borrowLimit →
      r.liquidity.borrowLimitCrossedTimestamp = 0 ∧
        ∀ (since : ℕ) w' r' (now secs : U64), Run (Since since) w w' →
          w'.reserves k = some r' →
          getSecsSinceAutodeleverageObligationDebtBorrowLimitCrossed r' now = some secs →
            (secs : ℕ) ≤ now - since) := by
  have hidle := hrun.clocksIdle hg hr
  constructor
  · intro supply hsupply hle
    have h0 : r.liquidity.depositLimitCrossedTimestamp = 0 := by
      refine Fin.ext (hidle.deposit ?_)
      rw [Books.supplyCrossed, (Reserve.books_of_totalSupply hsupply).2, unit_eq]
      exact not_lt.2 (Fraction.le_iff.1 hle)
    refine ⟨h0, fun since w' r' now secs hrun' hr' hsecs ↦ ?_⟩
    simp only [getSecsSinceAutodeleverageObligationCollateralDepositLimitCrossed, bind_eq_ok,
      pure_eq_ok] at hsecs
    obtain ⟨crossed, -, hsecs⟩ := hsecs
    exact getSecsSinceLimitCrossed_le hsecs ((hrun'.clocks_since hr hr').1 h0)
  · intro hle
    have h0 : r.liquidity.borrowLimitCrossedTimestamp = 0 := by
      refine Fin.ext (hidle.borrow ?_)
      rw [Books.debtCrossed, unit_eq]
      exact not_lt.2 (Fraction.le_iff.1 hle)
    refine ⟨h0, fun since w' r' now secs hrun' hr' hsecs ↦ ?_⟩
    exact getSecsSinceLimitCrossed_le hsecs ((hrun'.clocks_since hr hr').2 h0)

/-- The loan takes the whole borrow limit, and six days of interest cross it. -/
def overdraft : List (Clock × Instruction) :=
  plainLoan ++
    [(⟨1000000, 500⟩, .refreshReserve 5 unitPrice), (⟨1000000, 500⟩, .refreshReserve 6 unitPrice),
      (⟨1000000, 500⟩, .refreshObligation 0 [6, 5] [])]

def overdrawn : World :=
  (plainOpening { plainConfig 500 with borrowLimit := 500000 }).after overdraft

/-- A repayment of 100 units is admitted while the borrow clock runs: the limit stays crossed
without them. -/
theorem overdrawn_keepsLimitsCrossed :
    overdrawn.KeepsLimitsCrossed ⟨1000000, 500⟩ (.repayObligationLiquidity 0 5 100 []) := by
  intro o slot slot' r _ _ _ hr _
  obtain rfl : overdrawn.reserveAt 5 = r :=
    Option.some.inj ((reserves_eq (by decide)).symm.trans hr)
  right
  have hlt : Fraction.fromNum (overdrawn.reserveAt 5).config.borrowLimit <
      (overdrawn.reserveAt 5).liquidity.totalBorrow.saturatingSub (Fraction.fromNum 100) := by
    decide
  rw [Fraction.lt_iff, Fraction.bits_saturatingSub] at hlt ⊢
  have hle := Fraction.le_iff.1 (min_le_left (Fraction.fromNum 100) slot'.borrowedAmountSf)
  omega

/-- After that repayment the borrow limit is still crossed and its clock runs on; the deposit limit
is respected. -/
theorem limitClocks_idle_overdrawn :
    ∃ w r, overdrawn.process ⟨1000000, 500⟩ (.repayObligationLiquidity 0 5 100 []) = .ok w ∧
      w.reserves 5 = some r ∧ Fraction.fromNum r.config.borrowLimit < r.liquidity.totalBorrow ∧
      r.liquidity.borrowLimitCrossedTimestamp ≠ 0 ∧
      r.liquidity.depositLimitCrossedTimestamp = 0 := by
  obtain ⟨w, hw, hp⟩ := exists_eq_ok
    (x := overdrawn.process ⟨1000000, 500⟩ (.repayObligationLiquidity 0 5 100 []))
    (p := fun w ↦ decide ((w.reserves 5).isSome ∧
      Fraction.fromNum (w.reserveAt 5).config.borrowLimit < (w.reserveAt 5).liquidity.totalBorrow ∧
      (w.reserveAt 5).liquidity.borrowLimitCrossedTimestamp ≠ 0 ∧
      ((w.reserveAt 5).liquidity.totalSupply.toOption.any fun supply ↦
        decide (supply ≤ Fraction.fromNum (w.reserveAt 5).config.depositLimit)))) (by decide)
  obtain ⟨hsome, hcrossed, hclock, hsupply⟩ := of_decide_eq_true hp
  obtain ⟨supply, hsupply, hle⟩ := exists_eq_ok hsupply
  have hrun : Run KeepsLimitsCrossed _ overdrawn :=
    run_after _ overdraft (by simp [overdraft, plainLoan, KeepsLimitsCrossed])
  have hrun := hrun.tail ⟨_, _, overdrawn_keepsLimitsCrossed, hw⟩
  exact ⟨w, _, hw, reserves_eq hsome, hcrossed, hclock,
    ((limitClocks_idle (plainOpening_genesis (by rfl)) hrun (reserves_eq hsome)).1 supply hsupply
      (of_decide_eq_true hle)).1⟩

/-- A repayment that ends the crossing. -/
def overdraftRepaid : List (Clock × Instruction) :=
  overdraft ++ [(⟨1000000, 500⟩, .repayObligationLiquidity 0 5 400000 [])]

/-- A repayment leaves the borrow clock running although the debt is back below its limit. -/
theorem borrowClock_runs_after_repayment :
    ∃ w₀ w r, Genesis w₀ ∧ Run Anything w₀ w ∧ w.reserves 5 = some r ∧
      r.liquidity.totalBorrow ≤ Fraction.fromNum r.config.borrowLimit ∧
      r.liquidity.borrowLimitCrossedTimestamp ≠ 0 :=
  ⟨plainOpening { plainConfig 500 with borrowLimit := 500000 }, _, _,
    plainOpening_genesis (by rfl), run_after _ overdraftRepaid fun _ _ _ ↦ trivial,
    reserves_eq (by decide), by decide, by decide⟩

end World

end Klend
