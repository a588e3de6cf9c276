import Klend.Results.DebtTrackers

/-! # Collateral opened over its limit

A borrow and a change of group check every tracker that they raise against its limit.
A deposit that opens a collateral of an obligation in a group counts the whole debt
against it without a check. So the limits hold unless such a debt does not fit.
-/

namespace Klend

/-- A new collateral in the reserve would back a debt in a group which does not fit its limit. -/
def Obligation.OpensOverLimit (o : Obligation) (key : Pubkey) (r : Reserve) : Prop :=
  (∀ d ∈ o.deposits, d.depositReserve ≠ key) ∧
  ∃ (g : Fin 32) (total : U64), (o.elevationGroup : ℕ) = g + 1 ∧
    o.getBorrowedAmountIfSingleToken = .ok (some total) ∧ total ≠ 0 ∧
    (r.trackerLimit (some g) : ℕ) < r.tracker (some g) + total

theorem ReserveConfig.SameSettings.trackerLimit_eq {r r' : Reserve}
    (h : r.config.SameSettings r'.config) (t : Option (Fin 32)) :
    r'.trackerLimit t = r.trackerLimit t := by
  cases t with
  | none =>
    rw [Reserve.trackerLimit, Reserve.trackerLimit, h]
  | some g =>
    rw [Reserve.trackerLimit, Reserve.trackerLimit, Reserve.debtLimitInGroup,
      Reserve.debtLimitInGroup, h]

section Deposit

variable {market : LendingMarket} {o o' : Obligation} {r r' : Reserve} {slot amount : U64}
  {key : Pubkey} {check : MaxReservesAsCollateralCheck} {g : Fin 32}

theorem depositObligationCollateral_config
    (h : depositObligationCollateral market r o slot amount key check = .ok (r', o')) :
    r'.config = r.config := by
  obtain ⟨-, -, group, total, tier, o₁, i, r₁, d, d₁, -, -, hfind, -, -, -, rfl, -⟩ :=
    depositObligationCollateral_spec h
  rcases findOrAddCollateral_spec hfind with ⟨-, rfl, -⟩ | ⟨-, -, e, hnew, -⟩
  · rfl
  · rcases updateOnNewDeposit_spec hnew with ⟨-, -, rfl⟩ | ⟨x, j, n, m, -, -, -, -, -, -, rfl⟩
    · rfl
    · rfl

theorem depositObligationCollateral_again
    (h : depositObligationCollateral market r o slot amount key check = .ok (r', o'))
    (hold : ∃ d ∈ o.deposits, d.depositReserve = key) (t : Option (Fin 32)) :
    r'.tracker t = r.tracker t := by
  obtain ⟨-, -, group, total, tier, o₁, i, r₁, d, d₁, -, -, hfind, -, -, -, rfl, -⟩ :=
    depositObligationCollateral_spec h
  rcases findOrAddCollateral_spec hfind with ⟨-, rfl, -⟩ | ⟨hnone, -⟩
  · cases t <;> rfl
  · obtain ⟨d, hd, hkey⟩ := hold
    exact absurd hkey (hnone d hd)

theorem depositObligationCollateral_opens (hm : market.Validated)
    (h : depositObligationCollateral market r o slot amount key check = .ok (r', o'))
    (hnew : ∀ d ∈ o.deposits, d.depositReserve ≠ key) (hg : (o.elevationGroup : ℕ) = g + 1) :
    ∃ total, o.getBorrowedAmountIfSingleToken = .ok (some total) ∧
      (r'.tracker (some g) : ℕ) = r.tracker (some g) + total := by
  obtain ⟨-, -, group, total, tier, o₁, i, r₁, d, d₁, hgroup, htotal, hfind, -, -, -, rfl, -⟩ :=
    depositObligationCollateral_spec h
  have hmarket := getElevationGroup_market hgroup
  rcases findOrAddCollateral_spec hfind with ⟨-, -, e, he, hkey⟩ | ⟨-, -, e, hopened, -⟩
  · exact absurd hkey (hnew e (List.mem_of_getElem? he))
  · rcases updateOnNewDeposit_spec hopened with ⟨rfl, -, -⟩ |
      ⟨x, j, n, m, rfl, -, hj, rfl, hsum, -, rfl⟩
    · rw [LendingMarket.none_of_getElevationGroup hmarket] at hg
      exact absurd hg (Nat.succ_ne_zero _).symm
    · obtain rfl : j = g := Fin.ext (Nat.succ.inj ((hm.getIndex_eq hmarket hj).symm.trans hg))
      refine ⟨n, htotal, ?_⟩
      have hset : (r.setDebtInGroup j m).markStale.tracker (some j) = m :=
        Reserve.tracker_setDebtInGroup_same
      rw [hset, hsum]
      rfl

end Deposit

namespace World

variable {w₀ w w' : World} {clock : Clock} {ix : Instruction}

/-- Every tracker that rises stays within its limit. -/
def RaisesWithinLimits (w w' : World) : Prop :=
  ∀ k, k ≠ 0 → ∀ r r', w.reserves k = some r → w'.reserves k = some r' → ∀ t,
    r.tracker t < r'.tracker t → r'.tracker t ≤ r'.trackerLimit t

/-- The instruction deposits a new collateral whose limit has no room for the debt. -/
def OpensOverLimit (w : World) : Instruction → Prop
  | .depositObligationCollateral index key _ => ∃ o r, w.obligations[index]? = some o ∧
      w.reserves key = some r ∧ o.OpensOverLimit key r
  | _ => False

theorem depositObligationCollateral_reserve {index : ℕ} {key : Pubkey} {amount : U64}
    (h : w.process clock (.depositObligationCollateral index key amount) = .ok w') :
    ∃ (o o' : Obligation) (r r₁ r' : Reserve), w.obligations[index]? = some o ∧ key ≠ 0 ∧
      w.reserves key = some r ∧ w'.reserves key = some r' ∧
      (∀ t, r₁.tracker t = r.tracker t) ∧ (∀ t, r'.trackerLimit t = r.trackerLimit t) ∧
      Klend.depositObligationCollateral w.lendingMarket r₁ o clock.slot amount key .perform =
        .ok (r', o') := by
  obtain ⟨o, r, r₁, r', o', ho, hr, hr₁, hop, rfl⟩ := depositObligationCollateral_spec h
  obtain ⟨ho, -⟩ := loadObligation_eq_ok.1 ho
  obtain ⟨hkey, hr, -⟩ := loadReserve_eq_ok.1 hr
  refine ⟨o, o', r, r₁, r', ho, hkey, hr, Reserves.store_same _ _ _, tracker_refreshReserve hr₁,
    fun t ↦ ?_, hop⟩
  have hsettings := Reserve.refreshReserve_settings hr₁
  rw [← depositObligationCollateral_config hop] at hsettings
  exact hsettings.trackerLimit_eq t

/-- A debt that does not fit the limit of a new collateral takes its tracker over the limit. -/
theorem OpensOverLimit.not_within (hm : w.lendingMarket.Validated)
    (hproc : w.process clock ix = .ok w') (h : w.OpensOverLimit ix) :
    ¬ w.RaisesWithinLimits w' := by
  cases ix with
  | depositObligationCollateral index key amount =>
    obtain ⟨o, r, ho, hr, hnew, g, total, hg, htotal, hpos, hover⟩ := h
    obtain ⟨o₁, o', r₁, r₂, r', ho₁, hkey, hr₁, hr', htracker, hlimit, hop⟩ :=
      depositObligationCollateral_reserve hproc
    obtain rfl := Option.some.inj (ho.symm.trans ho₁)
    obtain rfl := Option.some.inj (hr.symm.trans hr₁)
    obtain ⟨n, hn, hsum⟩ := depositObligationCollateral_opens hm hop hnew hg
    obtain rfl := Option.some.inj (Except.ok.inj (htotal.symm.trans hn))
    rw [htracker] at hsum
    intro hwithin
    have hraised : r.tracker (some g) < r'.tracker (some g) := by
      have hn : (total : ℕ) ≠ 0 := fun h0 ↦ hpos (Fin.ext h0)
      rw [Fin.lt_def, hsum]
      omega
    have hle := hwithin key hkey r r' hr hr' (some g) hraised
    rw [hlimit, Fin.le_def, hsum] at hle
    exact absurd hover hle.not_gt
  | _ => exact h.elim

/-- From a reachable state every instruction but a refresh of an obligation, and so every borrow,
request of a group and deposit, raises trackers within their limits just if it does not open a
collateral over its limit. -/
theorem raisesWithinLimits_iff (h : w₀.Genesis) (hrun : Run Anything w₀ w)
    (hproc : w.process clock ix = .ok w')
    (hix : ∀ index remaining states, ix ≠ .refreshObligation index remaining states) :
    w.RaisesWithinLimits w' ↔ ¬ w.OpensOverLimit ix := by
  have hinv := hrun.tracked h.tracked
  constructor
  · exact fun hwithin hopens ↦ hopens.not_within hinv.market hproc hwithin
  · intro hfits k hk r r' hr hr' t hraised
    have hlt : w.reserves.tracker k t < w'.reserves.tracker k t := by
      rw [Reserves.tracker_eq hr, Reserves.tracker_eq hr']
      exact hraised
    rcases process_raises hproc hinv hk hlt with ⟨-, r₁, hr₁, hle⟩ |
      ⟨index, remaining, states, hrefresh⟩ | ⟨index, amount, o, g, rfl, rfl, ho, hg⟩
    · obtain rfl := Option.some.inj (hr'.symm.trans hr₁)
      exact hle
    · exact absurd hrefresh (hix _ _ _)
    · obtain ⟨o₁, o', r₁, r₂, r₃, ho₁, -, hr₁, hr₃, htracker, hlimit, hop⟩ :=
        depositObligationCollateral_reserve hproc
      obtain rfl := Option.some.inj (ho.symm.trans ho₁)
      obtain rfl := Option.some.inj (hr.symm.trans hr₁)
      obtain rfl := Option.some.inj (hr'.symm.trans hr₃)
      have hnew : ∀ d ∈ o.deposits, d.depositReserve ≠ k := by
        intro d hd hkey
        have hsame := depositObligationCollateral_again hop ⟨d, hd, hkey⟩ (some g)
        rw [hsame, htracker] at hraised
        exact absurd hraised (lt_irrefl _)
      obtain ⟨total, htotal, hsum⟩ := depositObligationCollateral_opens hinv.market hop hnew hg
      rw [htracker] at hsum
      have hpos : total ≠ 0 := by
        rintro rfl
        exact absurd (Fin.lt_def.1 hraised) (by rw [hsum]; exact lt_irrefl _)
      rw [Fin.le_def, hlimit, hsum]
      by_contra hover
      exact hfits ⟨o, r, ho, hr, hnew, g, total, hg, htotal, hpos, not_le.1 hover⟩

/-- A market as before, whose group allows two collaterals and whose third reserve backs no more
than 1000 of the group's debt. -/
def smallLimitMarket : World :=
  opening { LendingMarket.init with
      elevationGroups := fun i ↦
        if i = 0 then
          { maxLiquidationBonusBps := 300, id := 1, ltvPct := 80, liquidationThresholdPct := 90,
            allowNewLoans := 1, maxReservesAsCollateral := 2, debtReserve := 5 }
        else default } 1
    [(5, plainReserve groupedConfig), (6, plainReserve groupedConfig),
      (7, plainReserve { groupedConfig with
        borrowLimitAgainstThisCollateralInElevationGroup := fun _ ↦ 1000 })]

theorem smallLimitMarket_genesis : smallLimitMarket.Genesis := by
  apply opening_genesis
  · constructor
    · intro i
      by_cases hi : i = 0
      · subst hi
        exact .inr ⟨rfl, rfl⟩
      · exact .inl (if_neg hi)
    all_goals decide
  · simp only [List.mem_cons, List.not_mem_nil, or_false, forall_eq_or_imp, forall_eq]
    exact ⟨plainReserve_isNew rfl, plainReserve_isNew rfl, plainReserve_isNew rfl⟩

/-- A loan of 500000 in the group against the second reserve, refreshed in slot 3. -/
def smallLimitLoan : List (Clock × Instruction) :=
  groupedLoan ++ [(⟨3, 10⟩, .refreshReserve 5 unitPrice), (⟨3, 10⟩, .refreshReserve 6 unitPrice),
    (⟨3, 10⟩, .refreshReserve 7 unitPrice), (⟨3, 10⟩, .depositReserveLiquidity 7 1000000),
    (⟨3, 10⟩, .refreshReserve 7 unitPrice), (⟨3, 10⟩, .refreshObligation 0 [6, 5] [])]

/-- The loan itself is within the limit of its collateral. -/
theorem raisesWithinLimits_iff_groupedLoan : ∃ w',
    (groupedMarket.after (groupedLoan.take 12)).process ⟨2, 10⟩
      (.borrowObligationLiquidity 0 5 500000 none [6]) = .ok w' ∧
    (groupedMarket.after (groupedLoan.take 12)).RaisesWithinLimits w' := by
  obtain ⟨w', hproc, -⟩ := exists_eq_ok
    (x := (groupedMarket.after (groupedLoan.take 12)).process ⟨2, 10⟩
      (.borrowObligationLiquidity 0 5 500000 none [6])) (p := fun _ ↦ true) (by decide)
  exact ⟨w', hproc, (raisesWithinLimits_iff groupedMarket_genesis
    (run_after _ (groupedLoan.take 12) fun _ _ _ ↦ trivial) hproc
    fun _ _ _ heq ↦ Instruction.noConfusion heq).2 id⟩

/-- The third reserve is deposited as a second collateral and backs the whole debt of 500000. -/
theorem smallLimitLoan_overLimit :
    smallLimitMarket.Genesis ∧
    Run Anything smallLimitMarket (smallLimitMarket.after smallLimitLoan) ∧
    ∃ w' r r', (smallLimitMarket.after smallLimitLoan).process ⟨3, 10⟩
        (.depositObligationCollateral 0 7 1000) = .ok w' ∧
      (smallLimitMarket.after smallLimitLoan).reserves 7 = some r ∧ w'.reserves 7 = some r' ∧
      r.debtInGroup 0 < r'.debtInGroup 0 ∧ r'.debtLimitInGroup 0 < r'.debtInGroup 0 := by
  refine ⟨smallLimitMarket_genesis, run_after _ _ fun _ _ _ ↦ trivial, ?_⟩
  obtain ⟨w', hproc, hp⟩ := exists_eq_ok
    (x := (smallLimitMarket.after smallLimitLoan).process ⟨3, 10⟩
      (.depositObligationCollateral 0 7 1000))
    (p := fun w' ↦ decide ((w'.reserves 7).isSome ∧
      ((smallLimitMarket.after smallLimitLoan).reserveAt 7).debtInGroup 0 <
        (w'.reserveAt 7).debtInGroup 0 ∧
      (w'.reserveAt 7).debtLimitInGroup 0 < (w'.reserveAt 7).debtInGroup 0)) (by decide)
  obtain ⟨hsome, hover⟩ := of_decide_eq_true hp
  exact ⟨w', _, _, hproc, reserves_eq (by decide), reserves_eq hsome, hover⟩

end World

end Klend
