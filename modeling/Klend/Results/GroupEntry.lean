import Klend.Lending.ElevationGroups
import Klend.Lending.RefreshReplay
import Klend.Machine.Rational
import Klend.Results.DebtTrackers

/-! # Entering and leaving a group

The operation that changes the group of an obligation derives limits, membership and trackers in
loops of its own. The refresh after it finds what these loops left, and the trackers of the old
group lose what the obligation counted there.
-/

namespace Klend

theorem SlotTable.eq_of_countP_le_one {σ : Type} {p : σ → Bool} {l : List σ}
    (hcount : l.countP p ≤ 1) {i j : ℕ} {a b : σ} (hi : l[i]? = some a) (hj : l[j]? = some b)
    (ha : p a = true) (hb : p b = true) : i = j := by
  have hrest {c d : σ} {l : List σ} (hc : p c = true) (hd : p d = true) (hmem : d ∈ l) :
      ¬ (c :: l).countP p ≤ 1 := by
    have hpos := List.countP_pos_iff.2 ⟨d, hmem, hd⟩
    rw [List.countP_cons_of_pos hc]
    omega
  induction l generalizing i j with
  | nil => cases hi
  | cons c l ih =>
    cases i with
    | zero =>
      cases j with
      | zero => rfl
      | succ j =>
        obtain rfl := Option.some.inj hi
        exact absurd hcount (hrest ha hb (List.mem_of_getElem? hj))
    | succ i =>
      cases j with
      | zero =>
        obtain rfl := Option.some.inj hj
        exact absurd hcount (hrest hb ha (List.mem_of_getElem? hi))
      | succ j =>
        exact congrArg Nat.succ (ih ((List.sublist_cons_self c l).countP_le.trans hcount) hi hj)

theorem Obligation.borrowsDistinct_of_single {o : Obligation}
    (h : o.borrows.countP ObligationLiquidity.occupied ≤ 1) : o.BorrowsDistinct := by
  intro i j b c hb hc hne heq
  exact SlotTable.eq_of_countP_le_one h hb hc ((ObligationLiquidity.occupied_iff b).2 hne)
    ((ObligationLiquidity.occupied_iff c).2 (heq ▸ hne))

/-- What the deposits of an obligation allow it to owe in a group. -/
def ElevationGroup.allowedDebt (g : ElevationGroup) (o : Obligation) : ℚ :=
  ((o.deposits.filter ObligationCollateral.occupied).map fun d ↦
    d.marketValueSf.toRat * (((g.ltvPct : ℕ) : ℚ) / 100)).sum

section Operations

variable {market : LendingMarket} {o o' : Obligation} {slot : U64} {newGroup : U8}
  {g : ElevationGroup} {rs rs' : Reserves} {iter iter' : List Pubkey}
  {states states' : ReferrerTokenStates} {stateKeys : List ReferrerTokenStateKey}

theorem refreshObligationDeposits_allowed {check : MaxReservesAsCollateralCheck}
    {debt : Option U64} {deposits : RefreshObligationDepositsResult}
    (h : refreshObligationDeposits o market slot check (some g) rs iter debt =
      .ok (o', rs', deposits)) : deposits.allowedBorrowValueF.toRat ≤ g.allowedDebt o' := by
  obtain ⟨-, s, slots, hloop, rfl, -, -, hallowed, -⟩ := refreshObligationDeposits_spec h
  rw [hallowed]
  refine forOccupied_induct (P := fun l (s : DepositsPass) ↦ s.allowedBorrowValue.toRat ≤
    ((l.filter ObligationCollateral.occupied).map fun d ↦
      d.marketValueSf.toRat * (((g.ltvPct : ℕ) : ℚ) / 100)).sum) ?zero ?free ?step hloop
  case zero =>
    exact (div_le_iff₀ (by positivity)).2 (by simp [Fraction.zero])
  case free =>
    rintro l s d - hfree hP
    rw [List.filter_append, List.filter_singleton, hfree]
    simpa using hP
  case step =>
    rintro l s d k s' d' - - hbody hP
    obtain ⟨-, -, -, hk, -, -, -, hkey, -⟩ := refreshDeposit_slot hbody
    obtain ⟨r, r₁, d₁, mv, al, un, -, -, -, -, -, -, -, -, hal, hsum, -, -, -, rfl, -⟩ :=
      refreshDeposit_spec hbody
    have hoccupied := (ObligationCollateral.occupied_iff _).2 (hkey ▸ hk)
    have hrounded : al.toRat ≤ mv.toRat * (((g.ltvPct : ℕ) : ℚ) / 100) :=
      (Fraction.toRat_mul_le hal).trans
        (mul_le_mul_of_nonneg_left (Fraction.toRat_fromPercent_le _) mv.toRat_nonneg)
    rw [Fraction.toRat_add hsum, List.filter_append, List.filter_singleton, hoccupied]
    simpa using add_le_add hP hrounded

theorem requestElevationGroup_enters
    (h : requestElevationGroup o market slot newGroup rs iter iter' states stateKeys =
      .ok (o', rs', states'))
    (hgroup : getElevationGroup newGroup market = .ok (some g)) :
    ∃ (o₁ : Obligation) (rs₁ : Reserves) (o₂ : Obligation) (rs₂ : Reserves)
      (borrows : RefreshObligationBorrowsResult) (o₃ : Obligation)
      (deposits : RefreshObligationDepositsResult),
      o₁.lastUpdate.slot = slot ∧
      refreshObligationBorrows o₁ market slot (some g) rs₁ iter' states stateKeys =
        .ok (o₂, rs₂, states', borrows) ∧
      refreshObligationDeposits o₂ market slot .perform (some g) rs₂ iter
        borrows.borrowedAmountInElevationGroup = .ok (o₃, rs', deposits) ∧
      borrows.borrowFactorAdjustedDebtValueF ≤ deposits.allowedBorrowValueF ∧
      o' = Obligation.markStale { o₃ with
        elevationGroup := newGroup
        borrowingDisabled := boolToU8 deposits.borrowingDisabled } := by
  simp only [requestElevationGroup, checkObligationFullyRefreshedAndNotNull, hgroup, bind_eq_ok,
    require_eq_ok, LastUpdate.requireFresh_eq_ok, Prod.exists, Except.ok.injEq, exists_eq_left',
    pure_eq_ok, Prod.mk.injEq] at h
  obtain ⟨-, ⟨-, ⟨-, hslot, -⟩, -⟩, -, -, ltv, -, oldGroup, -, o₁, rs₁, hreset, -, -, -, -, -, -,
    o₂, rs₂, st₂, borrows, hb, o₃, rs₃, deposits, hd, -, hallowed, -, -, -, -, rfl, rfl, rfl⟩ := h
  have hframe := (resetElevationGroupDebts_retracked hreset).1.frame
  exact ⟨o₁, rs₁, o₂, rs₂, borrows, o₃, deposits, by rw [hframe]; exact hslot, hb, hd, hallowed,
    rfl⟩

theorem refreshObligation_of_passes {check : MaxReservesAsCollateralCheck}
    {group : Option ElevationGroup} {o₁ o₂ : Obligation} {rs₁ : Reserves}
    {borrows : RefreshObligationBorrowsResult} {deposits : RefreshObligationDepositsResult}
    (hgroup : getElevationGroup o.elevationGroup market = .ok group)
    (hb : refreshObligationBorrows o market slot group rs iter' states stateKeys =
      .ok (o₁, rs₁, states', borrows))
    (hd : refreshObligationDeposits o₁ market slot check group rs₁ iter
      borrows.borrowedAmountInElevationGroup = .ok (o₂, rs', deposits)) :
    ∃ o', refreshObligation o market slot check rs iter iter' states stateKeys =
        .ok (o', rs', states') ∧
      o'.borrowFactorAdjustedDebtValueSf = borrows.borrowFactorAdjustedDebtValueF ∧
      o'.deposits = o₂.deposits := by
  simp only [refreshObligation, hgroup, hb, hd, ok_bind]
  exact ⟨_, rfl, rfl, rfl⟩

/-- The refresh after a move to a group succeeds, moves no account but the obligation, and finds no
more debt than the deposits allow in the group. -/
theorem requestElevationGroup_refreshes
    (h : requestElevationGroup o market slot newGroup rs iter iter' states stateKeys =
      .ok (o', rs', states'))
    (hgroup : getElevationGroup newGroup market = .ok (some g)) :
    ∃ o'', refreshObligation o' market slot .perform rs' iter iter' states' stateKeys =
        .ok (o'', rs', states') ∧
      o''.borrowFactorAdjustedDebtValueSf.toRat ≤ g.allowedDebt o'' := by
  obtain ⟨o₁, rs₁, o₂, rs₂, borrows, o₃, deposits, hslot, hb, hd, hle, ho'⟩ :=
    requestElevationGroup_enters h hgroup
  have hframe₁ := (refreshObligationBorrows_frame hb).2.2
  have hframe₂ := (refreshObligationDeposits_frame hd).2.2
  have hgroup' : getElevationGroup o'.elevationGroup market = .ok (some g) := by
    rw [ho']
    exact hgroup
  -- in a group there is one debt, so no later step of the first loop saw its reserve again
  have hdistinct := Obligation.borrowsDistinct_of_single (refreshObligationBorrows_takes hb).2
  have hborrows : refreshObligationBorrows o' market slot (some g) rs' iter' states' stateKeys =
      .ok (o', rs', states', borrows) := by
    apply refreshObligationBorrows_replay hb hdistinct fun _ _ hr ↦
      refreshObligationDeposits_regrouped hd hr
    all_goals rw [ho']
    · show o₃.borrows = o₂.borrows
      rw [hframe₂]
    · show o₃.borrowsAssetTiers = o₂.borrowsAssetTiers
      rw [hframe₂]
    · show o₃.hasDebt = o₂.hasDebt
      rw [hframe₂]
    · show o₃.lastUpdate.slot = slot
      rw [hframe₂, hframe₁]
      exact hslot
    · show o₃.referrer = o₁.referrer
      rw [hframe₂, hframe₁]
  have hdeposits : refreshObligationDeposits o' market slot .perform (some g) rs' iter
      borrows.borrowedAmountInElevationGroup = .ok (o', rs', deposits) := by
    apply refreshObligationDeposits_replay hd
    all_goals
      rw [ho']
      rfl
  obtain ⟨o'', hrefresh, hdebt, hsame⟩ := refreshObligation_of_passes hgroup' hborrows hdeposits
  refine ⟨o'', hrefresh, ?_⟩
  have hallowed := refreshObligationDeposits_allowed hdeposits
  rw [hdebt]
  rw [ElevationGroup.allowedDebt, ← hsame] at hallowed
  exact (Fraction.toRat_le_toRat.2 hle).trans hallowed

theorem requestElevationGroup_within_limits
    (h : requestElevationGroup o market slot newGroup rs iter iter' states stateKeys =
      .ok (o', rs', states'))
    (hgroup : getElevationGroup newGroup market = .ok (some g)) :
    ∀ d ∈ o'.deposits, d.depositReserve ≠ 0 → ∃ r, rs' d.depositReserve = some r ∧
      ∃ i, g.getIndex = .ok i ∧ r.tracker (some i) ≤ r.trackerLimit (some i) := by
  obtain ⟨-, -, oldGroup, group, o₁, rs₁, o₂, rs₂, borrows, o₃, deposits, -, -, hgroup', -, -, -,
    hcheck⟩ := requestElevationGroup_spec h
  obtain rfl := Except.ok.inj (hgroup.symm.trans hgroup')
  intro d hd hne
  obtain ⟨r, hr, hlimits⟩ := (checkElevationGroupBorrowLimitConstraints_spec hcheck).2 d hd hne
  exact ⟨r, hr, (hlimits g rfl).2.2⟩

end Operations

namespace World

variable {w₀ w w' : World} {clock : Clock} {index : ℕ} {newGroup : U8} {remaining : List Pubkey}
  {stateKeys : List ReferrerTokenStateKey}

/-- Of its old group an obligation counts nothing after it has moved, so the trackers lose all that
it counted. -/
theorem Tracked.leaves (h : w.Tracked)
    (hproc : w.requestElevationGroup clock index newGroup remaining stateKeys = .ok w') :
    ∃ o, w.obligations[index]? = some o ∧ ∀ k, k ≠ 0 →
      (∀ i : Fin 32, (o.elevationGroup : ℕ) = i + 1 →
        w'.reserves.tracker k (some i) + o.debtAgainst k = w.reserves.tracker k (some i)) ∧
      (o.elevationGroup = elevationGroupNone →
        w'.reserves.tracker k none + o.debtOutside k = w.reserves.tracker k none) := by
  obtain ⟨o, ds, bs, o', rs, states, ho, hrequest, rfl⟩ := requestElevationGroup_spec hproc
  have hget := (loadObligation_eq_ok.1 ho).1
  have hmem := List.mem_of_getElem? hget
  have hfollows := requestElevationGroup_follows h.market (h.coveredBy hmem)
    (h.counted o hmem).toOneSided hrequest
  obtain ⟨-, hne, _, _, _, _, _, _, _, _, _, -, -, -, -, -, ho', -⟩ :=
    Klend.requestElevationGroup_spec hrequest
  have hnew : o'.elevationGroup ≠ o.elevationGroup := by
    rw [ho']
    exact hne.symm
  refine ⟨o, hget, fun k hk ↦ ⟨fun i hi ↦ ?_, fun hnone ↦ ?_⟩⟩
  · have htracker := hfollows k hk (some i)
    have hleft : o'.contribution k (some i) = 0 :=
      if_neg fun hi' ↦ hnew (Fin.ext (hi'.trans hi.symm))
    rw [Obligation.contribution_inGroup hi, hleft, Nat.add_zero] at htracker
    exact htracker
  · have htracker := hfollows k hk none
    have hleft : o'.contribution k none = 0 := if_neg fun hnone' ↦ hnew (hnone'.trans hnone.symm)
    rw [Obligation.contribution_outside hnone, hleft, Nat.add_zero] at htracker
    exact htracker

/-- Entering a group is sound: the group takes the positions, its trackers are within their limits,
and the refresh that follows succeeds with no more debt than the deposits allow in the group. In
reachable states the trackers of the group that is left lose what the obligation counted there. -/
theorem requestElevationGroup_sound (h : w₀.Genesis) (hrun : Run Anything w₀ w) :
    (∀ o market slot newGroup rs iter iter' states stateKeys o' rs' states',
      newGroup ≠ elevationGroupNone →
      Klend.requestElevationGroup o market slot newGroup rs iter iter' states stateKeys =
        .ok (o', rs', states') →
      ∃ g, getElevationGroup newGroup market = .ok (some g) ∧ g.Takes rs o ∧
        (∀ d ∈ o'.deposits, d.depositReserve ≠ 0 → ∃ r, rs' d.depositReserve = some r ∧
          ∃ i, g.getIndex = .ok i ∧ r.tracker (some i) ≤ r.trackerLimit (some i)) ∧
        ∃ o'', Klend.refreshObligation o' market slot .perform rs' iter iter' states' stateKeys =
            .ok (o'', rs', states') ∧
          o''.borrowFactorAdjustedDebtValueSf.toRat ≤ g.allowedDebt o'') ∧
    ∀ clock index newGroup remaining stateKeys w',
      w.process clock (.requestElevationGroup index newGroup remaining stateKeys) = .ok w' →
      ∃ o, w.obligations[index]? = some o ∧ ∀ k, k ≠ 0 →
        (∀ i : Fin 32, (o.elevationGroup : ℕ) = i + 1 →
          w'.reserves.tracker k (some i) + o.debtAgainst k = w.reserves.tracker k (some i)) ∧
        (o.elevationGroup = elevationGroupNone →
          w'.reserves.tracker k none + o.debtOutside k = w.reserves.tracker k none) := by
  constructor
  · intro o market slot newGroup rs iter iter' states stateKeys o' rs' states' hne hrequest
    obtain ⟨-, -, target, htarget, htakes⟩ := requestElevationGroup_takes hrequest
    cases target with
    | none =>
      exact absurd (LendingMarket.none_of_getElevationGroup (getElevationGroup_market htarget)) hne
    | some g =>
      exact ⟨g, htarget, htakes g rfl, requestElevationGroup_within_limits hrequest htarget,
        requestElevationGroup_refreshes hrequest htarget⟩
  · intro clock index newGroup remaining stateKeys w' hproc
    exact (hrun.tracked h.tracked).leaves hproc

/-- A loan that has left its group, refreshed to enter it again. -/
def leftLoan : World :=
  groupedMarket.after (groupedLoan ++
    [(⟨3, 10⟩, .refreshReserve 5 unitPrice), (⟨3, 10⟩, .refreshReserve 6 unitPrice),
      (⟨3, 10⟩, .refreshObligation 0 [6, 5] []), (⟨3, 10⟩, .requestElevationGroup 0 0 [6, 5] []),
      (⟨3, 10⟩, .refreshReserve 5 unitPrice), (⟨3, 10⟩, .refreshReserve 6 unitPrice),
      (⟨3, 10⟩, .refreshObligation 0 [6, 5] [])])

theorem requestElevationGroup_sound_leftLoan :
    ∃ o g o' rs' states' o'' w', leftLoan.obligations = [o] ∧ o.debtOutside 5 = 500001 ∧
      Klend.requestElevationGroup o leftLoan.lendingMarket 3 1 leftLoan.reserves [6] [5]
        leftLoan.referrerTokenStates [] = .ok (o', rs', states') ∧
      getElevationGroup 1 leftLoan.lendingMarket = .ok (some g) ∧ g.Takes leftLoan.reserves o ∧
      Klend.refreshObligation o' leftLoan.lendingMarket 3 .perform rs' [6] [5] states' [] =
        .ok (o'', rs', states') ∧
      o''.borrowFactorAdjustedDebtValueSf.toRat ≤ g.allowedDebt o'' ∧
      leftLoan.process ⟨3, 10⟩ (.requestElevationGroup 0 1 [6, 5] []) = .ok w' ∧
      w'.reserves.tracker 5 none + o.debtOutside 5 = leftLoan.reserves.tracker 5 none := by
  have hlen : leftLoan.obligations.length = 1 := by decide
  obtain ⟨o, ho⟩ := List.length_eq_one_iff.1 hlen
  have hmem : o ∈ leftLoan.obligations := ho ▸ List.mem_singleton_self o
  have hloan : ∀ o ∈ leftLoan.obligations, o.elevationGroup = elevationGroupNone ∧
      o.debtOutside 5 = 500001 ∧
      ((Klend.requestElevationGroup o leftLoan.lendingMarket 3 1 leftLoan.reserves [6] [5]
        leftLoan.referrerTokenStates []).toOption.any fun _ ↦ true) = true := by
    decide
  obtain ⟨hnone, hdebt, hok⟩ := hloan o hmem
  obtain ⟨⟨o', rs', states'⟩, hrequest, -⟩ := exists_eq_ok hok
  obtain ⟨w', hproc, -⟩ := exists_eq_ok (show
    ((leftLoan.process ⟨3, 10⟩ (.requestElevationGroup 0 1 [6, 5] [])).toOption.any
      fun _ ↦ true) = true by decide)
  have hrun : Run Anything groupedMarket leftLoan := run_after _ _ fun _ _ _ ↦ trivial
  obtain ⟨henters, hleaves⟩ := requestElevationGroup_sound groupedMarket_genesis hrun
  obtain ⟨g, hgroup, htakes, -, o'', hrefresh, hallowed⟩ :=
    henters _ _ _ _ _ _ _ _ _ _ _ _ (by decide) hrequest
  obtain ⟨o₀, ho₀, hlost⟩ := hleaves _ _ _ _ _ _ hproc
  rw [ho] at ho₀
  obtain rfl := Option.some.inj ho₀
  exact ⟨o, g, o', rs', states', o'', w', ho, hdebt, hrequest, hgroup, htakes, hrefresh, hallowed,
    hproc, (hlost 5 (by decide)).2 hnone⟩

end World

end Klend
