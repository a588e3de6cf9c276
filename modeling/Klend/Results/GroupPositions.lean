import Klend.Lending.ElevationGroups
import Klend.Positions.TrackerLimits
import Klend.Results.Isolation

/-! # The positions held in a group

What a change of group asks of the positions is asked again of every position opened
later, so it holds of every obligation in a group along a run.
-/

namespace Klend

/-- The reserve at the key lists the group. -/
def Reserves.Lists (rs : Reserves) (k : Pubkey) (id : U8) : Prop :=
  ∃ r, rs k = some r ∧ id ∈ r.config.elevationGroups

namespace Obligation

/-- All debt is in the group's debt reserve, and the collaterals are in other reserves that list
the group, not more than it takes. -/
structure Belongs (o : Obligation) (g : ElevationGroup) (rs : Reserves) : Prop where
  borrows : ∀ b ∈ o.borrows, b.borrowReserve ≠ 0 →
    b.borrowReserve = g.debtReserve ∧ rs.Lists b.borrowReserve o.elevationGroup
  deposits : ∀ d ∈ o.deposits, d.depositReserve ≠ 0 →
    d.depositReserve ≠ g.debtReserve ∧ rs.Lists d.depositReserve o.elevationGroup
  count : o.depositsCount ≤ g.maxReservesAsCollateral

/-- An obligation with a group belongs to it. -/
def InItsGroup (market : LendingMarket) (rs : Reserves) (o : Obligation) : Prop :=
  o.elevationGroup = elevationGroupNone ∨
    ∃ g, getElevationGroup o.elevationGroup market = .ok (some g) ∧ o.Belongs g rs

variable {market : LendingMarket} {o o' : Obligation} {g : ElevationGroup} {rs rs' : Reserves}

theorem Belongs.mono (h : o.Belongs g rs) (hle : ∀ k id, rs.Lists k id → rs'.Lists k id) :
    o.Belongs g rs' where
  borrows b hb hne := ⟨(h.borrows b hb hne).1, hle _ _ (h.borrows b hb hne).2⟩
  deposits d hd hne := ⟨(h.deposits d hd hne).1, hle _ _ (h.deposits d hd hne).2⟩
  count := h.count

theorem Belongs.shrinks (h : o.Belongs g rs) (hs : o.Shrinks o')
    (hgroup : o'.elevationGroup = o.elevationGroup) : o'.Belongs g rs where
  borrows b hb hne := by
    rcases hs.borrows.exists_mem hb hne with ⟨b₀, hb₀, hkey⟩
    rw [hgroup, hkey]
    exact h.borrows b₀ hb₀ (hkey ▸ hne)
  deposits d hd hne := by
    rcases hs.deposits.exists_mem hd hne with ⟨d₀, hd₀, hkey⟩
    rw [hgroup, hkey]
    exact h.deposits d₀ hd₀ (hkey ▸ hne)
  count := hs.deposits.countP_le.trans h.count

theorem InItsGroup.mono (h : o.InItsGroup market rs)
    (hle : ∀ k id, rs.Lists k id → rs'.Lists k id) : o.InItsGroup market rs' := by
  rcases h with hnone | ⟨g, hg, hbelongs⟩
  · exact .inl hnone
  · exact .inr ⟨g, hg, hbelongs.mono hle⟩

theorem InItsGroup.shrinks (h : o.InItsGroup market rs) (hs : o.Shrinks o')
    (hgroup : o'.elevationGroup = o.elevationGroup) : o'.InItsGroup market rs := by
  rcases h with hnone | ⟨g, hg, hbelongs⟩
  · exact .inl (hgroup.trans hnone)
  · exact .inr ⟨g, hgroup ▸ hg, hbelongs.shrinks hs hgroup⟩

end Obligation

section Operations

variable {market : LendingMarket} {o o' : Obligation} {r r' : Reserve} {rs rs' held held' : Reserves}
  {amount slot : U64} {clock : Clock} {key : Pubkey} {iter iter' : List Pubkey}
  {ost ost' : Option ReferrerTokenState} {res : CalculateBorrowResult}

theorem checkSameElevationGroup_lists (hr : rs key = some r)
    (hr' : r'.config.elevationGroups = r.config.elevationGroups)
    (h : checkSameElevationGroup o r' = .ok ()) (hne : o.elevationGroup ≠ elevationGroupNone) :
    rs.Lists key o.elevationGroup := by
  rw [checkSameElevationGroup, require_eq_ok, hr'] at h
  exact ⟨r, hr, h.resolve_left hne⟩

theorem countP_isCounted (hwf : o.WellFormed) :
    o.deposits.countP ObligationCollateral.isCounted = o.depositsCount := by
  apply List.countP_congr
  intro d hd
  rw [ObligationCollateral.isCounted, ObligationCollateral.occupied, decide_eq_true_eq,
    decide_eq_true_eq]
  constructor
  · exact And.left
  · exact fun hne ↦ ⟨hne, hwf.deposits.held d hd hne⟩

theorem requestElevationGroup_inItsGroup {newGroup : U8} {states states' : ReferrerTokenStates}
    {stateKeys : List ReferrerTokenStateKey} (hm : market.Validated) (hwf' : o'.WellFormed)
    (h : requestElevationGroup o market slot newGroup rs iter iter' states stateKeys =
      .ok (o', rs', states')) : o'.InItsGroup market rs' := by
  obtain ⟨-, -, oldGroup, group, o₁, rs₁, o₂, rs₂, borrows, o₃, deposits, -, -, hgroup, -, hd, rfl,
    hcheck⟩ := requestElevationGroup_spec h
  cases group with
  | none => exact .inl (LendingMarket.none_of_getElevationGroup (getElevationGroup_market hgroup))
  | some g =>
    obtain ⟨j, hj, hid⟩ := hm.exists_index_of_usable hgroup
    have hgid : g.id = newGroup :=
      Fin.ext ((ElevationGroup.getIndex_eq_ok.1 hj).symm.trans hid.symm)
    obtain ⟨hborrows, hdeposits⟩ := checkElevationGroupBorrowLimitConstraints_spec hcheck
    refine .inr ⟨g, hgroup, ?_, ?_, ?_⟩
    · intro b hb hne
      obtain ⟨r, hr, hlisted, -⟩ := hborrows b hb hne
      exact ⟨(hlisted g rfl).2, r, hr, hgid ▸ (hlisted g rfl).1⟩
    · intro d hd hne
      obtain ⟨r, hr, hlisted⟩ := hdeposits d hd hne
      exact ⟨(hlisted g rfl).2.1, r, hr, hgid ▸ (hlisted g rfl).1⟩
    · have hslots := (refreshObligationDeposits_frame hd).2.1
      have hsame := SlotTable.countP_eq_of_forall₂ (hslots.imp fun d d' hd ↦
        show d'.isCounted = d.isCounted by
        rw [ObligationCollateral.isCounted, ObligationCollateral.occupied, hd.key_eq, hd.amount_eq]
        rfl)
      have hcount : _ = Obligation.depositsCount _ := countP_isCounted hwf'
      rw [← hcount]
      exact hsame.trans_le (refreshObligationDeposits_takes hd).2

theorem depositObligationCollateral_lists {check : MaxReservesAsCollateralCheck}
    (h : depositObligationCollateral market r o slot amount key check = .ok (r', o')) :
    checkSameElevationGroup o r = .ok () := by
  simp only [depositObligationCollateral, bind_eq_ok] at h
  obtain ⟨-, -, -, -, -, -, -, -, u, hsame, -⟩ := h
  exact hsame

theorem borrowObligationLiquidity_lists
    (h : borrowObligationLiquidity market r o amount clock key ost held iter =
      .ok (r', o', ost', held', res)) : checkSameElevationGroup o r = .ok () := by
  simp only [borrowObligationLiquidity, bind_eq_ok] at h
  obtain ⟨-, -, -, -, -, -, -, -, -, -, -, -, -, -, -, -, -, -, u, hsame, -⟩ := h
  exact hsame

/-- A collateral opened in a group is not in its debt reserve, and the group has room for it. -/
theorem updateOnNewDeposit_takes {total : Option U64} {d d' : ObligationCollateral} {count : ℕ}
    {g : ElevationGroup}
    (h : updateElevationGroupDebtTrackersOnNewDeposit total d count (some g) key r .perform =
      .ok (d', r')) :
    key ≠ g.debtReserve ∧ count + 1 ≤ g.maxReservesAsCollateral ∧
      d'.depositReserve = d.depositReserve := by
  simp only [updateElevationGroupDebtTrackersOnNewDeposit, bind_eq_ok, require_eq_ok, okOr_eq_ok,
    pure_eq_ok, Prod.mk.injEq] at h
  obtain ⟨-, hdebt, -, hroom, -, -, n, -, m, -, rfl, -⟩ := h
  exact ⟨Ne.symm hdebt, not_lt.1 fun hlt ↦ hroom ⟨trivial, hlt⟩, rfl⟩

theorem depositsCount_set (i : ℕ) (d' : ObligationCollateral) :
    Obligation.depositsCount { o with deposits := o.deposits.set i d' } ≤ o.depositsCount + 1 := by
  by_cases hi : i < o.deposits.length
  · rw [Obligation.depositsCount, List.countP_set hi]
    apply Nat.add_le_add (Nat.sub_le _ _)
    split
    · exact le_rfl
    · exact Nat.zero_le _
  · rw [List.set_eq_of_length_le (not_lt.1 hi)]
    exact Nat.le_succ _

/-- A deposit in a group opens a collateral only where the group takes it. -/
theorem depositObligationCollateral_inItsGroup {r₀ : Reserve} (hr : rs key = some r₀)
    (hr' : r.config.elevationGroups = r₀.config.elevationGroups) (ho : o.InItsGroup market rs)
    (h : depositObligationCollateral market r o slot amount key .perform = .ok (r', o')) :
    o'.InItsGroup market rs := by
  have hlists := checkSameElevationGroup_lists hr hr' (depositObligationCollateral_lists h)
  obtain ⟨-, -, group, total, tier, o₁, i, r₁, d, d₁, hgroup, -, hfind, hd, hd₁, rfl, -⟩ :=
    depositObligationCollateral_spec h
  have hgrown : d₁.depositReserve = d.depositReserve := by
    simp only [ObligationCollateral.deposit, bind_eq_ok, okOr_eq_ok, pure_eq_ok] at hd₁
    obtain ⟨x, -, rfl⟩ := hd₁
    rfl
  rcases findOrAddCollateral_spec hfind with ⟨rfl, -⟩ | ⟨-, ⟨free, hfree, -⟩, e, he, rfl⟩
  · have hshrinks : o₁.Shrinks { o₁ with deposits := o₁.deposits.set i d₁ } :=
      ⟨.set hd hgrown, .refl _ _⟩
    rcases ho.shrinks hshrinks rfl with hnone | ⟨g, hg, hbelongs⟩
    · exact .inl hnone
    · exact .inr ⟨g, hg, hbelongs.borrows, hbelongs.deposits, hbelongs.count⟩
  · rcases ho with hnone | ⟨g, hg, hbelongs⟩
    · exact .inl hnone
    · obtain rfl := Except.ok.inj (hgroup.symm.trans hg)
      obtain ⟨hdebt, hroom, hekey⟩ := updateOnNewDeposit_takes he
      rw [List.getElem?_set_self (List.getElem?_eq_some_iff.1 hfree).1, Option.some.injEq] at hd
      subst hd
      have hkey₁ : d₁.depositReserve = key := hgrown.trans hekey
      have hne : o.elevationGroup ≠ elevationGroupNone := by
        intro hnone
        rw [hnone] at hg
        cases getElevationGroup_none hg
      refine .inr ⟨g, hg, hbelongs.borrows, ?_, ?_⟩
      · intro c hc hcne
        change c ∈ (o.deposits.set i e).set i d₁ at hc
        rw [List.set_set] at hc
        rcases List.mem_or_eq_of_mem_set hc with hc | rfl
        · exact hbelongs.deposits c hc hcne
        · rw [hkey₁]
          exact ⟨hdebt, hlists hne⟩
      · show ((o.deposits.set i e).set i d₁).countP _ ≤ _
        rw [List.set_set]
        exact (depositsCount_set i d₁).trans hroom

theorem borrow_debtReserve {n : U64} {i : ℕ} {g : ElevationGroup}
    (h : updateElevationGroupDebtTrackersOnBorrow n o i (some g) key r held iter =
      .ok (o', r', held')) : g.debtReserve = key := by
  simp only [updateElevationGroupDebtTrackersOnBorrow, bind_eq_ok, require_eq_ok] at h
  obtain ⟨j, -, -, hdebt, -⟩ := h
  exact hdebt

theorem borrowObligationLiquidity_keys {n : U64} {i : ℕ} {group : Option ElevationGroup}
    {rate : BigFraction} {tier : AssetTier} {o₁ o₂ : Obligation} {b b₁ : ObligationLiquidity}
    {f : Fraction} (hfind : o.findOrAddLiquidityToBorrows key rate tier = .ok (o₁, i))
    (hb : o₁.borrows[i]? = some b) (hb₁ : b.borrow f = .ok b₁)
    (h : updateElevationGroupDebtTrackersOnBorrow n
      (Obligation.markStale { o₁ with borrows := o₁.borrows.set i b₁, hasDebt := 1 }) i group key r
      held iter = .ok (o₂, r', held')) :
    ∀ c ∈ o₂.borrows, c.borrowReserve ≠ 0 → c.borrowReserve = key ∨
      ∃ c₀ ∈ o.borrows, c.borrowReserve = c₀.borrowReserve := by
  have hkey : b₁.borrowReserve = key := by
    have hgrown : b₁.borrowReserve = b.borrowReserve := by
      simp only [ObligationLiquidity.borrow, bind_eq_ok, pure_eq_ok] at hb₁
      obtain ⟨x, -, rfl⟩ := hb₁
      rfl
    rcases findOrAddLiquidity_spec hfind hb with ⟨-, hkey⟩ | ⟨-, -, rfl, -⟩
    · exact hgrown.trans hkey
    · exact hgrown
  intro c hc hne
  obtain ⟨c₁, hc₁, hsame⟩ := (updateOnBorrow_retracked h).1.shrinks.borrows.exists_mem hc hne
  rw [hsame]
  rcases List.mem_or_eq_of_mem_set hc₁ with hc₁ | rfl
  · rcases findOrAddLiquidity_spec hfind hb with ⟨rfl, -⟩ | ⟨-, -, -, rfl⟩
    · exact .inr ⟨c₁, hc₁, rfl⟩
    · rcases List.mem_or_eq_of_mem_set hc₁ with hc₁ | rfl
      · exact .inr ⟨c₁, hc₁, rfl⟩
      · exact .inl rfl
  · exact .inl hkey

theorem borrowObligationLiquidity_inItsGroup (hr : rs key = some r) (ho : o.InItsGroup market rs)
    (hwf : o.WellFormed) (hkey : key ≠ 0) (htiers : o.TiersOf rs)
    (h : borrowObligationLiquidity market r o amount clock key ost held iter =
      .ok (r', o', ost', held', res)) : o'.InItsGroup market rs := by
  have hlists := checkSameElevationGroup_lists hr rfl (borrowObligationLiquidity_lists h)
  obtain ⟨hdeposits, hsame, -⟩ := borrowObligationLiquidity_positions hwf hkey hr htiers h
  obtain ⟨-, -, -, -, n, cap, l, tier, o₁, i, b, b₁, r₁, group, b₂, -, -, hfind, hb, hb₁, -, hgroup,
    htrack, -⟩ := borrowObligationLiquidity_spec h
  rcases ho with hnone | ⟨g, hg, hbelongs⟩
  · exact .inl (hsame.trans hnone)
  · have hne : o.elevationGroup ≠ elevationGroupNone := by
      intro hnone
      rw [hnone] at hg
      cases getElevationGroup_none hg
    have hgroup₁ : o₁.elevationGroup = o.elevationGroup := by
      rcases findOrAddLiquidity_spec hfind hb with ⟨rfl, -⟩ | ⟨-, -, -, rfl⟩ <;> rfl
    rw [hgroup₁] at hgroup
    obtain rfl := Except.ok.inj (hgroup.symm.trans (getElevationGroup_market hg))
    have hdebt := borrow_debtReserve htrack
    have hkeys := borrowObligationLiquidity_keys hfind hb hb₁ htrack
    refine .inr ⟨g, hsame ▸ hg, ?_, ?_, ?_⟩
    · intro c hc hcne
      rw [hsame]
      rcases hkeys c hc hcne with hckey | ⟨c₀, hc₀, hckey⟩
      · rw [hckey]
        exact ⟨hdebt.symm, hlists hne⟩
      · rw [hckey]
        exact hbelongs.borrows c₀ hc₀ (hckey ▸ hcne)
    · intro d hd hdne
      obtain ⟨d₀, hd₀, hdkey⟩ := hdeposits.exists_mem hd hdne
      rw [hsame, hdkey]
      exact hbelongs.deposits d₀ hd₀ (hdkey ▸ hdne)
    · exact hdeposits.countP_le.trans hbelongs.count

end Operations

namespace World

variable {w w' : World} {clock : Clock} {ix : Instruction} {index : ℕ} {o o' : Obligation}

theorem process_lists (h : w.process clock ix = .ok w') (k : Pubkey) (id : U8)
    (hlists : w.reserves.Lists k id) : w'.reserves.Lists k id := by
  obtain ⟨r, hr, hmem⟩ := hlists
  obtain ⟨r', hr', hev⟩ := (process_evolve h).value hr
  refine ⟨r', hr', ?_⟩
  rw [hev.settings]
  exact hmem

/-- No instruction leaves an obligation in a group that does not take its positions. -/
theorem ChangesObligation.inItsGroup (h : w.process clock ix = .ok w')
    (hch : ChangesObligation w w' clock index ix o o') (hm : w.lendingMarket.Validated)
    (hwf : o.WellFormed) (hwf' : o'.WellFormed) (htiers : o.TiersOf w.reserves)
    (ho : o.InItsGroup w.lendingMarket w.reserves) :
    o'.InItsGroup w.lendingMarket w'.reserves := by
  by_cases hix : ix.OpensPosition
  · cases hch with
    | deposit hr hr₁ hop _ =>
      have hconfig := Reserve.refreshReserve_settings hr₁
      have hlisted := depositObligationCollateral_inItsGroup (loadReserve_eq_ok.1 hr).2.1
        (by rw [hconfig]) ho hop
      exact hlisted.mono (process_lists h)
    | borrow hr hop _ =>
      obtain ⟨hkey, hr, -⟩ := loadReserve_eq_ok.1 hr
      exact (borrowObligationLiquidity_inItsGroup hr ho hwf hkey htiers hop).mono (process_lists h)
    | _ => exact absurd hix id
  · rcases hch.elevationGroup_eq with ⟨newGroup, remaining, states, rfl⟩ | hgroup
    · cases hch with
      | request hop => exact requestElevationGroup_inItsGroup hm hwf' hop
    · exact (ho.shrinks (hch.shrinks hix htiers) hgroup).mono (process_lists h)

/-- Every obligation is isolated and belongs to its group. -/
structure Grouped (w : World) : Prop extends Isolated w where
  market : w.lendingMarket.Validated
  inItsGroup : ∀ o ∈ w.obligations, o.InItsGroup w.lendingMarket w.reserves

theorem process_grouped (h : w.process clock ix = .ok w') (hw : w.Grouped) : w'.Grouped where
  toIsolated := process_isolated h hw.toIsolated
  market := by
    rw [process_lendingMarket h]
    exact hw.market
  inItsGroup := by
    have hwf' := process_wellFormed h hw.toWellFormed
    rw [process_lendingMarket h]
    obtain ⟨-, heq⟩ | ⟨-, -, tag, owner, referrer, heq⟩ | ⟨index, o, o', -, ho, heq, hch⟩ :=
      process_obligations h
    · intro o ho
      rw [heq] at ho
      exact (hw.inItsGroup o ho).mono (process_lists h)
    · intro o ho
      rw [heq, List.mem_append, List.mem_singleton] at ho
      obtain ho | rfl := ho
      · exact (hw.inItsGroup o ho).mono (process_lists h)
      · exact .inl rfl
    · intro p hp
      have hp' := hwf'.obligations p hp
      rw [heq] at hp
      obtain hp | rfl := List.mem_or_eq_of_mem_set hp
      · exact (hw.inItsGroup p hp).mono (process_lists h)
      · have hmem := List.mem_of_getElem? ho
        exact hch.inItsGroup h hw.market (hw.obligations o hmem) hp' (hw.tiersOf o hmem)
          (hw.inItsGroup o hmem)

variable {w₀ : World}

theorem Genesis.grouped (h : w.Genesis) : w.Grouped where
  toIsolated := h.isolated
  market := h.market
  inItsGroup := by simp [h.obligations]

theorem Run.grouped {Admitted : World → Clock → Instruction → Prop} (h : Run Admitted w₀ w)
    (hw : w₀.Grouped) : w.Grouped := by
  apply Transition.Preserves.run (P := Grouped) _ hw h
  rintro w w' hw ⟨clock, ix, -, hproc⟩
  exact process_grouped hproc hw

end World

theorem Obligation.WellFormed.borrowsCount_le_one {o : Obligation} {k : Pubkey} (h : o.WellFormed)
    (hkey : ∀ b ∈ o.borrows, b.borrowReserve ≠ 0 → b.borrowReserve = k) : o.borrowsCount ≤ 1 := by
  have hdistinct := h.borrows.pairwise
  unfold borrowsCount
  generalize o.borrows = slots at hkey hdistinct
  induction hdistinct with
  | nil => exact Nat.zero_le _
  | @cons b slots hother _ ih =>
    have htail := ih fun c hc ↦ hkey c (List.mem_cons_of_mem _ hc)
    rw [List.countP_cons]
    by_cases hne : b.borrowReserve ≠ 0
    · have hnone : slots.countP (·.borrowReserve ≠ 0) = 0 := by
        rw [List.countP_eq_zero]
        intro c hc hcne
        have hcne := of_decide_eq_true hcne
        refine hother c hc hne ?_
        rw [hkey b List.mem_cons_self hne, hkey c (List.mem_cons_of_mem _ hc) hcne]
      rw [hnone, if_pos (decide_eq_true hne)]
    · rw [if_neg (by simpa using hne)]
      exact htail

namespace World

variable {w₀ w : World} {o : Obligation}

end World

end Klend
