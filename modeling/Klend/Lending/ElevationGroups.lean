import Klend.Lending.RefreshSpecs

/-! # What a group asks of an obligation

A change of group refreshes the positions under the target group, and each refreshed slot is
checked against it. So an obligation that is let into a group has positions that the group takes.
-/

namespace Klend

/-- A collateral that counts against the maximum of a group. -/
def ObligationCollateral.isCounted (d : ObligationCollateral) : Bool :=
  d.occupied ∧ 0 < d.depositedAmount

/-- What a group asks of the positions of an obligation. -/
structure ElevationGroup.Takes (g : ElevationGroup) (reserves : Reserves) (o : Obligation) :
    Prop where
  newLoans : g.newLoansDisabled = false
  debtReserve : g.debtReserve ≠ 0
  maxReserves : 0 < g.maxReservesAsCollateral
  borrows : ∀ b ∈ o.borrows, b.borrowReserve ≠ 0 → ∀ r, reserves b.borrowReserve = some r →
    g.id ∈ r.config.elevationGroups ∧ b.borrowReserve = g.debtReserve
  single : o.borrows.countP ObligationLiquidity.occupied ≤ 1
  deposits : ∀ d ∈ o.deposits, d.depositReserve ≠ 0 → ∀ r,
    reserves d.depositReserve = some r →
      g.id ∈ r.config.elevationGroups ∧ d.depositReserve ≠ g.debtReserve
  count : o.deposits.countP ObligationCollateral.isCounted ≤ g.maxReservesAsCollateral

variable {market : LendingMarket} {o o' : Obligation} {slot : U64} {g : ElevationGroup}
  {rs rs' : Reserves} {iter iter' : List Pubkey} {states states' : ReferrerTokenStates}
  {stateKeys : List ReferrerTokenStateKey}

theorem refreshObligationBorrows_takes {borrows : RefreshObligationBorrowsResult}
    (h : refreshObligationBorrows o market slot (some g) rs iter states stateKeys =
      .ok (o', rs', states', borrows)) :
    (∀ b ∈ o.borrows, b.borrowReserve ≠ 0 → ∀ r, rs b.borrowReserve = some r →
      g.id ∈ r.config.elevationGroups ∧ b.borrowReserve = g.debtReserve) ∧
    o.borrows.countP ObligationLiquidity.occupied ≤ 1 := by
  have hslots := (refreshObligationBorrows_frame h).2.1
  obtain ⟨s, slots, hloop, hsingle, rfl, -⟩ := refreshObligationBorrows_spec h
  constructor
  · have hlisted := (forOccupied_invariant
      (P := fun s : BorrowsPass ↦ Reserves.Rebooked rs s.reserves)
      (Q := fun b _ ↦ b.borrowReserve ≠ 0 → ∀ r, rs b.borrowReserve = some r →
        g.id ∈ r.config.elevationGroups ∧ b.borrowReserve = g.debtReserve)
      ?free ?step (.refl rs) hloop).2
    · intro b hb
      obtain ⟨i, hi⟩ := List.mem_iff_getElem?.1 hb
      obtain ⟨-, -, hb⟩ := SlotTable.exists_of_forall₂_left hlisted hi
      exact hb
    case free =>
      rintro b - hfree hne
      exact absurd hne (by simpa [ObligationLiquidity.occupied] using hfree)
    case step =>
      rintro j s b k s' b' - - hP hbody
      obtain ⟨r, r', hb, -, hr, hbook, hstore, -⟩ := refreshBorrow_slot hbody
      obtain ⟨r₁, b₁, n, r₂, b₂, slots, r₃, mv, bfmv, -, hr₁, -, -, -, -, -, -, htrack, -⟩ :=
        refreshBorrow_spec hbody
      refine ⟨hstore ▸ hP.trans (.store hr hbook), fun _ r₀ hr₀ ↦ ?_⟩
      obtain ⟨r₀', hr₀', _, _, _, _, _, rfl⟩ := hP.value_rev hr₁
      rw [hb, hr₀', Option.some.injEq] at hr₀
      subst hr₀
      obtain ⟨g', hg', hid, hdebt, -⟩ | ⟨m, hnone, -⟩ := trackRefreshedBorrow_spec htrack
      · obtain rfl := Option.some.inj hg'
        exact ⟨hid, hb.trans hdebt⟩
      · cases hnone
  · have hcount := forOccupied_induct (P := fun l (s : BorrowsPass) ↦
      s.numBorrowReserves = l.countP ObligationLiquidity.occupied) rfl ?free ?step hloop
    · have hsame := SlotTable.countP_eq_of_forall₂
        (hslots.imp fun b b' hb ↦ show b'.occupied = b.occupied by
          rw [ObligationLiquidity.occupied, hb.key_eq, ObligationLiquidity.occupied])
      rw [← hsame, ← hcount]
      exact hsingle rfl
    case free =>
      rintro l s b - hfree hP
      rw [hP, List.countP_append, List.countP_singleton, if_neg (by simp [hfree]), add_zero]
    case step =>
      rintro l s b k s' b' - - hbody hP
      obtain ⟨r, r', -, hk, -, -, -, -, hkey, -⟩ := refreshBorrow_slot hbody
      obtain ⟨r₁, b₁, n, r₂, b₂, slots, r₃, mv, bfmv, -, -, -, -, -, -, -, -, -, -, -, -, -, -, -,
        -, hnum, -⟩ := refreshBorrow_spec hbody
      have hoccupied : b'.occupied = true := by simp [ObligationLiquidity.occupied, hkey, hk]
      rw [hnum, hP, List.countP_append, List.countP_singleton, if_pos hoccupied]

theorem refreshDeposit_count {index : ℕ} {withDebt : Option (ElevationGroup × U64)}
    {group : Option ElevationGroup} {s s' : DepositsPass} {d d' : ObligationCollateral}
    {key : Pubkey} (h : refreshDeposit market slot group withDebt index s d key = .ok (s', d')) :
    s'.collateralsCount =
      if 0 < d.depositedAmount then s.collateralsCount + 1 else s.collateralsCount := by
  simp only [refreshDeposit, bind_of_ite, bind_eq_ok, pure_eq_ok, Prod.exists,
    Prod.mk.injEq] at h
  obtain ⟨r, -, -, -, -, -, -, -, r₁, d₁, -, mv, -, dv, -, al, -, abv, -, un, -, ubv, -, -, -, -, -,
    -, -, -, -, rfl, -⟩ := h
  rfl

/-- In a group the collaterals list the group, none is in its debt reserve, and there are not more
than it takes. -/
theorem refreshObligationDeposits_takes {debt : Option U64}
    {deposits : RefreshObligationDepositsResult}
    (h : refreshObligationDeposits o market slot .perform (some g) rs iter debt =
      .ok (o', rs', deposits)) :
    (∀ d ∈ o.deposits, d.depositReserve ≠ 0 → ∀ r, rs d.depositReserve = some r →
      g.id ∈ r.config.elevationGroups ∧ d.depositReserve ≠ g.debtReserve) ∧
    o.deposits.countP ObligationCollateral.isCounted ≤ g.maxReservesAsCollateral := by
  have hslots := (refreshObligationDeposits_frame h).2.1
  obtain ⟨hdebt, -⟩ := refreshObligationDeposits_spec h
  obtain ⟨n, rfl⟩ := Option.isSome_iff_exists.1 hdebt.symm
  simp only [refreshObligationDeposits, bind_eq_ok, require_eq_ok, pure_eq_ok, Prod.exists,
    Prod.mk.injEq] at h
  obtain ⟨-, rfl, s, slots, hloop, -, hmax, rfl, -⟩ := h
  constructor
  · have hlisted := (forOccupied_invariant
      (P := fun s : DepositsPass ↦ Reserves.Retracked rs s.reserves)
      (Q := fun d _ ↦ d.depositReserve ≠ 0 → ∀ r, rs d.depositReserve = some r →
        g.id ∈ r.config.elevationGroups ∧ d.depositReserve ≠ g.debtReserve)
      ?free ?step (.refl rs) hloop).2
    · intro d hd
      obtain ⟨i, hi⟩ := List.mem_iff_getElem?.1 hd
      obtain ⟨-, -, hd⟩ := SlotTable.exists_of_forall₂_left hlisted hi
      exact hd
    case free =>
      rintro d - hfree hne
      exact absurd hne (by simpa [ObligationCollateral.occupied] using hfree)
    case step =>
      rintro j s d k s' d' - - hP hbody
      obtain ⟨r, r', hd, -, hr, hbook, hstore, -⟩ := refreshDeposit_slot hbody
      obtain ⟨r₁, r₂, d₁, mv, al, un, -, hr₁, -, -, -, htrack, -⟩ := refreshDeposit_spec hbody
      refine ⟨hstore ▸ hP.trans (.store hr hbook), fun _ r₀ hr₀ ↦ ?_⟩
      obtain ⟨r₀', hr₀', _, _, rfl⟩ := hP.value_rev hr₁
      rw [hd, hr₀', Option.some.injEq] at hr₀
      subst hr₀
      obtain ⟨hnone, -⟩ | ⟨g', debt, i, m, hg', -, hid, hkey, -⟩ :=
        trackRefreshedDeposit_spec htrack
      · cases hnone
      · obtain rfl := (Prod.mk.inj (Option.some.inj hg')).1
        exact ⟨hid, hd ▸ hkey⟩
  · have hcount := forOccupied_induct (P := fun l (s : DepositsPass) ↦
      s.collateralsCount = l.countP ObligationCollateral.isCounted) rfl ?free ?step hloop
    · have hsame := SlotTable.countP_eq_of_forall₂ (hslots.imp fun d d' hd ↦
        show d'.isCounted = d.isCounted by
        rw [ObligationCollateral.isCounted, ObligationCollateral.occupied, hd.key_eq, hd.amount_eq]
        rfl)
      rw [← hsame, ← hcount]
      exact not_lt.1 fun hlt ↦ hmax ⟨trivial, hlt⟩
    case free =>
      rintro l s d - hfree hP
      rw [hP, List.countP_append, List.countP_singleton,
        if_neg (by simp [ObligationCollateral.isCounted, hfree]), add_zero]
    case step =>
      rintro l s d k s' d' - - hbody hP
      obtain ⟨r, r', -, hk, -, -, -, hkey, hamount, -⟩ := refreshDeposit_slot hbody
      have hoccupied : d'.occupied = true := by simp [ObligationCollateral.occupied, hkey, hk]
      rw [refreshDeposit_count hbody, hP, List.countP_append, List.countP_singleton,
        ObligationCollateral.isCounted, hoccupied, hamount]
      by_cases hpos : 0 < d.depositedAmount
      · simp [hpos]
      · simp [hpos]

/-- What holds of the slots and the ids that their reserves list is not changed by trackers. -/
theorem forall_listed_of_rebooked {σ : Type} {key : σ → Pubkey} {slots slots' : List σ}
    {p : Pubkey → List U8 → Prop} (hslots : List.Forall₂ (fun s s' ↦ key s' = key s) slots slots')
    (hbook : Reserves.Rebooked rs rs')
    (h : ∀ s ∈ slots', key s ≠ 0 → ∀ r, rs' (key s) = some r →
      p (key s) r.config.elevationGroups) :
    ∀ s ∈ slots, key s ≠ 0 → ∀ r, rs (key s) = some r → p (key s) r.config.elevationGroups := by
  intro s hs hne r hr
  obtain ⟨i, hi⟩ := List.mem_iff_getElem?.1 hs
  obtain ⟨s', hs', hkey⟩ := SlotTable.exists_of_forall₂_left hslots hi
  obtain ⟨r', hr', _, _, _, _, _, rfl⟩ := hbook.value hr
  have h' := h s' (List.mem_of_getElem? hs') (hkey ▸ hne) _ (hkey ▸ hr')
  rw [hkey] at h'
  exact h'

theorem requestElevationGroup_takes {newElevationGroup : U8}
    (h : requestElevationGroup o market slot newElevationGroup rs iter iter' states stateKeys =
      .ok (o', rs', states')) :
    o.elevationGroup ≠ newElevationGroup ∧ o.depositsEmpty = false ∧
      ∃ target, getElevationGroup newElevationGroup market = .ok target ∧
        ∀ g, target = some g → g.Takes rs o := by
  simp only [requestElevationGroup, checkObligationFullyRefreshedAndNotNull, bind_eq_ok,
    require_eq_ok, Prod.exists] at h
  obtain ⟨-, ⟨-, -, -, hempty, -⟩, -, hne, ltv, -, oldGroup, -, o₁, rs₁, hreset, target, htarget,
    h⟩ := h
  refine ⟨hne, hempty, target, htarget, ?_⟩
  rintro g rfl
  simp only [bind_eq_ok, require_eq_ok, Prod.exists] at h
  obtain ⟨-, hnew, -, hdebt, -, hmax, o₂, rs₂, st₂, borrows, hb, o₃, rs₃, deposits, hd, -⟩ := h
  obtain ⟨hslots, hbook⟩ := resetElevationGroupDebts_retracked hreset
  obtain ⟨hbooked, -, hframe⟩ := refreshObligationBorrows_frame hb
  obtain ⟨hborrows, hsingle⟩ := refreshObligationBorrows_takes hb
  obtain ⟨hdeposits, hcount⟩ := refreshObligationDeposits_takes hd
  rw [hframe] at hdeposits hcount
  have hborrowKeys : List.Forall₂ (fun b b' : ObligationLiquidity ↦
      b'.borrowReserve = b.borrowReserve) o.borrows o₁.borrows :=
    hslots.borrows.imp fun b b' hb ↦ by
      rw [hb.choose_spec]
      rfl
  have hdepositKeys : List.Forall₂ (fun d d' : ObligationCollateral ↦
      d'.depositReserve = d.depositReserve) o.deposits o₁.deposits :=
    hslots.deposits.imp fun d d' hd ↦ by
      rw [hd.choose_spec]
      rfl
  exact {
    newLoans := hnew
    debtReserve := hdebt
    maxReserves := hmax
    borrows := forall_listed_of_rebooked (p := fun key ids ↦ g.id ∈ ids ∧ key = g.debtReserve)
      hborrowKeys hbook.rebooked hborrows
    single := by
      rw [← SlotTable.countP_eq_of_forall₂ (hborrowKeys.imp fun b b' hb ↦
        show b'.occupied = b.occupied by
          rw [ObligationLiquidity.occupied, hb, ObligationLiquidity.occupied])]
      exact hsingle
    deposits := forall_listed_of_rebooked (p := fun key ids ↦ g.id ∈ ids ∧ key ≠ g.debtReserve)
      hdepositKeys (hbook.rebooked.trans hbooked) hdeposits
    count := by
      rw [← SlotTable.countP_eq_of_forall₂ (hslots.deposits.imp fun d d' hd ↦
        show d'.isCounted = d.isCounted by
          rw [hd.choose_spec]
          rfl)]
      exact hcount }

end Klend
