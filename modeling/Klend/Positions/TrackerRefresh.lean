import Klend.Positions.TrackerUpdates

/-! # What a refresh does to both sides

Outside groups a refresh rebases the tracker of every debt, inside a group those of
every collateral, each to the debt rounded up. The other side keeps its counts and its
trackers.
-/

namespace Klend

/-- The debt of a slot in whole tokens, rounded up. -/
def ObligationLiquidity.owed (b : ObligationLiquidity) : ℕ :=
  (b.borrowedAmountSf.bits + (2 ^ 60 - 1)) / 2 ^ 60

theorem ObligationLiquidity.owed_eq {b : ObligationLiquidity} {n : U64}
    (h : b.borrowedAmountSf.toCeil = .ok n) : b.owed = n := (Fraction.toCeil_eq_ok.1 h).symm

theorem ObligationLiquidity.owed_eq_zero {b : ObligationLiquidity}
    (h : b.borrowedAmountSf = Fraction.zero) : b.owed = 0 := by
  rw [owed, h]
  rfl

/-- What an obligation owes, every debt rounded up. -/
def Obligation.owed (o : Obligation) : ℕ := (o.borrows.map ObligationLiquidity.owed).sum

section Slots

variable {o : Obligation} {market : LendingMarket} {slot : U64} {group : Option ElevationGroup}
  {index : ℕ} {key : Pubkey} {g : ElevationGroup} {j : Fin 32} {debt : U64}

/-- One debt refreshed moves the outside tracker by what it changes in the slot's count: inside a
group nothing, outside to the debt rounded up. -/
theorem refreshBorrow_moves {s s' : BorrowsPass} {b b' : ObligationLiquidity}
    (h : refreshBorrow o market slot group index s b key = .ok (s', b')) :
    ((group = none → ∀ r, s.reserves b.borrowReserve = some r →
        (b.count : ℕ) ≤ r.tracker none) →
      MovesTracker ObligationLiquidity.borrowReserve ObligationLiquidity.count none s.reserves
        s'.reserves b b') ∧
    b'.borrowReserve = b.borrowReserve ∧
    (group.isSome → b'.count = b.count) ∧ (group = none → b'.owed = b'.count) ∧
    (s'.borrowedAmountsAccumulatorForElevationGroup : ℕ) =
      s.borrowedAmountsAccumulatorForElevationGroup + b'.owed := by
  obtain ⟨r, b₁, n, r₁, b₂, slots, r₂, mv, bfmv, -, hr, rfl, -, -, hb₁, hn, hacc, htrack, -, hfees,
    -, -, -, -, hstore, -, rfl, -⟩ := refreshBorrow_spec h
  obtain ⟨-, -, -, hframe⟩ := accrueInterest_spec hb₁
  have hcount₁ : b₁.count = b.count := by rw [hframe]
  have hkey₁ : b₁.borrowReserve = b.borrowReserve := by rw [hframe]
  have hr₂ : ∀ u, r₂.tracker u = r₁.tracker u :=
    (Reserve.accumulateReferrerFees_moves (t := 0) (S := fun _ _ ↦ True) (F := fun _ _ ↦ True)
      (c := 0) hfees).tracker_eq
  have howed := ObligationLiquidity.owed_eq hn
  rw [Word.add_eq_ok] at hacc
  obtain ⟨x, rfl, -, -, rfl, rfl⟩ | ⟨m, rfl, hm, rfl, rfl⟩ := trackRefreshedBorrow_spec htrack
  · refine ⟨fun _ ↦ ⟨hkey₁, r₁, r₂, hr, hstore, ?_, fun u _ ↦ hr₂ u⟩, hkey₁, fun _ ↦ hcount₁, ?_,
      ?_⟩
    · rw [hr₂]
      exact congrArg (fun n : U64 ↦ (r₁.tracker none : ℕ) + n) hcount₁.symm
    · intro hnone
      cases hnone
    · rw [hacc, ← howed]
      rfl
  · refine ⟨fun hle ↦ ⟨hkey₁, r, r₂, hr, hstore, ?_, fun u hu ↦ ?_⟩, hkey₁, ?_, fun _ ↦ howed, ?_⟩
    · have hle := hle rfl r hr
      rw [hr₂, Reserve.tracker_setDebtOutside_same, hm]
      show (r.tracker none : ℕ) - (b₁.count : ℕ) + n + b.count = r.tracker none + (n : ℕ)
      rw [hcount₁]
      omega
    · rw [hr₂, Reserve.tracker_setDebtOutside_other hu]
    · intro hsome
      cases hsome
    · rw [hacc, ← howed]
      rfl

theorem refreshDeposit_moves {s s' : DepositsPass} {d d' : ObligationCollateral}
    (hj : g.getIndex = .ok j)
    (h : refreshDeposit market slot group (some (g, debt)) index s d key = .ok (s', d')) :
    ((∀ r, s.reserves d.depositReserve = some r → (d.count : ℕ) ≤ r.tracker (some j)) →
      MovesTracker ObligationCollateral.depositReserve ObligationCollateral.count (some j)
        s.reserves s'.reserves d d') ∧ d'.count = debt := by
  obtain ⟨r, r₁, d₁, mv, al, un, -, hr, rfl, -, -, htrack, -, -, -, -, -, -, hstore, rfl, -⟩ :=
    refreshDeposit_spec h
  obtain ⟨hnone, -⟩ | ⟨x, m, i, total, hsome, -, -, -, -, hr₁, hd₁⟩ :=
    trackRefreshedDeposit_spec htrack
  · cases hnone
  · obtain ⟨rfl, rfl⟩ := Prod.mk.inj (Option.some.inj hsome)
    have hkey : d₁.depositReserve = d.depositReserve := by rw [hd₁]; rfl
    have hcount : d₁.count = debt := by rw [hd₁]; rfl
    refine ⟨fun hle ↦ ?_, hcount⟩
    obtain ⟨hmoved, hother⟩ := (trackRefreshedDeposit_moves htrack hj (hle r hr)).1
    exact ⟨hkey, r, r₁, hr, hstore, hmoved, hother⟩

theorem refreshDeposit_keeps {s s' : DepositsPass} {d d' : ObligationCollateral}
    (h : refreshDeposit market slot group none index s d key = .ok (s', d')) :
    (d'.depositReserve = d.depositReserve ∧ d'.count = d.count) ∧
      ∀ k u, s'.reserves.tracker k u = s.reserves.tracker k u := by
  obtain ⟨r, r₁, d₁, mv, al, un, -, hr, rfl, -, -, htrack, -, -, -, -, -, -, hstore, rfl, -⟩ :=
    refreshDeposit_spec h
  obtain ⟨-, rfl, rfl⟩ | ⟨_, _, _, _, hsome, -⟩ := trackRefreshedDeposit_spec htrack
  · rw [hstore]
    exact ⟨⟨rfl, rfl⟩, Reserves.tracker_store_eq hr fun _ ↦ rfl⟩
  · cases hsome

end Slots

section Passes

variable {o o₁ o₂ : Obligation} {market : LendingMarket} {slot : U64}
  {group : Option ElevationGroup} {rs rs₁ rs₂ : Reserves} {iter iter' : List Pubkey}
  {states states' : ReferrerTokenStates} {stateKeys : List ReferrerTokenStateKey}
  {check : MaxReservesAsCollateralCheck} {debt : Option U64}
  {borrows : RefreshObligationBorrowsResult} {deposits : RefreshObligationDepositsResult}

/-- A debt slot before and after its refresh, as the trackers see it. -/
structure ObligationLiquidity.Recounted (group : Option ElevationGroup)
    (b b' : ObligationLiquidity) : Prop where
  key_eq : b'.borrowReserve = b.borrowReserve
  inGroup : group.isSome → b'.count = b.count
  outside : group = none → b.borrowReserve ≠ 0 → b'.owed = b'.count

theorem refreshObligationBorrows_recounted
    (h : refreshObligationBorrows o market slot group rs iter states stateKeys =
      .ok (o₁, rs₁, states', borrows)) :
    List.Forall₂ (ObligationLiquidity.Recounted group) o.borrows o₁.borrows := by
  obtain ⟨s, slots, hloop, -, rfl, -⟩ := refreshObligationBorrows_spec h
  refine forOccupied_forall₂ (fun b hfree ↦ ⟨rfl, fun _ ↦ rfl, fun _ hne ↦ ?_⟩) ?_ hloop
  · rw [(ObligationLiquidity.occupied_iff b).2 hne] at hfree
    cases hfree
  · intro _ s b k s' b' _ hbody
    obtain ⟨-, hkey, hcount, howed, -⟩ := refreshBorrow_moves hbody
    exact ⟨hkey, hcount, fun hnone _ ↦ howed hnone⟩

theorem refreshObligationBorrows_transfers
    (hcovers : Covers ObligationLiquidity.borrowReserve ObligationLiquidity.count none rs o.borrows)
    (h : refreshObligationBorrows o market slot none rs iter states stateKeys =
      .ok (o₁, rs₁, states', borrows)) :
    Transfers ObligationLiquidity.borrowReserve ObligationLiquidity.count none rs rs₁ o.borrows
      o₁.borrows := by
  obtain ⟨s, slots, hloop, -, rfl, rfl, -⟩ := refreshObligationBorrows_spec h
  exact @forOccupied_transfers _ _ _ _ BorrowsPass.reserves _ _ _ _ _ _ _ _ _
    ObligationLiquidity.occupied_iff
    (fun _ _ _ _ _ _ _ _ hle hbody ↦ (refreshBorrow_moves hbody).1 fun _ ↦ hle) hcovers hloop

theorem refreshObligationBorrows_tracker (hgroup : group.isSome)
    (h : refreshObligationBorrows o market slot group rs iter states stateKeys =
      .ok (o₁, rs₁, states', borrows)) (k : Pubkey) (u : Option (Fin 32)) :
    rs₁.tracker k u = rs.tracker k u := by
  obtain ⟨s, slots, hloop, -, -, rfl, -⟩ := refreshObligationBorrows_spec h
  refine forOccupied_relates (R := fun s s' : BorrowsPass ↦
    ∀ k u, s'.reserves.tracker k u = s.reserves.tracker k u) (fun _ _ _ ↦ rfl)
    (fun hab hbc k u ↦ (hbc k u).trans (hab k u)) ?_ hloop k u
  intro _ s b k s' b' _ hbody
  obtain ⟨hmoves, -, hcount, -⟩ := refreshBorrow_moves hbody
  refine (hmoves fun hnone ↦ ?_).tracker_eq (hcount hgroup)
  rw [hnone] at hgroup
  cases hgroup

theorem refreshObligationBorrows_owed (hgroup : group.isSome)
    (hempty : ∀ b ∈ o.borrows, b.borrowReserve = 0 → b.borrowedAmountSf = Fraction.zero)
    (h : refreshObligationBorrows o market slot group rs iter states stateKeys =
      .ok (o₁, rs₁, states', borrows)) :
    ∃ n : U64, borrows.borrowedAmountInElevationGroup = some n ∧ (n : ℕ) = o₁.owed := by
  obtain ⟨s, slots, hloop, -, rfl, -, -, -, -, hdebt, -⟩ := refreshObligationBorrows_spec h
  rw [if_pos hgroup] at hdebt
  refine ⟨_, hdebt, ?_⟩
  refine forOccupied_induct (P := fun l s ↦
    (s.borrowedAmountsAccumulatorForElevationGroup : ℕ) =
      (l.map ObligationLiquidity.owed).sum) rfl ?free ?step hloop
  case free =>
    intro l s b hb hfree hsum
    have hkey : b.borrowReserve = 0 := by
      by_contra hne
      rw [(ObligationLiquidity.occupied_iff b).2 hne] at hfree
      cases hfree
    rw [List.map_append, List.sum_append, List.map_cons, List.map_nil, List.sum_singleton,
      ObligationLiquidity.owed_eq_zero (hempty b (List.mem_of_getElem? hb) hkey)]
    exact hsum
  case step =>
    intro l s b k s' b' _ _ hbody hsum
    obtain ⟨-, -, -, -, hacc⟩ := refreshBorrow_moves hbody
    rw [List.map_append, List.sum_append, List.map_cons, List.map_nil, List.sum_singleton, hacc,
      hsum]

/-- Inside a group every collateral is transferred to the trackers of the group, and counts its
debt. -/
theorem refreshObligationDeposits_transfers {g : ElevationGroup} {j : Fin 32} {n : U64}
    (hj : g.getIndex = .ok j)
    (hcovers : Covers ObligationCollateral.depositReserve ObligationCollateral.count (some j) rs
      o.deposits)
    (h : refreshObligationDeposits o market slot check (some g) rs iter (some n) =
      .ok (o₁, rs₁, deposits)) :
    Transfers ObligationCollateral.depositReserve ObligationCollateral.count (some j) rs rs₁
      o.deposits o₁.deposits := by
  obtain ⟨-, s, slots, hloop, rfl, rfl, -⟩ := refreshObligationDeposits_spec h
  exact @forOccupied_transfers _ _ _ _ DepositsPass.reserves _ _ _ _ _ _ _ _ _
    ObligationCollateral.occupied_iff
    (fun _ _ _ _ _ _ _ _ hle hbody ↦ (refreshDeposit_moves hj hbody).1 hle) hcovers hloop

theorem refreshObligationDeposits_counts {g : ElevationGroup} {j : Fin 32} {n : U64}
    (hj : g.getIndex = .ok j)
    (h : refreshObligationDeposits o market slot check (some g) rs iter (some n) =
      .ok (o₁, rs₁, deposits)) : ∀ d ∈ o₁.deposits, d.depositReserve ≠ 0 → d.count = n := by
  obtain ⟨-, s, slots, hloop, rfl, -⟩ := refreshObligationDeposits_spec h
  refine forOccupied_induct (P := fun l _ ↦ ∀ d ∈ l, d.depositReserve ≠ 0 → d.count = n)
    (fun _ hd ↦ absurd hd List.not_mem_nil) ?free ?step hloop
  case free =>
    intro l _ d _ hfree hcounts d' hd' hne
    rcases List.mem_append.1 hd' with hd' | hd'
    · exact hcounts d' hd' hne
    · obtain rfl := List.mem_singleton.1 hd'
      rw [(ObligationCollateral.occupied_iff d').2 hne] at hfree
      cases hfree
  case step =>
    intro l s d k s' d' _ _ hbody hcounts e he hne
    rcases List.mem_append.1 he with he | he
    · exact hcounts e he hne
    · obtain rfl := List.mem_singleton.1 he
      exact (refreshDeposit_moves hj hbody).2

theorem refreshObligationDeposits_keeps
    (h : refreshObligationDeposits o market slot check none rs iter none =
      .ok (o₁, rs₁, deposits)) :
    (∀ k u, rs₁.tracker k u = rs.tracker k u) ∧
      List.Forall₂ (fun d d' ↦ d'.depositReserve = d.depositReserve ∧ d'.count = d.count)
        o.deposits o₁.deposits := by
  obtain ⟨-, s, slots, hloop, rfl, rfl, -⟩ := refreshObligationDeposits_spec h
  have hinv := forOccupied_invariant (P := fun s : DepositsPass ↦
    ∀ k u, s.reserves.tracker k u = rs.tracker k u)
    (Q := fun d d' ↦ d'.depositReserve = d.depositReserve ∧ d'.count = d.count)
    (fun _ _ _ ↦ ⟨rfl, rfl⟩) ?_ (fun _ _ ↦ rfl) hloop
  · exact hinv
  · intro _ s d k s' d' _ _ hP hbody
    obtain ⟨hslot, htracker⟩ := refreshDeposit_keeps hbody
    exact ⟨fun k u ↦ (htracker k u).trans (hP k u), hslot⟩

end Passes

end Klend
