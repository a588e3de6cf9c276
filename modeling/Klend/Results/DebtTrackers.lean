import Klend.Positions.TrackerLimits
import Klend.Results.ObligationFreshness

/-! # The debt trackers of reachable states

Every tracker of a reserve is the sum of what the obligations count against it, and a
fresh obligation counts just its debts. So no subtraction from a tracker is ever cut off.
A tracker rises above its limit only by interest or by a new collateral in a group.
-/

namespace Klend

theorem Obligation.init_contribution {tag slot : U64} {market owner referrer k : Pubkey}
    {t : Option (Fin 32)} (hk : k ≠ 0) :
    (Obligation.init tag slot market owner referrer).contribution k t = 0 := by
  have huncounted : (Obligation.init tag slot market owner referrer).Uncounted := by
    constructor
    · intro d hd _
      rw [List.eq_of_mem_replicate hd]
      rfl
    · intro b hb _
      rw [List.eq_of_mem_replicate hb]
      rfl
  exact huncounted.contribution hk

theorem Obligation.init_counted {tag slot : U64} {market owner referrer : Pubkey} :
    (Obligation.init tag slot market owner referrer).Counted := by
  apply Obligation.Counted.of_stale _ rfl
  constructor
  · intro hne
    exact absurd rfl hne
  · intro _ d hd _
    rw [List.eq_of_mem_replicate hd]
    rfl

namespace World

variable {w w' : World} {clock : Clock} {ix : Instruction} {k : Pubkey} {t : Option (Fin 32)}

/-- What the obligations together contribute to a tracker. -/
def contributions (w : World) (k : Pubkey) (t : Option (Fin 32)) : ℕ :=
  (w.obligations.map fun o ↦ o.contribution k t).sum

theorem contributions_inGroup (g : Fin 32) : w.contributions k (some g) =
    ((w.obligations.filter fun o ↦ (o.elevationGroup : ℕ) = g + 1).map
      (Obligation.debtAgainst k)).sum := by
  have hsum := List.sum_map_ite (fun o : Obligation ↦ (o.elevationGroup : ℕ) = g + 1)
    (Obligation.debtAgainst k) (fun _ ↦ 0) w.obligations
  rw [List.sum_map_zero, Nat.add_zero] at hsum
  exact hsum

theorem contributions_outside : w.contributions k none =
    ((w.obligations.filter fun o ↦ o.elevationGroup = elevationGroupNone).map
      (Obligation.debtOutside k)).sum := by
  have hsum := List.sum_map_ite (fun o : Obligation ↦ o.elevationGroup = elevationGroupNone)
    (Obligation.debtOutside k) (fun _ ↦ 0) w.obligations
  rw [List.sum_map_zero, Nat.add_zero] at hsum
  exact hsum

theorem contribution_le {o : Obligation} (ho : o ∈ w.obligations) :
    o.contribution k t ≤ w.contributions k t :=
  List.le_sum_of_mem (List.mem_map_of_mem ho)

/-- The trackers are the sums of the contributions of obligations that count their debts. -/
structure Tracked (w : World) : Prop extends UpToDate w where
  market : w.lendingMarket.Validated
  counted : ∀ o ∈ w.obligations, o.Counted
  aggregates : ∀ k, k ≠ 0 → ∀ t, w.reserves.tracker k t = w.contributions k t

theorem Tracked.coveredBy {o : Obligation} (h : w.Tracked) (ho : o ∈ w.obligations) :
    o.CoveredBy w.reserves := by
  intro k hk t
  rw [h.aggregates k hk t]
  exact contribution_le ho

theorem ActsOnReserve.tracker_eq {T : ℕ} {key : Pubkey}
    (h : ActsOnReserve T (fun _ _ ↦ True) (fun _ _ ↦ True) key w w') (k : Pubkey)
    (t : Option (Fin 32)) : w'.reserves.tracker k t = w.reserves.tracker k t := by
  obtain ⟨r, r', hr, hreserves, hmoves⟩ := h.reserve
  obtain ⟨-, hr, -⟩ := loadReserve_eq_ok.1 hr
  rw [hreserves]
  exact Reserves.tracker_store_eq hr hmoves.tracker_eq k t

theorem process_tracker (h : w.process clock ix = .ok w') (hix : ix.namedObligation = none)
    (k : Pubkey) (t : Option (Fin 32)) : w'.reserves.tracker k t = w.reserves.tracker k t := by
  cases ix with
  | refreshReserve => exact (refreshReserve_acts h).tracker_eq k t
  | depositReserveLiquidity => exact (depositReserveLiquidity_acts (t := 0) h).tracker_eq k t
  | redeemReserveCollateral => exact (redeemReserveCollateral_acts h).tracker_eq k t
  | flashBorrowReserveLiquidity =>
    exact (flashBorrowReserveLiquidity_acts (t := 0) h).tracker_eq k t
  | flashRepayReserveLiquidity => exact (flashRepayReserveLiquidity_acts h).tracker_eq k t
  | redeemFees => exact (redeemFees_acts (t := 0) h).tracker_eq k t
  | withdrawReferrerFees => exact (withdrawReferrerFees_acts (t := 0) h).tracker_eq k t
  | initReferrerTokenState =>
    simp only [process, initReferrerTokenState, bind_eq_ok, pure_eq_ok] at h
    obtain ⟨-, -, -, -, rfl⟩ := h
    rfl
  | initObligation =>
    simp only [process, initObligation, pure_eq_ok] at h
    subst h
    rfl
  | _ => cases hix

theorem process_aggregates (h : w.process clock ix = .ok w') (hw : w.Tracked) (hk : k ≠ 0) :
    w'.reserves.tracker k t = w'.contributions k t := by
  have haggregates := hw.aggregates k hk t
  obtain ⟨hix, heq⟩ | ⟨-, hreserves, tag, owner, referrer, heq⟩ |
    ⟨index, o, o', -, ho, heq, hch⟩ := process_obligations h
  · rw [process_tracker h hix, haggregates, contributions, contributions, heq]
  · rw [hreserves, haggregates, contributions, contributions, heq, List.map_append,
      List.sum_append, List.map_singleton, List.sum_singleton, Obligation.init_contribution hk]
    rfl
  · have hmem := List.mem_of_getElem? ho
    have hfollows := hch.follows hw.market (hw.counted o hmem) (hw.upToDate o hmem)
      (hw.coveredBy hmem) k hk t
    have hsum : w'.contributions k t + o.contribution k t =
        w.contributions k t + o'.contribution k t := by
      rw [contributions, heq]
      exact SlotTable.sum_set ho
    omega

theorem process_tracked (h : w.process clock ix = .ok w') (hw : w.Tracked) : w'.Tracked where
  toUpToDate := process_upToDate h hw.toUpToDate
  market := by
    rw [process_lendingMarket h]
    exact hw.market
  counted := process_forall (P := fun _ o ↦ o.Counted) h (fun _ _ _ ↦ Obligation.init_counted)
    (fun _ _ _ hch ho hcounted ↦ hch.counted hw.market (hw.obligations _ ho) (hw.coveredBy ho)
      hcounted) (fun _ _ hcounted ↦ hcounted) hw.counted
  aggregates _ hk _ := process_aggregates h hw hk

/-- A tracker rises within its limit by a borrow or a change of group, otherwise only by a refresh
or by a deposit for an obligation in a group. -/
theorem process_raises (h : w.process clock ix = .ok w') (hw : w.Tracked) (hk : k ≠ 0)
    (hraised : w.reserves.tracker k t < w'.reserves.tracker k t) :
    (ix.takesLimit = true ∧ w'.reserves.Within k t) ∨
    (∃ index remaining states, ix = .refreshObligation index remaining states) ∨
    ∃ (index : ℕ) (amount : U64) (o : Obligation) (g : Fin 32),
      ix = .depositObligationCollateral index k amount ∧ t = some g ∧
      w.obligations[index]? = some o ∧ (o.elevationGroup : ℕ) = g + 1 := by
  obtain ⟨hix, -⟩ | ⟨-, hreserves, -⟩ | ⟨index, o, o', -, ho, -, hch⟩ := process_obligations h
  · rw [process_tracker h hix] at hraised
    exact absurd hraised (lt_irrefl _)
  · rw [hreserves] at hraised
    exact absurd hraised (lt_irrefl _)
  · have hmem := List.mem_of_getElem? ho
    rcases hch.raises hw.market (hw.counted o hmem) (hw.upToDate o hmem) (hw.coveredBy hmem) hk
      hraised with hwithin | ⟨remaining, states, hix⟩ | ⟨amount, j, hix, ht, hid⟩
    · exact .inl hwithin
    · exact .inr (.inl ⟨index, remaining, states, hix⟩)
    · exact .inr (.inr ⟨index, amount, o, j, hix, ht, ho, hid⟩)

variable {w₀ : World}

theorem Genesis.tracked (h : w.Genesis) : w.Tracked where
  toUpToDate := h.upToDate
  market := h.market
  counted := by simp [h.obligations]
  aggregates k _ t := by
    rw [contributions, h.obligations]
    unfold Reserves.tracker
    split
    · next r hr =>
      obtain ⟨slot, lendingMarket, mint, decimals, deposit, -, hinit⟩ := (h.reserve k r hr).init
      rw [hinit]
      cases t <;> rfl
    · rfl

theorem Run.tracked {Admitted : World → Clock → Instruction → Prop} (h : Run Admitted w₀ w)
    (hw : w₀.Tracked) : w.Tracked := by
  apply Transition.Preserves.run (P := Tracked) _ hw h
  rintro w w' hw ⟨clock, ix, -, hproc⟩
  exact process_tracked hproc hw

end World

/-- The counts of an obligation: only those of the side that its group uses, each covered by its
tracker, and while the obligation is fresh each the debt it stands for. -/
structure Obligation.CountsKept (o : Obligation) (rs : Reserves) : Prop where
  inGroup : ∀ g : Fin 32, (o.elevationGroup : ℕ) = g + 1 →
    (∀ b ∈ o.borrows, b.borrowReserve ≠ 0 → b.count = 0) ∧
    ∀ d ∈ o.deposits, d.depositReserve ≠ 0 →
      (∀ r, rs d.depositReserve = some r → d.count ≤ r.debtInGroup g) ∧
      (o.lastUpdate.stale = false → (d.count : ℕ) = o.owed)
  outside : o.elevationGroup = elevationGroupNone →
    (∀ d ∈ o.deposits, d.depositReserve ≠ 0 → d.count = 0) ∧
    ∀ b ∈ o.borrows, b.borrowReserve ≠ 0 →
      (∀ r, rs b.borrowReserve = some r → b.count ≤ r.borrowedAmountOutsideElevationGroup) ∧
      (o.lastUpdate.stale = false → (b.count : ℕ) = b.owed)

theorem Obligation.Counted.kept {o : Obligation} {rs : Reserves} (h : o.Counted)
    (hcovered : o.CoveredBy rs) : o.CountsKept rs where
  inGroup g hg := by
    have hne : o.elevationGroup ≠ elevationGroupNone := by
      intro hnone
      rw [hnone] at hg
      exact absurd hg (Nat.succ_ne_zero _).symm
    refine ⟨h.inGroup hne, fun d hd hkey ↦ ⟨fun r hr ↦ ?_, fun hfresh ↦ ?_⟩⟩
    · have hle := hcovered.deposits hg d.depositReserve hkey r hr
      exact (count_le_countedFor hd).trans hle
    · exact (h.fresh hfresh).inGroup hne d hd hkey
  outside hnone := by
    refine ⟨h.outside hnone, fun b hb hkey ↦ ⟨fun r hr ↦ ?_, fun hfresh ↦ ?_⟩⟩
    · have hle := hcovered.borrows hnone b.borrowReserve hkey r hr
      exact (count_le_countedFor hb).trans hle
    · exact (h.fresh hfresh).outside hnone b hb hkey

namespace World

variable {w₀ w : World} {k : Pubkey} {r : Reserve} {o : Obligation}

theorem Tracked.sums (h : w.Tracked) (hk : k ≠ 0) (hr : w.reserves k = some r) :
    (∀ g : Fin 32, (r.debtInGroup g : ℕ) =
      ((w.obligations.filter fun o ↦ (o.elevationGroup : ℕ) = g + 1).map
        (Obligation.debtAgainst k)).sum) ∧
    (r.borrowedAmountOutsideElevationGroup : ℕ) =
      ((w.obligations.filter fun o ↦ o.elevationGroup = elevationGroupNone).map
        (Obligation.debtOutside k)).sum := by
  constructor
  · intro g
    rw [← contributions_inGroup, ← h.aggregates k hk, Reserves.tracker_eq hr]
    rfl
  · rw [← contributions_outside, ← h.aggregates k hk, Reserves.tracker_eq hr]
    rfl

/-- The counts of an obligation are covered by the trackers, and a fresh one counts enough for every
settlement of a debt. -/
theorem Tracked.settles (h : w.Tracked) (ho : o ∈ w.obligations) :
    o.CountsKept w.reserves ∧
    (o.lastUpdate.stale = false → ∀ (i : ℕ) (b : ObligationLiquidity) (settle : Fraction) (n : U64),
      o.borrows[i]? = some b → b.borrowReserve ≠ 0 → settle ≤ b.borrowedAmountSf →
      settle.toCeil = .ok n → o.CountsRepay i n) := by
  have hcounted := h.counted o ho
  refine ⟨hcounted.kept (h.coveredBy ho), fun hfresh i b settle n hb hkey hle hn ↦ ?_⟩
  exact (hcounted.fresh hfresh).countsRepay hb hkey (Fraction.ceil_le hn hle)

/-- In every reachable state all trackers are exact, and all that is ever taken out of one is in
it. -/
theorem debtTrackers_exact (h : w₀.Genesis) (hrun : Run Anything w₀ w) :
    (∀ k, k ≠ 0 → ∀ r, w.reserves k = some r →
      (∀ g : Fin 32, (r.debtInGroup g : ℕ) =
        ((w.obligations.filter fun o ↦ (o.elevationGroup : ℕ) = g + 1).map
          (Obligation.debtAgainst k)).sum) ∧
      (r.borrowedAmountOutsideElevationGroup : ℕ) =
        ((w.obligations.filter fun o ↦ o.elevationGroup = elevationGroupNone).map
          (Obligation.debtOutside k)).sum) ∧
    ∀ o ∈ w.obligations, o.CountsKept w.reserves ∧
      (o.lastUpdate.stale = false →
        ∀ (i : ℕ) (b : ObligationLiquidity) (settle : Fraction) (n : U64), o.borrows[i]? = some b →
          b.borrowReserve ≠ 0 → settle ≤ b.borrowedAmountSf → settle.toCeil = .ok n →
          o.CountsRepay i n) := by
  have hinv := hrun.tracked h.tracked
  exact ⟨fun k hk r hr ↦ hinv.sums hk hr, fun o ho ↦ hinv.settles ho⟩

/-- A loan in a group counts against its collateral, and can be settled as a whole. -/
theorem debtTrackers_exact_groupedLoan :
    (((groupedMarket.after groupedLoan).reserveAt 6).debtInGroup 0 : ℕ) =
      (((groupedMarket.after groupedLoan).obligations.filter fun o ↦
        (o.elevationGroup : ℕ) = 0 + 1).map (Obligation.debtAgainst 6)).sum ∧
    ∀ o ∈ (groupedMarket.after groupedLoan).obligations,
      o.CountsKept (groupedMarket.after groupedLoan).reserves := by
  obtain ⟨hsums, hkept⟩ := debtTrackers_exact groupedMarket_genesis
    (run_after _ groupedLoan fun _ _ _ ↦ trivial)
  exact ⟨(hsums 6 (by decide) _ (reserves_eq (by decide))).1 0, fun o ho ↦ (hkept o ho).1⟩

/-- In every reachable state each tracker of a reserve is the sum, over the obligations of its
group, of what they count against the reserve. -/
theorem trackers_aggregate (h : w₀.Genesis) (hrun : Run Anything w₀ w) (hk : k ≠ 0)
    (hr : w.reserves k = some r) :
    (∀ g : Fin 32, (r.debtInGroup g : ℕ) =
      ((w.obligations.filter fun o ↦ (o.elevationGroup : ℕ) = g + 1).map
        (Obligation.debtAgainst k)).sum) ∧
    (r.borrowedAmountOutsideElevationGroup : ℕ) =
      ((w.obligations.filter fun o ↦ o.elevationGroup = elevationGroupNone).map
        (Obligation.debtOutside k)).sum :=
  (hrun.tracked h.tracked).sums hk hr

/-- A loan in a group counts against its collateral. -/
theorem trackers_aggregate_groupedLoan :
    (((groupedMarket.after groupedLoan).reserveAt 6).debtInGroup 0 : ℕ) =
      (((groupedMarket.after groupedLoan).obligations.filter fun o ↦
        (o.elevationGroup : ℕ) = 0 + 1).map (Obligation.debtAgainst 6)).sum ∧
    ((groupedMarket.after groupedLoan).reserveAt 6).debtInGroup 0 = 500000 :=
  ⟨(trackers_aggregate groupedMarket_genesis (run_after _ groupedLoan fun _ _ _ ↦ trivial)
    (by decide) (reserves_eq (by decide))).1 0, by decide⟩

/-- In every reachable state the counts of an obligation are covered by the trackers, and a fresh
one counts enough for every settlement of a debt. -/
theorem counts_kept (h : w₀.Genesis) (hrun : Run Anything w₀ w) (ho : o ∈ w.obligations) :
    o.CountsKept w.reserves ∧
    (o.lastUpdate.stale = false → ∀ (i : ℕ) (b : ObligationLiquidity) (settle : Fraction) (n : U64),
      o.borrows[i]? = some b → b.borrowReserve ≠ 0 → settle ≤ b.borrowedAmountSf →
      settle.toCeil = .ok n → o.CountsRepay i n) :=
  (hrun.tracked h.tracked).settles ho

theorem counts_kept_groupedLoan :
    ∃ o, (groupedMarket.after groupedLoan).obligations = [o] ∧ o.elevationGroup = 1 ∧
      o.CountsKept (groupedMarket.after groupedLoan).reserves := by
  have hlen : (groupedMarket.after groupedLoan).obligations.length = 1 := by decide
  have hgroup : ∀ o ∈ (groupedMarket.after groupedLoan).obligations, o.elevationGroup = 1 := by
    decide
  obtain ⟨o, ho⟩ := List.length_eq_one_iff.1 hlen
  have hmem : o ∈ (groupedMarket.after groupedLoan).obligations := ho ▸ List.mem_singleton_self o
  exact ⟨o, ho, hgroup o hmem, (counts_kept groupedMarket_genesis
    (run_after _ groupedLoan fun _ _ _ ↦ trivial) hmem).1⟩

/-- From a reachable state a tracker rises within its limit by a borrow or a change of group,
otherwise only by a refresh or by a new collateral of an obligation in a group. -/
theorem tracker_raised {w' : World} {clock : Clock} {ix : Instruction} {t : Option (Fin 32)}
    {r' : Reserve} (h : w₀.Genesis) (hrun : Run Anything w₀ w)
    (hproc : w.process clock ix = .ok w') (hk : k ≠ 0) (hr : w.reserves k = some r)
    (hr' : w'.reserves k = some r') (hraised : r.tracker t < r'.tracker t) :
    (ix.takesLimit = true ∧ r'.tracker t ≤ r'.trackerLimit t) ∨
    (∃ index remaining states, ix = .refreshObligation index remaining states) ∨
    ∃ (index : ℕ) (amount : U64) (o : Obligation) (g : Fin 32),
      ix = .depositObligationCollateral index k amount ∧ t = some g ∧
      w.obligations[index]? = some o ∧ (o.elevationGroup : ℕ) = g + 1 := by
  have hlt : w.reserves.tracker k t < w'.reserves.tracker k t := by
    rw [Reserves.tracker_eq hr, Reserves.tracker_eq hr']
    exact hraised
  obtain ⟨hix, r₁, hr₁, hle⟩ | hrest := process_raises hproc (hrun.tracked h.tracked) hk hlt
  · obtain rfl := Option.some.inj (hr'.symm.trans hr₁)
    exact .inl ⟨hix, hle⟩
  · exact .inr hrest

/-- The loan takes the outside tracker of its reserve to 500000. -/
theorem tracker_raised_plainLoan : ∃ (w' : World) (r' : Reserve),
    (plainMarket.after (plainLoan.take 9)).process ⟨2, 10⟩
      (.borrowObligationLiquidity 0 5 500000 none []) = .ok w' ∧
    w'.reserves 5 = some r' ∧ r'.tracker none = 500000 ∧
    r'.tracker none ≤ r'.trackerLimit none := by
  obtain ⟨w', hproc, hp⟩ := exists_eq_ok
    (x := (plainMarket.after (plainLoan.take 9)).process ⟨2, 10⟩
      (.borrowObligationLiquidity 0 5 500000 none []))
    (p := fun w' ↦ decide ((w'.reserves 5).isSome ∧ (w'.reserveAt 5).tracker none = 500000))
    (by decide)
  obtain ⟨hsome, hafter⟩ := of_decide_eq_true hp
  have hbefore : ((plainMarket.after (plainLoan.take 9)).reserveAt 5).tracker none = 0 := by
    decide
  refine ⟨w', w'.reserveAt 5, hproc, reserves_eq hsome, hafter, ?_⟩
  rcases tracker_raised plainMarket_genesis (run_after _ (plainLoan.take 9) fun _ _ _ ↦ trivial)
    hproc (by decide) (reserves_eq (by decide)) (reserves_eq hsome)
    (by rw [hbefore, hafter]; decide) with ⟨-, hle⟩ | ⟨index, remaining, states, hix⟩ |
    ⟨index, amount, o, g, hix, -⟩
  · exact hle
  · cases hix
  · cases hix

end World

end Klend
