import Klend.Results.SimulatedDebts

/-! # Positions of a loaded obligation

The two loops of the client over the slots of an obligation read an entry from each slot that is
in use and add it to the totals. Here the positions and the totals of an obligation, as the
client loads it, are those of its entries.
-/

namespace Klend.Sdk

section Loops

variable {σ α β : Type} {f : σ → α → Option σ} {used : α → Bool} {read : α → Option β}
  {add : σ → β → σ}

theorem foldlM_eq_mapM (h : ∀ s a, f s a = if used a then (read a).map (add s) else some s)
    (l : List α) (s : σ) :
    l.foldlM f s = ((l.filter used).mapM read).map fun entries ↦ entries.foldl add s := by
  induction l generalizing s with
  | nil => rfl
  | cons a l ih =>
    rw [List.foldlM_cons, h]
    by_cases hused : used a
    · rw [if_pos hused, List.filter_cons_of_pos hused, List.mapM_cons]
      rcases hread : read a with - | entry
      · rfl
      · rw [Option.map_some, Option.bind_eq_bind, Option.bind_some, ih, Option.bind_eq_bind,
          Option.bind_some]
        cases (l.filter used).mapM read <;> rfl
    · rw [if_neg hused, List.filter_cons_of_neg hused, Option.bind_eq_bind, Option.bind_some, ih]

theorem field_foldl {field : σ → ℚ} {value : β → ℚ}
    (h : ∀ s entry, field (add s entry) = field s + value entry) (entries : List β) (s : σ) :
    field (entries.foldl add s) = field s + (entries.map value).sum := by
  induction entries generalizing s with
  | nil => simp
  | cons entry entries ih => rw [List.foldl_cons, ih, h, List.map_cons, List.sum_cons, add_assoc]

theorem mapM_eq_some_iff {l : List α} {entries : List β} :
    l.mapM read = some entries ↔ List.Forall₂ (fun a entry ↦ read a = some entry) l entries := by
  induction l generalizing entries with
  | nil => simp [eq_comm]
  | cons a l ih =>
    rw [List.mapM_cons]
    rcases hread : read a with - | entry
    · simp [List.forall₂_cons_left_iff, hread]
    · rcases htail : l.mapM read with - | tail
      · have hnone : ∀ entries, ¬ List.Forall₂ (fun a entry ↦ read a = some entry) l entries := by
          intro entries hentries
          rw [htail] at ih
          exact absurd (ih.2 hentries) nofun
        simp [List.forall₂_cons_left_iff, hnone]
      · have hiff : ∀ entries, List.Forall₂ (fun a entry ↦ read a = some entry) l entries ↔
            tail = entries := by
          intro entries
          rw [← ih, htail, Option.some.injEq]
        simp [List.forall₂_cons_left_iff, hread, hiff, eq_comm]

end Loops

/-- The obligation is one of the market, with one slot for each reserve it has deposits in. -/
structure KaminoMarket.Keeps (market : KaminoMarket) (o : Klend.Obligation) : Prop
    extends market.Holds o where
  distinctDeposits :
    o.deposits.Pairwise fun d d' ↦ d.depositReserve ≠ 0 → d.depositReserve ≠ d'.depositReserve

namespace KaminoObligation

/-- What the loop over the deposits reads of a slot. -/
structure DepositEntry where
  reserve : KaminoReserve
  ltv : ReserveLtv
  position : Position

/-- What the loop over the borrows reads of a slot. -/
structure BorrowEntry where
  reserve : KaminoReserve
  position : Position

section Entries

variable (market : KaminoMarket) (elevationGroup : ℕ) (getPx : KaminoReserve → ℚ)
  (rates : Option (PubkeyHashMap ℚ))

def readDeposit (deposit : ObligationCollateral) : Option DepositEntry := do
  let reserve ← market.getReserveByAddress deposit.depositReserve
  let ltv ← getLtvForReserve market reserve elevationGroup
  let position ← depositPosition getPx rates reserve deposit
  pure { reserve, ltv, position }

def readBorrow (borrow : ObligationLiquidity) : Option BorrowEntry := do
  let reserve ← market.getReserveByAddress borrow.borrowReserve
  let position ← borrowPosition getPx rates reserve borrow
  pure { reserve, position }

def DepositEntry.value (entry : DepositEntry) : ℚ := entry.position.marketValueRefreshed

def BorrowEntry.value (entry : BorrowEntry) : ℚ := entry.position.marketValueRefreshed

def BorrowEntry.adjustedValue (entry : BorrowEntry) : ℚ :=
  entry.value * getBorrowFactorForReserve entry.reserve elevationGroup

def DepositStats.add (stats : DepositStats) (entry : DepositEntry) : DepositStats :=
  { stats with
    deposits := stats.deposits.set entry.reserve.address entry.position
    userTotalDeposit := stats.userTotalDeposit + entry.value
    userTotalCollateralDeposit :=
      if entry.ltv.maxLtv = 0 then stats.userTotalCollateralDeposit
      else stats.userTotalCollateralDeposit + entry.value
    userTotalLiquidatableDeposit :=
      if entry.ltv.liquidationLtv = 0 then stats.userTotalLiquidatableDeposit
      else stats.userTotalLiquidatableDeposit + entry.value
    borrowLimit := stats.borrowLimit + entry.value * entry.ltv.maxLtv
    borrowLiquidationLimit :=
      stats.borrowLiquidationLimit + entry.value * entry.ltv.liquidationLtv }

def BorrowStats.add (stats : BorrowStats) (entry : BorrowEntry) : BorrowStats where
  borrows := stats.borrows.set entry.reserve.address entry.position
  userTotalBorrow := stats.userTotalBorrow + entry.value
  userTotalBorrowBorrowFactorAdjusted :=
    stats.userTotalBorrowBorrowFactorAdjusted + entry.adjustedValue elevationGroup
  positions := if entry.position.amount = 0 then stats.positions else stats.positions + 1

variable {market elevationGroup getPx rates}

theorem addDeposit_eq (stats : DepositStats) (deposit : ObligationCollateral) :
    addDeposit market elevationGroup getPx rates stats deposit =
      if isNotNullPubkey deposit.depositReserve then
        (readDeposit market elevationGroup getPx rates deposit).map (DepositStats.add stats)
      else some stats := by
  by_cases hused : isNotNullPubkey deposit.depositReserve
  · rw [addDeposit, readDeposit, if_pos hused, if_pos hused]
    rcases market.getReserveByAddress deposit.depositReserve with - | reserve
    · rfl
    simp only [Option.bind_eq_bind, Option.bind_some]
    rcases getLtvForReserve market reserve elevationGroup with - | ltv
    · rfl
    simp only [Option.bind_some]
    rcases depositPosition getPx rates reserve deposit with - | position <;> rfl
  · rw [addDeposit_of_null hused, if_neg hused]

theorem addBorrow_eq (stats : BorrowStats) (borrow : ObligationLiquidity) :
    addBorrow market elevationGroup getPx rates stats borrow =
      if isNotNullPubkey borrow.borrowReserve then
        (readBorrow market getPx rates borrow).map (BorrowStats.add elevationGroup stats)
      else some stats := by
  by_cases hused : isNotNullPubkey borrow.borrowReserve
  · rw [addBorrow, readBorrow, if_pos hused, if_pos hused]
    rcases market.getReserveByAddress borrow.borrowReserve with - | reserve
    · rfl
    rw [Option.bind_eq_bind, Option.bind_some, Option.bind_eq_bind, Option.bind_eq_bind,
      Option.bind_some, Option.bind_eq_bind]
    rcases borrowPosition getPx rates reserve borrow with - | position <;> rfl
  · rw [addBorrow_of_null hused, if_neg hused]

end Entries

section Totals

variable {market : KaminoMarket} {elevationGroup : ℕ} {getPx : KaminoReserve → ℚ}
  {rates : Option (PubkeyHashMap ℚ)}

theorem nodup_used {σ : Type} {key : σ → Pubkey} {slots : List σ}
    (h : slots.Pairwise fun s t ↦ key s ≠ 0 → key s ≠ key t) :
    ((slots.filter (isNotNullPubkey <| key ·)).map key).Nodup := by
  rw [List.Nodup, List.pairwise_map]
  apply List.Pairwise.imp_of_mem _ (h.filter _)
  intro s t hs _ hst
  exact hst (ne_zero_of_isNotNullPubkey (List.mem_filter.1 hs).2)

/-- The totals of the deposits are those of the entries. -/
structure DepositTotals (stats : DepositStats) (entries : List DepositEntry) : Prop where
  deposits : stats.deposits = entries.map fun entry ↦ (entry.reserve.address, entry.position)
  userTotalDeposit : stats.userTotalDeposit = (entries.map DepositEntry.value).sum
  borrowLimit :
    stats.borrowLimit = (entries.map fun entry ↦ entry.value * entry.ltv.maxLtv).sum
  borrowLiquidationLimit : stats.borrowLiquidationLimit =
    (entries.map fun entry ↦ entry.value * entry.ltv.liquidationLtv).sum

structure BorrowTotals (elevationGroup : ℕ) (stats : BorrowStats) (entries : List BorrowEntry) :
    Prop where
  borrows : stats.borrows = entries.map fun entry ↦ (entry.reserve.address, entry.position)
  userTotalBorrow : stats.userTotalBorrow = (entries.map BorrowEntry.value).sum
  userTotalBorrowBorrowFactorAdjusted : stats.userTotalBorrowBorrowFactorAdjusted =
    (entries.map (BorrowEntry.adjustedValue elevationGroup)).sum

theorem map_foldl {σ β : Type} {add : σ → β → σ} {field : σ → PubkeyHashMap Position}
    {entry : β → Pubkey × Position}
    (h : ∀ s e, field (add s e) = (field s).set (entry e).1 (entry e).2) {entries : List β} {s : σ}
    (hs : field s = []) (hnodup : (entries.map fun e ↦ (entry e).1).Nodup) :
    field (entries.foldl add s) = entries.map entry := by
  have hfold : field (entries.foldl add s) = (entries.map entry).foldl
      (fun m e ↦ m.set e.1 e.2) (field s) := by
    clear hs hnodup
    induction entries generalizing s with
    | nil => rfl
    | cons e entries ih => rw [List.foldl_cons, ih, h, List.map_cons, List.foldl_cons]
  rw [hfold, hs, PubkeyHashMap.foldl_set, List.nil_append]
  rwa [List.nil_append, List.map_map]

theorem exists_mem_of_forall₂ {α β : Type} {R : α → β → Prop} {l : List α} {l' : List β}
    (h : List.Forall₂ R l l') {b : β} (hb : b ∈ l') : ∃ a ∈ l, R a b := by
  obtain ⟨i, hi⟩ := List.mem_iff_getElem?.1 hb
  obtain ⟨a, ha, hab⟩ := SlotTable.exists_of_forall₂_right h hi
  exact ⟨a, List.mem_of_getElem? ha, hab⟩

theorem map_eq_of_forall₂ {α β γ : Type} {R : α → β → Prop} {l : List α} {l' : List β} {f : α → γ}
    {g : β → γ} (h : List.Forall₂ R l l') (hR : ∀ a b, R a b → g b = f a) :
    l'.map g = l.map f := by
  have hmap : List.Forall₂ Eq (l.map f) (l'.map g) := by
    rw [List.forall₂_map_left_iff, List.forall₂_map_right_iff]
    exact h.imp fun a b hab ↦ (hR a b hab).symm
  rw [List.forall₂_eq_eq_eq] at hmap
  exact hmap.symm

theorem readDeposit_eq_some {deposit : ObligationCollateral} {entry : DepositEntry} :
    readDeposit market elevationGroup getPx rates deposit = some entry ↔
      market.getReserveByAddress deposit.depositReserve = some entry.reserve ∧
      getLtvForReserve market entry.reserve elevationGroup = some entry.ltv ∧
      depositPosition getPx rates entry.reserve deposit = some entry.position := by
  simp only [readDeposit, Option.bind_eq_bind, Option.bind_eq_some_iff, Option.pure_def,
    Option.some.injEq]
  constructor
  · rintro ⟨reserve, hreserve, ltv, hltv, position, hposition, rfl⟩
    exact ⟨hreserve, hltv, hposition⟩
  · rintro ⟨hreserve, hltv, hposition⟩
    exact ⟨_, hreserve, _, hltv, _, hposition, rfl⟩

theorem readBorrow_eq_some {borrow : ObligationLiquidity} {entry : BorrowEntry} :
    readBorrow market getPx rates borrow = some entry ↔
      market.getReserveByAddress borrow.borrowReserve = some entry.reserve ∧
      borrowPosition getPx rates entry.reserve borrow = some entry.position := by
  simp only [readBorrow, Option.bind_eq_bind, Option.bind_eq_some_iff, Option.pure_def,
    Option.some.injEq]
  constructor
  · rintro ⟨reserve, hreserve, position, hposition, rfl⟩
    exact ⟨hreserve, hposition⟩
  · rintro ⟨hreserve, hposition⟩
    exact ⟨_, hreserve, _, hposition, rfl⟩

theorem calculateObligationDeposits_entries {deposits : List ObligationCollateral}
    {stats : DepositStats}
    (hkeys : ((deposits.filter (isNotNullPubkey ·.depositReserve)).map
      ObligationCollateral.depositReserve).Nodup)
    (h : calculateObligationDeposits market elevationGroup getPx deposits rates = some stats) :
    ∃ entries, List.Forall₂
        (fun d entry ↦ readDeposit market elevationGroup getPx rates d = some entry)
        (deposits.filter (isNotNullPubkey ·.depositReserve)) entries ∧
      (entries.map (·.reserve.address)).Nodup ∧ DepositTotals stats entries := by
  rw [calculateObligationDeposits, foldlM_eq_mapM addDeposit_eq, Option.bind_eq_bind,
    Option.bind_eq_some_iff] at h
  obtain ⟨total, htotal, hstats⟩ := h
  obtain ⟨entries, hentries, rfl⟩ := Option.map_eq_some_iff.1 htotal
  have hforall := mapM_eq_some_iff.1 hentries
  have hnodup : (entries.map (·.reserve.address)).Nodup := by
    rw [map_eq_of_forall₂ hforall fun d entry hread ↦
      KaminoMarket.address_of_getReserveByAddress (readDeposit_eq_some.1 hread).1]
    exact hkeys
  refine ⟨entries, hforall, hnodup, ?_⟩
  rw [← Option.some.inj hstats]
  exact {
    deposits := @map_foldl _ _ DepositStats.add DepositStats.deposits
      (fun entry ↦ (entry.reserve.address, entry.position)) (fun _ _ ↦ rfl) entries _ rfl hnodup
    userTotalDeposit := (@field_foldl _ _ DepositStats.add DepositStats.userTotalDeposit
      DepositEntry.value (fun _ _ ↦ rfl) entries _).trans (zero_add _)
    borrowLimit := (@field_foldl _ _ DepositStats.add DepositStats.borrowLimit
      (fun entry ↦ entry.value * entry.ltv.maxLtv) (fun _ _ ↦ rfl) entries _).trans (zero_add _)
    borrowLiquidationLimit :=
      (@field_foldl _ _ DepositStats.add DepositStats.borrowLiquidationLimit
        (fun entry ↦ entry.value * entry.ltv.liquidationLtv) (fun _ _ ↦ rfl) entries _).trans
          (zero_add _) }

theorem calculateObligationBorrows_entries {borrows : List ObligationLiquidity}
    {stats : BorrowStats}
    (hkeys : ((borrows.filter (isNotNullPubkey ·.borrowReserve)).map
      ObligationLiquidity.borrowReserve).Nodup)
    (h : calculateObligationBorrows market elevationGroup getPx borrows rates = some stats) :
    ∃ entries, List.Forall₂ (fun b entry ↦ readBorrow market getPx rates b = some entry)
        (borrows.filter (isNotNullPubkey ·.borrowReserve)) entries ∧
      (entries.map (·.reserve.address)).Nodup ∧ BorrowTotals elevationGroup stats entries := by
  rw [calculateObligationBorrows, foldlM_eq_mapM addBorrow_eq] at h
  obtain ⟨entries, hentries, rfl⟩ := Option.map_eq_some_iff.1 h
  have hforall := mapM_eq_some_iff.1 hentries
  have hnodup : (entries.map (·.reserve.address)).Nodup := by
    rw [map_eq_of_forall₂ hforall fun b entry hread ↦
      KaminoMarket.address_of_getReserveByAddress (readBorrow_eq_some.1 hread).1]
    exact hkeys
  refine ⟨entries, hforall, hnodup, ?_⟩
  exact {
    borrows := @map_foldl _ _ (BorrowStats.add elevationGroup) BorrowStats.borrows
      (fun entry ↦ (entry.reserve.address, entry.position)) (fun _ _ ↦ rfl) entries _ rfl hnodup
    userTotalBorrow := (@field_foldl _ _ (BorrowStats.add elevationGroup)
      BorrowStats.userTotalBorrow BorrowEntry.value (fun _ _ ↦ rfl) entries _).trans (zero_add _)
    userTotalBorrowBorrowFactorAdjusted := (@field_foldl _ _ (BorrowStats.add elevationGroup)
      BorrowStats.userTotalBorrowBorrowFactorAdjusted (BorrowEntry.adjustedValue elevationGroup)
      (fun _ _ ↦ rfl) entries _).trans (zero_add _) }

end Totals

section Load

variable (market : KaminoMarket) (o : Klend.Obligation) (slot : ℕ)

/-- The entry of a deposit, at the exchange rate of the slot. -/
structure DepositOf (elevationGroup : ℕ) (d : Klend.ObligationCollateral)
    (entry : DepositEntry) : Prop where
  reserve : market.getReserveByAddress d.depositReserve = some entry.reserve
  ltv : getLtvForReserve market entry.reserve elevationGroup = some entry.ltv
  position : ∃ rate, entry.reserve.getEstimatedCollateralExchangeRate slot
      (market.state.referralFeeBps : ℕ) = some rate ∧ 0 ≤ rate ∧
    entry.position = positionOf getOraclePx entry.reserve ((d.depositedAmount : ℕ) / rate)

/-- The entry of a borrow, at the cumulative rate of the slot. -/
structure BorrowOf (b : Klend.ObligationLiquidity) (entry : BorrowEntry) : Prop where
  reserve : market.getReserveByAddress b.borrowReserve = some entry.reserve
  position : ∃ rate, entry.reserve.getEstimatedCumulativeBorrowRate slot
      (market.state.referralFeeBps : ℕ) = some rate ∧ entry.reserve.getCumulativeBorrowRate ≤ rate ∧
    entry.position = positionOf getOraclePx entry.reserve
      (sfToDecimal b.borrowedAmountSf.bits * rate / sfToDecimal (limbSum b.cumulativeBorrowRateBsf))

/-- What the client shows of an obligation is in the entries of its slots. -/
structure Entries (obligation : KaminoObligation) (ds : List DepositEntry)
    (bs : List BorrowEntry) : Prop where
  state : obligation.state = .decode o
  depositOf : List.Forall₂ (DepositOf market slot o.elevationGroup)
    (o.deposits.filter (isNotNullPubkey ·.depositReserve)) ds
  borrowOf : List.Forall₂ (BorrowOf market slot)
    (o.borrows.filter (isNotNullPubkey ·.borrowReserve)) bs
  depositKeys : (ds.map (·.reserve.address)).Nodup
  borrowKeys : (bs.map (·.reserve.address)).Nodup
  deposits : obligation.deposits = ds.map fun entry ↦ (entry.reserve.address, entry.position)
  borrows : obligation.borrows = bs.map fun entry ↦ (entry.reserve.address, entry.position)
  borrowLimit : obligation.refreshedStats.borrowLimit =
    (ds.map fun entry ↦ entry.value * entry.ltv.maxLtv).sum
  adjustedDebt : obligation.refreshedStats.userTotalBorrowBorrowFactorAdjusted =
    (bs.map (BorrowEntry.adjustedValue o.elevationGroup)).sum

variable {market o slot}

variable {elevationGroup : ℕ} {rates : PubkeyHashMap ℚ}

theorem depositOf_of_read (hmarket : market.Valid)
    (hrates : getCollateralExchangeRatesForObligation market (.decode o) slot [] = some rates)
    {d : Klend.ObligationCollateral} (hd : d ∈ o.deposits)
    (hnull : isNotNullPubkey d.depositReserve) {entry : DepositEntry}
    (h : readDeposit market elevationGroup getOraclePx (some rates) (.decode d) = some entry) :
    DepositOf market slot elevationGroup d entry := by
  obtain ⟨hreserve, hltv, hposition⟩ := readDeposit_eq_some.1 h
  have hreserve : market.getReserveByAddress d.depositReserve = some entry.reserve := hreserve
  obtain ⟨rate, hrate, hrate0⟩ := (valid_of_getReserveByAddress hmarket
    hreserve).1.exists_exchangeRate slot (market.state.referralFeeBps : ℕ)
  have hget : rates.get d.depositReserve = some rate := by
    rw [collectRates_get hrates _ hnull, hreserve, Option.bind_some, hrate]
    simp only [Obligation.decode, List.map_map, List.append_nil, List.mem_map]
    exact ⟨d, hd, rfl⟩
  rw [depositPosition, KaminoMarket.address_of_getReserveByAddress hreserve, hget] at hposition
  exact ⟨hreserve, hltv, rate, hrate, hrate0, (Option.some.inj hposition).symm⟩

theorem borrowOf_of_read (hmarket : market.Valid)
    (hrates : getCumulativeBorrowRatesForObligation market (.decode o) slot [] = some rates)
    {b : Klend.ObligationLiquidity} (hb : b ∈ o.borrows) (hnull : isNotNullPubkey b.borrowReserve)
    {entry : BorrowEntry}
    (h : readBorrow market getOraclePx (some rates) (.decode b) = some entry) :
    BorrowOf market slot b entry := by
  obtain ⟨hreserve, hposition⟩ := readBorrow_eq_some.1 h
  have hreserve : market.getReserveByAddress b.borrowReserve = some entry.reserve := hreserve
  obtain ⟨rate, hrate, hrateLe⟩ := (valid_of_getReserveByAddress hmarket
    hreserve).1.exists_cumulativeBorrowRate slot (market.state.referralFeeBps : ℕ)
  have hget : rates.get b.borrowReserve = some rate := by
    rw [collectRates_get hrates _ hnull, hreserve, Option.bind_some, hrate]
    simp only [Obligation.decode, List.map_map, List.append_nil, List.mem_map]
    exact ⟨b, hb, rfl⟩
  have hsum : (ObligationLiquidity.decode b).cumulativeBorrowRateBsf.sum < 2 ^ 256 :=
    limbSum_le.trans_lt b.cumulativeBorrowRateBsf.isLt
  have hamount : (ObligationLiquidity.decode b).borrowedAmountSf < 2 ^ 256 :=
    b.borrowedAmountSf.isLt.trans (by norm_num)
  rw [borrowPosition, KaminoMarket.address_of_getReserveByAddress hreserve,
    getCumulativeBorrowRate, List.sum_reverse, toDecimal_eq hsum, getBorrowAmount,
    toDecimal_eq hamount] at hposition
  dsimp only at hposition
  rw [hget] at hposition
  exact ⟨hreserve, rate, hrate, hrateLe, (Option.some.inj hposition).symm⟩

theorem exists_depositOf {obligationRates : ObligationRates} {stats : DepositStats}
    (hmarket : market.Valid) (ho : market.Keeps o)
    (hrates : getRatesForObligation market (.decode o) slot [] = some obligationRates)
    (hdeposited : calculateObligationDeposits market elevationGroup getOraclePx
      (Obligation.decode o).deposits (some obligationRates.collateralExchangeRates) =
        some stats) :
    ∃ ds, List.Forall₂ (DepositOf market slot elevationGroup)
        (o.deposits.filter (isNotNullPubkey ·.depositReserve)) ds ∧
      (ds.map (·.reserve.address)).Nodup ∧ DepositTotals stats ds := by
  simp only [getRatesForObligation, Option.bind_eq_bind, Option.bind_eq_some_iff,
    Option.pure_def, Option.some.injEq] at hrates
  obtain ⟨exchangeRates, hexchange, borrowRates, -, rfl⟩ := hrates
  have hfilter : (Obligation.decode o).deposits.filter (isNotNullPubkey ·.depositReserve) =
      (o.deposits.filter (isNotNullPubkey ·.depositReserve)).map .decode := List.filter_map
  obtain ⟨ds, hds, hnodup, htotals⟩ := calculateObligationDeposits_entries
    (by
      rw [hfilter, List.map_map]
      exact nodup_used ho.distinctDeposits) hdeposited
  rw [hfilter, List.forall₂_map_left_iff] at hds
  refine ⟨ds, ?_, hnodup, htotals⟩
  apply ((List.forall₂_and_left _ _).2 ⟨fun d hd ↦ List.mem_filter.1 hd, hds⟩).imp
  rintro d entry ⟨⟨hd, hnull⟩, hread⟩
  exact depositOf_of_read hmarket hexchange hd hnull hread

theorem exists_entries {obligation : KaminoObligation} (hmarket : market.Valid)
    (ho : market.Keeps o) (h : load market (.decode o) slot = some obligation) :
    ∃ deposits borrows, Entries market o slot obligation deposits borrows := by
  rw [load, Option.bind_eq_bind, Option.bind_eq_some_iff] at h
  obtain ⟨rates, hrates, hnew⟩ := h
  simp only [new, calculatePositions, Option.bind_eq_bind, Option.bind_eq_some_iff,
    Option.pure_def, Option.some.injEq] at hnew
  obtain ⟨positions, ⟨deposited, hdeposited, borrowed, hborrowed, rfl⟩, rfl⟩ := hnew
  obtain ⟨ds, hds, hdsNodup, hdsTotals⟩ := exists_depositOf hmarket ho hrates hdeposited
  simp only [getRatesForObligation, Option.bind_eq_bind, Option.bind_eq_some_iff,
    Option.pure_def, Option.some.injEq] at hrates
  obtain ⟨exchangeRates, -, borrowRates, hborrow, rfl⟩ := hrates
  have hborrowFilter : (Obligation.decode o).borrows.filter (isNotNullPubkey ·.borrowReserve) =
      (o.borrows.filter (isNotNullPubkey ·.borrowReserve)).map .decode := List.filter_map
  obtain ⟨bs, hbs, hbsNodup, hbsTotals⟩ := calculateObligationBorrows_entries
    (by
      rw [hborrowFilter, List.map_map]
      exact nodup_used ho.distinct) hborrowed
  rw [hborrowFilter, List.forall₂_map_left_iff] at hbs
  refine ⟨ds, bs, rfl, hds, ?_, hdsNodup, hbsNodup, hdsTotals.deposits, hbsTotals.borrows,
    hdsTotals.borrowLimit, hbsTotals.userTotalBorrowBorrowFactorAdjusted⟩
  apply ((List.forall₂_and_left _ _).2 ⟨fun b hb ↦ List.mem_filter.1 hb, hbs⟩).imp
  rintro b entry ⟨⟨hb, hnull⟩, hread⟩
  exact borrowOf_of_read hmarket hborrow hb hnull hread

section Members

variable {obligation : KaminoObligation} {ds : List DepositEntry} {bs : List BorrowEntry}
  {coll : DepositEntry} {debt : BorrowEntry}

theorem Entries.deposit (h : Entries market o slot obligation ds bs) (hcoll : coll ∈ ds) :
    obligation.getDepositByReserve coll.reserve.address = some coll.position ∧
    market.getReserveByAddress coll.reserve.address = some coll.reserve ∧
    getLtvForReserve market coll.reserve o.elevationGroup = some coll.ltv ∧
    0 ≤ coll.position.amount ∧
    coll.position = positionOf getOraclePx coll.reserve coll.position.amount := by
  obtain ⟨d, -, hd⟩ := exists_mem_of_forall₂ h.depositOf hcoll
  obtain ⟨rate, -, hrate, hposition⟩ := hd.position
  have hget : obligation.getDepositByReserve coll.reserve.address = some coll.position := by
    rw [getDepositByReserve, h.deposits]
    apply @PubkeyHashMap.get_eq_some _ _ (coll.reserve.address, coll.position)
    · rw [List.map_map]
      exact h.depositKeys
    · exact List.mem_map_of_mem hcoll
  refine ⟨hget, ?_, hd.ltv, ?_, ?_⟩
  · rw [KaminoMarket.address_of_getReserveByAddress hd.reserve]
    exact hd.reserve
  · rw [hposition]
    exact div_nonneg (Nat.cast_nonneg _) hrate
  · rw [hposition]
    rfl

theorem Entries.borrow (h : Entries market o slot obligation ds bs) (hdebt : debt ∈ bs) :
    obligation.getBorrowByReserve debt.reserve.address = some debt.position ∧
    market.getReserveByAddress debt.reserve.address = some debt.reserve ∧
    0 ≤ debt.position.amount ∧
    debt.position = positionOf getOraclePx debt.reserve debt.position.amount := by
  obtain ⟨b, -, hb⟩ := exists_mem_of_forall₂ h.borrowOf hdebt
  obtain ⟨rate, -, hrate, hposition⟩ := hb.position
  have hget : obligation.getBorrowByReserve debt.reserve.address = some debt.position := by
    rw [getBorrowByReserve, h.borrows]
    apply @PubkeyHashMap.get_eq_some _ _ (debt.reserve.address, debt.position)
    · rw [List.map_map]
      exact h.borrowKeys
    · exact List.mem_map_of_mem hdebt
  refine ⟨hget, ?_, ?_, ?_⟩
  · rw [KaminoMarket.address_of_getReserveByAddress hb.reserve]
    exact hb.reserve
  · rw [hposition]
    exact div_nonneg (mul_nonneg (sfToDecimal_nonneg _)
      (KaminoReserve.getCumulativeBorrowRate_nonneg.trans hrate)) (sfToDecimal_nonneg _)
  · rw [hposition]
    rfl

end Members

end Load

end KaminoObligation

end Klend.Sdk
