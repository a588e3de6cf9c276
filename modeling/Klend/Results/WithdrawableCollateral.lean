import Klend.Results.LoadedPositions
import Klend.Sdk.RepayWithCollateral
import Mathlib.Tactic.LinearCombination

/-! # Collateral that can be withdrawn after a repayment

The client counts the debt that is left without borrow factors, and of several debts only the
others, so that the unpaid part of the repaid one is missed. What it lets go is safe where that
covers the debt that is really left, up to the fraction of a lamport that the rounding keeps.
-/

namespace Klend.Sdk

section Sums

variable {β : Type} {key : β → Pubkey} {l : List β} {x : β}

theorem sum_map_ite_of_absent {k : Pubkey} (h : k ∉ l.map key) (f g : β → ℚ) :
    (l.map fun e ↦ if key e = k then f e else g e).sum =
      ((l.filter fun e ↦ key e ≠ k).map g).sum := by
  induction l with
  | nil => rfl
  | cons e l ih =>
    rw [List.map_cons, List.mem_cons, not_or] at h
    have hne : key e ≠ k := Ne.symm h.1
    rw [List.map_cons, List.sum_cons, if_neg hne, ih h.2,
      List.filter_cons_of_pos (by simpa using hne), List.map_cons, List.sum_cons]

theorem sum_map_ite (hkeys : (l.map key).Nodup) (hx : x ∈ l) (f g : β → ℚ) :
    (l.map fun e ↦ if key e = key x then f e else g e).sum =
      f x + ((l.filter fun e ↦ key e ≠ key x).map g).sum := by
  induction l with
  | nil => cases hx
  | cons e l ih =>
    rw [List.map_cons, List.nodup_cons] at hkeys
    rw [List.map_cons, List.sum_cons]
    by_cases hkey : key e = key x
    · have habsent : key x ∉ l.map key := hkey ▸ hkeys.1
      have hex : e = x := by
        rcases List.mem_cons.1 hx with rfl | hmem
        · rfl
        · exact absurd (List.mem_map_of_mem hmem) habsent
      rw [if_pos hkey, hex, sum_map_ite_of_absent habsent,
        List.filter_cons_of_neg (by simp)]
    · have hmem : x ∈ l := by
        rcases List.mem_cons.1 hx with rfl | hmem
        · exact absurd rfl hkey
        · exact hmem
      rw [if_neg hkey, ih hkeys.2 hmem, List.filter_cons_of_pos (by simpa using hkey),
        List.map_cons, List.sum_cons]
      ring

theorem foldlM_add_eq {f : ℚ → β → Option ℚ} {value : β → ℚ}
    (h : ∀ e ∈ l, ∀ s, f s e = some (s + value e)) (s : ℚ) :
    l.foldlM f s = some (s + (l.map value).sum) := by
  induction l generalizing s with
  | nil => simp
  | cons e l ih =>
    rw [List.foldlM_cons, h e (List.mem_cons_self ..), Option.bind_eq_bind, Option.bind_some,
      ih fun e he ↦ h e (List.mem_cons_of_mem _ he), List.map_cons, List.sum_cons, add_assoc]

end Sums

namespace KaminoObligation

/-- The ratio that the program checks the deposit at. -/
def DepositEntry.ratio (check : MaxWithdrawLtvCheck) (entry : DepositEntry) : ℚ :=
  if check = .liquidationThreshold then entry.ltv.liquidationLtv else entry.ltv.maxLtv

/-- The value of an amount in lamports. -/
def valueOf (reserve : KaminoReserve) (amount : ℚ) : ℚ :=
  amount * getOraclePx reserve / reserve.getMintFactor

section Definitions

variable (elevationGroup : ℕ) (check : MaxWithdrawLtvCheck) (ds : List DepositEntry)
  (bs : List BorrowEntry) (coll : DepositEntry) (debt : BorrowEntry)

/-- The deposits behind a withdrawal, each at its ratio. -/
def depositsLeft (withdrawn : ℚ) : ℚ :=
  (ds.map fun e ↦
    if e.reserve.address = coll.reserve.address then
      valueOf coll.reserve (coll.position.amount - withdrawn) * coll.ratio check
    else e.value * e.ratio check).sum

/-- The debt behind a repayment, each with its borrow factor. -/
def debtLeft (repaid : ℚ) : ℚ :=
  (bs.map fun e ↦
    if e.reserve.address = debt.reserve.address then
      valueOf debt.reserve (debt.position.amount - repaid) *
        getBorrowFactorForReserve debt.reserve elevationGroup
    else e.adjustedValue elevationGroup).sum

/-- The other deposits, each at its ratio. -/
def otherDeposits : ℚ :=
  ((ds.filter (·.reserve.address ≠ coll.reserve.address)).map fun e ↦
    e.value * e.ratio check).sum

/-- The debt that the client counts as left. -/
def countedDebt (repaid : ℚ) : ℚ :=
  if 1 < bs.length then
    ((bs.filter (·.reserve.address ≠ debt.reserve.address)).map BorrowEntry.value).sum
  else ⌈debt.position.amount - repaid⌉ / debt.reserve.getMintFactor * getOraclePx debt.reserve

/-- The lamports that the client lets go. -/
def withdrawable (repaid : ℚ) : Extended :=
  if countedDebt bs debt repaid ≤ otherDeposits check ds coll then
    .finite ⌊coll.position.amount⌋
  else
    let numerator :=
      coll.value * coll.ratio check + otherDeposits check ds coll - countedDebt bs debt repaid
    let denominator := getOraclePx coll.reserve * coll.ratio check
    (Extended.finite numerator / .finite denominator * .finite coll.reserve.getMintFactor).map
      fun x ↦ ⌊x⌋

end Definitions

section Counted

variable {market : KaminoMarket} {o : Klend.Obligation} {slot : ℕ} {obligation : KaminoObligation}
  {ds : List DepositEntry} {bs : List BorrowEntry} {coll : DepositEntry} {debt : BorrowEntry}

theorem maxWithdrawLtv_eq (h : Entries market o slot obligation ds bs) (hcoll : coll ∈ ds) :
    maxWithdrawLtv market obligation coll.reserve =
      some (coll.ratio (getMaxWithdrawLtvCheck obligation)) := by
  have hgroup : obligation.state.elevationGroup = o.elevationGroup := by
    rw [h.state]
    rfl
  rw [maxWithdrawLtv, hgroup, (h.deposit hcoll).2.2.1]
  rfl

theorem filter_length_le_one {β : Type} {key : β → Pubkey} {l : List β} {x : β} (hx : x ∈ l)
    (h : ¬ 1 < l.length) : l.filter (fun e ↦ key e ≠ key x) = [] := by
  match l, hx with
  | [e], hx =>
    rw [List.mem_singleton] at hx
    simp [hx]
  | e :: e' :: l, _ => exact absurd (by simp) h

theorem remainingDepositsValueWithLtv_eq (h : Entries market o slot obligation ds bs)
    (hcoll : coll ∈ ds) :
    remainingDepositsValueWithLtv market obligation coll.position =
      some (otherDeposits (getMaxWithdrawLtvCheck obligation) ds coll) := by
  have hdeposits : obligation.getDeposits = ds.map DepositEntry.position := by
    rw [getDeposits, h.deposits, List.map_map]
    rfl
  rw [remainingDepositsValueWithLtv, hdeposits, List.length_map]
  have haddress (e) (he : e ∈ ds) : e.position.reserveAddress = e.reserve.address := by
    rw [(h.deposit he).2.2.2.2]
    rfl
  split
  · rw [List.filter_map, List.foldlM_map, otherDeposits, ← zero_add (List.sum _),
      List.filter_congr fun e he ↦ by rw [Function.comp_apply, haddress e he, haddress coll hcoll]]
    apply foldlM_add_eq
    intro e he s
    have hmem := (List.mem_filter.1 he).1
    rw [haddress e hmem, (h.deposit hmem).2.1, Option.bind_eq_bind, Option.bind_some,
      maxWithdrawLtv_eq h hmem]
    rfl
  · next hone => rw [otherDeposits, filter_length_le_one hcoll hone, List.map_nil, List.sum_nil]

theorem remainingBorrowsValue_eq (h : Entries market o slot obligation ds bs) (hdebt : debt ∈ bs)
    (repaid : ℚ) : remainingBorrowsValue obligation debt.reserve debt.position repaid =
      countedDebt bs debt repaid := by
  have hborrows : obligation.getBorrows = bs.map BorrowEntry.position := by
    rw [getBorrows, h.borrows, List.map_map]
    rfl
  rw [remainingBorrowsValue, countedDebt, hborrows, List.length_map]
  have haddress (e) (he : e ∈ bs) : e.position.reserveAddress = e.reserve.address := by
    rw [(h.borrow he).2.2.2]
    rfl
  split
  · rw [List.filter_map, List.foldl_map,
      List.filter_congr fun e he ↦ by rw [Function.comp_apply, haddress e he, haddress debt hdebt]]
    exact (@field_foldl _ _ _ id BorrowEntry.value (fun _ _ ↦ rfl) _ 0).trans (zero_add _)
  · rfl

theorem calcMaxWithdrawCollateral_eq (h : Entries market o slot obligation ds bs)
    (hcoll : coll ∈ ds) (hdebt : debt ∈ bs) (repaid : ℚ) :
    ∃ result, calcMaxWithdrawCollateral market obligation coll.reserve.address
        debt.reserve.address repaid = some result ∧
      result.withdrawableCollLamports =
        withdrawable (getMaxWithdrawLtvCheck obligation) ds bs coll debt repaid := by
  obtain ⟨hdeposit, hcollReserve, -, -, hcollPosition⟩ := h.deposit hcoll
  obtain ⟨hborrow, hdebtReserve, -, hdebtPosition⟩ := h.borrow hdebt
  have hcollAddress : coll.position.reserveAddress = coll.reserve.address := by
    rw [hcollPosition]
    rfl
  have hdebtAddress : debt.position.reserveAddress = debt.reserve.address := by
    rw [hdebtPosition]
    rfl
  simp only [calcMaxWithdrawCollateral, hdeposit, hborrow, hcollAddress, hcollReserve,
    hdebtAddress, hdebtReserve, Option.bind_eq_bind, Option.bind_some,
    remainingDepositsValueWithLtv_eq h hcoll, remainingBorrowsValue_eq h hdebt]
  unfold withdrawable
  by_cases hall : countedDebt bs debt repaid ≤
    otherDeposits (getMaxWithdrawLtvCheck obligation) ds coll
  · rw [if_pos hall, if_pos hall]
    exact ⟨_, rfl, rfl⟩
  · rw [if_neg hall, if_neg hall, maxWithdrawLtv_eq h hcoll]
    exact ⟨_, rfl, rfl⟩

end Counted

section Safety

/-- What is let go is a number of lamports of the deposit, behind which the debt that is left is
within the ratios of the deposits that are left. -/
def Safe (market : KaminoMarket) (elevationGroup : ℕ) (obligation : KaminoObligation)
    (ds : List DepositEntry) (bs : List BorrowEntry) (coll : DepositEntry) (debt : BorrowEntry)
    (repaid : ℚ) : Prop :=
  ∃ result withdrawn, calcMaxWithdrawCollateral market obligation coll.reserve.address
      debt.reserve.address repaid = some result ∧
    result.withdrawableCollLamports = .finite withdrawn ∧
    0 ≤ withdrawn ∧ withdrawn ≤ coll.position.amount ∧
    debtLeft elevationGroup bs debt repaid ≤
      depositsLeft (getMaxWithdrawLtvCheck obligation) ds coll withdrawn

/-- The debt that is left is covered by the one that is counted, up to the fraction of a lamport of
the deposit that is not let go. Where part of the deposit has to stay, its price and its ratio
are above zero, and it is enough for what is counted. -/
def Covered (elevationGroup : ℕ) (check : MaxWithdrawLtvCheck) (ds : List DepositEntry)
    (bs : List BorrowEntry) (coll : DepositEntry) (debt : BorrowEntry) (repaid : ℚ) : Prop :=
  let counted := countedDebt bs debt repaid
  let others := otherDeposits check ds coll
  let price := getOraclePx coll.reserve * coll.ratio check
  let fraction (amount : ℚ) := valueOf coll.reserve (Int.fract amount) * coll.ratio check
  counted ≤ others ∧
    debtLeft elevationGroup bs debt repaid ≤ others + fraction coll.position.amount ∨
  others < counted ∧ 0 < price ∧ counted ≤ others + coll.value * coll.ratio check ∧
    debtLeft elevationGroup bs debt repaid ≤ counted +
      fraction (coll.position.amount - (counted - others) * coll.reserve.getMintFactor / price)

variable {market : KaminoMarket} {o : Klend.Obligation} {slot : ℕ} {obligation : KaminoObligation}
  {ds : List DepositEntry} {bs : List BorrowEntry} {coll : DepositEntry} {debt : BorrowEntry}
  {check : MaxWithdrawLtvCheck} {repaid : ℚ}

theorem getMintFactor_pos (reserve : KaminoReserve) : 0 < reserve.getMintFactor := by
  unfold KaminoReserve.getMintFactor
  positivity

theorem getLtvForReserve_nonneg {reserve : KaminoReserve} {elevationGroup : ℕ} {ltv : ReserveLtv}
    (h : getLtvForReserve market reserve elevationGroup = some ltv) :
    0 ≤ ltv.maxLtv ∧ 0 ≤ ltv.liquidationLtv := by
  unfold getLtvForReserve at h
  split at h
  · rw [Option.bind_eq_bind, Option.bind_eq_some_iff] at h
    obtain ⟨group, -, hltv⟩ := h
    rw [← Option.some.inj hltv]
    exact ⟨div_nonneg (Nat.cast_nonneg _) (by norm_num),
      div_nonneg (Nat.cast_nonneg _) (by norm_num)⟩
  · rw [← Option.some.inj h]
    exact ⟨div_nonneg (Nat.cast_nonneg _) (by norm_num),
      div_nonneg (Nat.cast_nonneg _) (by norm_num)⟩

theorem ratio_nonneg (h : Entries market o slot obligation ds bs) (hcoll : coll ∈ ds) :
    0 ≤ coll.ratio check := by
  obtain ⟨hmax, hliquidation⟩ := getLtvForReserve_nonneg (h.deposit hcoll).2.2.1
  unfold DepositEntry.ratio
  split
  · exact hliquidation
  · exact hmax

theorem depositsLeft_eq (h : Entries market o slot obligation ds bs) (hcoll : coll ∈ ds)
    (withdrawn : ℚ) : depositsLeft check ds coll withdrawn =
      valueOf coll.reserve (coll.position.amount - withdrawn) * coll.ratio check +
        otherDeposits check ds coll :=
  @sum_map_ite _ (fun e : DepositEntry ↦ e.reserve.address) _ _ h.depositKeys hcoll
    (fun _ ↦ valueOf coll.reserve (coll.position.amount - withdrawn) * coll.ratio check)
    (fun e ↦ e.value * e.ratio check)

theorem withdrawable_of_le (h : countedDebt bs debt repaid ≤ otherDeposits check ds coll) :
    withdrawable check ds bs coll debt repaid = .finite ⌊coll.position.amount⌋ := if_pos h

theorem withdrawable_ne_finite (h : otherDeposits check ds coll < countedDebt bs debt repaid)
    (hprice : getOraclePx coll.reserve * coll.ratio check = 0) (withdrawn : ℚ) :
    withdrawable check ds bs coll debt repaid ≠ .finite withdrawn := by
  rw [withdrawable, if_neg (not_le.2 h)]
  dsimp only
  rw [hprice]
  exact Extended.finite_div_zero_mul_ne _

theorem withdrawable_of_lt (h : otherDeposits check ds coll < countedDebt bs debt repaid)
    (hprice : getOraclePx coll.reserve * coll.ratio check ≠ 0)
    (hvalue : coll.value = valueOf coll.reserve coll.position.amount) :
    withdrawable check ds bs coll debt repaid =
      .finite ⌊coll.position.amount - (countedDebt bs debt repaid - otherDeposits check ds coll) *
        coll.reserve.getMintFactor / (getOraclePx coll.reserve * coll.ratio check)⌋ := by
  rw [withdrawable, if_neg (not_le.2 h)]
  dsimp only
  rw [Extended.finite_div hprice, Extended.finite_mul, Extended.map_finite]
  congr 3
  have hfactor := (getMintFactor_pos coll.reserve).ne'
  have hpx := left_ne_zero_of_mul hprice
  have hratio := right_ne_zero_of_mul hprice
  rw [hvalue, valueOf]
  field_simp
  ring

section Kept

variable {reserve : KaminoReserve} {ratio amount kept : ℚ}
  (hpos : 0 < getOraclePx reserve * ratio)
include hpos

theorem valueOf_kept :
    valueOf reserve (kept * reserve.getMintFactor / (getOraclePx reserve * ratio)) * ratio =
      kept := by
  have hfactor := (getMintFactor_pos reserve).ne'
  have hpx := left_ne_zero_of_mul hpos.ne'
  have hratio := right_ne_zero_of_mul hpos.ne'
  rw [valueOf]
  field_simp

theorem kept_le_iff :
    0 ≤ amount - kept * reserve.getMintFactor / (getOraclePx reserve * ratio) ↔
      kept ≤ valueOf reserve amount * ratio := by
  rw [sub_nonneg, div_le_iff₀ hpos, ← le_div_iff₀ (getMintFactor_pos reserve), valueOf]
  have hcomm : amount * (getOraclePx reserve * ratio) / reserve.getMintFactor =
      amount * getOraclePx reserve / reserve.getMintFactor * ratio := by ring
  rw [hcomm]

theorem valueOf_sub_floor :
    valueOf reserve (amount -
        ⌊amount - kept * reserve.getMintFactor / (getOraclePx reserve * ratio)⌋) * ratio =
      kept + valueOf reserve (Int.fract
        (amount - kept * reserve.getMintFactor / (getOraclePx reserve * ratio))) * ratio := by
  have hkept := @valueOf_kept _ _ kept hpos
  rw [valueOf] at hkept
  rw [Int.fract, valueOf, valueOf]
  linear_combination hkept

end Kept

theorem safe_iff {elevationGroup : ℕ} {result : MaxWithdrawCollateral}
    (hresult : calcMaxWithdrawCollateral market obligation coll.reserve.address
      debt.reserve.address repaid = some result)
    (hwithdrawable : result.withdrawableCollLamports =
      withdrawable (getMaxWithdrawLtvCheck obligation) ds bs coll debt repaid) :
    Safe market elevationGroup obligation ds bs coll debt repaid ↔ ∃ withdrawn,
      withdrawable (getMaxWithdrawLtvCheck obligation) ds bs coll debt repaid =
        .finite withdrawn ∧ 0 ≤ withdrawn ∧ withdrawn ≤ coll.position.amount ∧
      debtLeft elevationGroup bs debt repaid ≤
        depositsLeft (getMaxWithdrawLtvCheck obligation) ds coll withdrawn := by
  rw [← hwithdrawable]
  constructor
  · rintro ⟨result', withdrawn, hresult', h⟩
    obtain rfl := Option.some.inj (hresult.symm.trans hresult')
    exact ⟨withdrawn, h⟩
  · rintro ⟨withdrawn, h⟩
    exact ⟨result, withdrawn, hresult, h⟩

/-- What is let go is safe exactly where the debt that is counted covers what is left. -/
theorem withdraw_safe_iff (hmarket : market.Valid) (ho : market.Keeps o)
    (hprices : ∀ entry ∈ market.reserves, 0 ≤ entry.2.tokenOraclePrice)
    (hload : load market (.decode o) slot = some obligation) :
    ∃ ds bs, Entries market o slot obligation ds bs ∧
      ∀ coll ∈ ds, ∀ debt ∈ bs, ∀ repaid,
        Safe market o.elevationGroup obligation ds bs coll debt repaid ↔
          Covered o.elevationGroup (getMaxWithdrawLtvCheck obligation) ds bs coll debt
            repaid := by
  obtain ⟨ds, bs, h⟩ := exists_entries hmarket ho hload
  refine ⟨ds, bs, h, ?_⟩
  intro coll hcoll debt hdebt repaid
  obtain ⟨-, hreserve, -, hamount, hposition⟩ := h.deposit hcoll
  have hpx : 0 ≤ getOraclePx coll.reserve :=
    hprices _ (KaminoMarket.mem_of_getReserveByAddress hreserve)
  have hratio := @ratio_nonneg _ _ _ _ _ _ _ (getMaxWithdrawLtvCheck obligation) h hcoll
  have hprice := mul_nonneg hpx hratio
  have hvalue : coll.value = valueOf coll.reserve coll.position.amount := by
    rw [DepositEntry.value, hposition]
    rfl
  obtain ⟨result, hresult, hwithdrawable⟩ := calcMaxWithdrawCollateral_eq h hcoll hdebt repaid
  rw [safe_iff hresult hwithdrawable]
  rcases le_or_gt (countedDebt bs debt repaid)
    (otherDeposits (getMaxWithdrawLtvCheck obligation) ds coll) with hle | hlt
  · have hwhole : 0 ≤ ((⌊coll.position.amount⌋ : ℤ) : ℚ) := by
      exact_mod_cast Int.floor_nonneg.2 hamount
    rw [withdrawable_of_le hle, Covered, or_iff_left fun hlt ↦ absurd hlt.1 (not_lt.2 hle),
      and_iff_right hle]
    simp only [Extended.finite_inj, exists_eq_left']
    rw [and_iff_right hwhole, and_iff_right (Int.floor_le _), depositsLeft_eq h hcoll,
      Int.self_sub_floor, add_comm]
  · rw [Covered, or_iff_right fun hle ↦ absurd hle.1 (not_le.2 hlt), and_iff_right hlt]
    rcases hprice.eq_or_lt with hzero | hpos
    · apply iff_of_false
      · rintro ⟨withdrawn, hwithdrawn, -⟩
        exact withdrawable_ne_finite hlt hzero.symm withdrawn hwithdrawn
      · exact fun hcovered ↦ absurd hcovered.1 hzero.not_lt
    · rw [withdrawable_of_lt hlt hpos.ne' hvalue, and_iff_right hpos]
      simp only [Extended.finite_inj, exists_eq_left']
      have hle : ((⌊coll.position.amount - (countedDebt bs debt repaid -
          otherDeposits (getMaxWithdrawLtvCheck obligation) ds coll) *
          coll.reserve.getMintFactor / (getOraclePx coll.reserve *
            coll.ratio (getMaxWithdrawLtvCheck obligation))⌋ : ℤ) : ℚ) ≤
          coll.position.amount := by
        apply (Int.floor_le _).trans (sub_le_self _ _)
        exact div_nonneg (mul_nonneg (sub_nonneg.2 hlt.le) (getMintFactor_pos _).le) hpos.le
      have hsum : otherDeposits (getMaxWithdrawLtvCheck obligation) ds coll +
          (countedDebt bs debt repaid -
            otherDeposits (getMaxWithdrawLtvCheck obligation) ds coll) =
          countedDebt bs debt repaid := add_sub_cancel _ _
      rw [and_iff_right hle, Int.cast_nonneg_iff, Int.floor_nonneg, kept_le_iff hpos,
        depositsLeft_eq h hcoll, valueOf_sub_floor hpos, hvalue, sub_le_iff_le_add',
        add_comm _ (otherDeposits _ _ _), ← add_assoc, hsum]

end Safety

section TwoDebts

def parReserve (address : Pubkey) : KaminoReserve :=
  { KaminoReserve.halfBorrowed (.newFlat 500) with address }

/-- Three reserves at par. -/
def parMarket : KaminoMarket where
  state := .init
  reserves := [(5, parReserve 5), (6, parReserve 6), (7, parReserve 7)]
  reserves_nodup := by decide +kernel
  address_eq := by
    simp only [List.mem_cons, List.not_mem_nil, or_false, forall_eq_or_imp, forall_eq]
    exact ⟨rfl, rfl, rfl⟩

/-- A deposit of 100, against debts of 50 and of 10. -/
def twoDebts : Klend.Obligation :=
  { (default : Klend.Obligation) with
    deposits := [{ (default : Klend.ObligationCollateral) with
      depositReserve := 7
      depositedAmount := 1000000 }]
    borrows := [{ (default : Klend.ObligationLiquidity) with
        borrowReserve := 5
        cumulativeBorrowRateBsf := oldRate
        borrowedAmountSf := KaminoReserve.storedAs 50 },
      { (default : Klend.ObligationLiquidity) with
        borrowReserve := 6
        cumulativeBorrowRateBsf := oldRate
        borrowedAmountSf := KaminoReserve.storedAs 10 }] }

theorem parReserve_valid (address : Pubkey) : (parReserve address).Valid := by
  have h : (KaminoReserve.halfBorrowed (.newFlat 500)).Valid :=
    KaminoReserve.halfBorrowed_valid (by decide)
  exact ⟨h.supply, h.cumulativeRate, h.takeRate, h.curve, h.duration, h.slot⟩

theorem parMarket_valid : parMarket.Valid where
  reserve := by
    simp only [parMarket, List.mem_cons, List.not_mem_nil, or_false, forall_eq_or_imp, forall_eq]
    exact ⟨parReserve_valid 5, parReserve_valid 6, parReserve_valid 7⟩
  address := by
    simp only [parMarket, List.mem_cons, List.not_mem_nil, or_false, forall_eq_or_imp, forall_eq]
    exact ⟨by decide, by decide, by decide⟩

theorem twoDebts_keeps : parMarket.Keeps twoDebts where
  distinct := by
    rw [twoDebts, List.pairwise_pair]
    intro _
    decide
  borrow := by
    simp only [twoDebts, List.mem_cons, List.not_mem_nil, or_false, forall_eq_or_imp, forall_eq]
    constructor
    · intro _
      exact ⟨parReserve 5, rfl, by decide, by decide⟩
    · intro _
      exact ⟨parReserve 6, rfl, by decide, by decide⟩
  deposit := by
    simp only [twoDebts, List.mem_singleton, forall_eq]
    intro _
    exact ⟨parReserve 7, rfl⟩
  distinctDeposits := List.pairwise_singleton _ _

def parDeposit : DepositEntry where
  reserve := parReserve 7
  ltv := ⟨(parReserve 7).loanToValue, (parReserve 7).liquidationThreshold⟩
  position := ⟨7, 1, 100, 100⟩

def parBorrow (address : Pubkey) (amount : ℚ) : BorrowEntry where
  reserve := parReserve address
  position := ⟨address, 1, amount, amount⟩

theorem twoDebts_entries {obligation : KaminoObligation} {ds : List DepositEntry}
    {bs : List BorrowEntry} (hload : load parMarket (.decode twoDebts) 0 = some obligation)
    (h : Entries parMarket twoDebts 0 obligation ds bs) :
    ds = [parDeposit] ∧ bs = [parBorrow 5 50, parBorrow 6 10] := by
  have hdeposits : (load parMarket (.decode twoDebts) 0).map (·.deposits) =
      some [(7, ⟨7, 1, 100, 100⟩)] := by decide +kernel
  have hborrows : (load parMarket (.decode twoDebts) 0).map (·.borrows) =
      some [(5, ⟨5, 1, 50, 50⟩), (6, ⟨6, 1, 10, 10⟩)] := by decide +kernel
  rw [hload, Option.map_some, Option.some.injEq] at hdeposits hborrows
  rw [h.deposits, List.map_eq_singleton_iff] at hdeposits
  rw [h.borrows, List.map_eq_cons_iff] at hborrows
  obtain ⟨coll, rfl, hcoll⟩ := hdeposits
  obtain ⟨first, rest, rfl, hfirst, hrest⟩ := hborrows
  obtain ⟨second, rfl, hsecond⟩ := List.map_eq_singleton_iff.1 hrest
  have hborrow (key : Pubkey) (amount : ℚ) (e : BorrowEntry) (he : e ∈ [first, second])
      (hreserve : parMarket.getReserveByAddress key = some (parReserve key))
      (hentry : (e.reserve.address, e.position) = (key, ⟨key, 1, amount, amount⟩)) :
      e = parBorrow key amount := by
    obtain ⟨hkey, hposition⟩ := Prod.mk.inj hentry
    have hmem := (h.borrow he).2.1
    rw [hkey, hreserve, Option.some.injEq] at hmem
    rw [parBorrow, hmem, ← hposition]
  constructor
  · obtain ⟨hkey, hposition⟩ := Prod.mk.inj hcoll
    obtain ⟨-, hreserve, hltv, -⟩ := h.deposit (List.mem_singleton_self coll)
    rw [hkey] at hreserve
    have hreserve : parReserve 7 = coll.reserve := Option.some.inj hreserve
    have hgroup : getLtvForReserve parMarket (parReserve 7) twoDebts.elevationGroup =
        some parDeposit.ltv := if_neg (by decide)
    rw [← hreserve, hgroup, Option.some.injEq] at hltv
    have hcoll : coll = ⟨coll.reserve, coll.ltv, coll.position⟩ := rfl
    rw [hcoll, ← hreserve, ← hltv, hposition]
    rfl
  · rw [hborrow 5 50 first (by simp) rfl hfirst, hborrow 6 10 second (by simp) rfl hsecond]

theorem twoDebts_loads : ∃ obligation, load parMarket (.decode twoDebts) 0 = some obligation ∧
    getMaxWithdrawLtvCheck obligation = .maxLtv :=
  Option.map_eq_some_iff.1 (show (load parMarket (.decode twoDebts) 0).map
    getMaxWithdrawLtvCheck = some .maxLtv by decide +kernel)

/-- The debt of 50 is repaid in full. -/
theorem withdraw_safe_repaid : ∃ obligation ds bs,
    load parMarket (.decode twoDebts) 0 = some obligation ∧
    parDeposit ∈ ds ∧ parBorrow 5 50 ∈ bs ∧
    Safe parMarket 0 obligation ds bs parDeposit (parBorrow 5 50) 50 := by
  obtain ⟨obligation, hload, hcheck⟩ := twoDebts_loads
  obtain ⟨ds, bs, h, hiff⟩ := withdraw_safe_iff parMarket_valid twoDebts_keeps
    (by
      simp only [parMarket, List.mem_cons, List.not_mem_nil, or_false, forall_eq_or_imp, forall_eq]
      decide) hload
  obtain ⟨rfl, rfl⟩ := twoDebts_entries hload h
  refine ⟨obligation, [parDeposit], [parBorrow 5 50, parBorrow 6 10], hload,
    List.mem_singleton_self _, List.mem_cons_self .., ?_⟩
  have hcovered := hiff parDeposit (List.mem_singleton_self _) (parBorrow 5 50)
    (List.mem_cons_self ..) 50
  apply hcovered.2
  rw [hcheck]
  exact .inr (by decide +kernel)

/-- Nothing is repaid of the debt of 50, which is not counted beside the debt of 10: 86 of the
deposit of 100 are let go, and 14 at a ratio of 75 percent are left against 60. -/
theorem withdraw_unsafe_unpaid : parMarket.Valid ∧ parMarket.Keeps twoDebts ∧
    ∃ obligation ds bs result, load parMarket (.decode twoDebts) 0 = some obligation ∧
      Entries parMarket twoDebts 0 obligation ds bs ∧
      parDeposit ∈ ds ∧ parBorrow 5 50 ∈ bs ∧
      calcMaxWithdrawCollateral parMarket obligation 7 5 0 = some result ∧
      result.withdrawableCollLamports = .finite 86 ∧
      debtLeft 0 bs (parBorrow 5 50) 0 = 60 ∧
      depositsLeft (getMaxWithdrawLtvCheck obligation) ds parDeposit 86 = 21 / 2 ∧
      ¬ Safe parMarket 0 obligation ds bs parDeposit (parBorrow 5 50) 0 := by
  obtain ⟨obligation, hload, hcheck⟩ := twoDebts_loads
  obtain ⟨ds, bs, h⟩ := exists_entries parMarket_valid twoDebts_keeps hload
  obtain ⟨rfl, rfl⟩ := twoDebts_entries hload h
  have hfirst : parBorrow 5 50 ∈ [parBorrow 5 50, parBorrow 6 10] := List.mem_cons_self ..
  obtain ⟨result, hresult, hwithdrawable⟩ :=
    calcMaxWithdrawCollateral_eq h (List.mem_singleton_self _) hfirst 0
  have hdebt : debtLeft 0 [parBorrow 5 50, parBorrow 6 10] (parBorrow 5 50) 0 = 60 := by
    decide +kernel
  have hleft : depositsLeft (getMaxWithdrawLtvCheck obligation) [parDeposit] parDeposit 86 =
      21 / 2 := by
    rw [hcheck]
    decide +kernel
  have hlets : withdrawable (getMaxWithdrawLtvCheck obligation) [parDeposit]
      [parBorrow 5 50, parBorrow 6 10] parDeposit (parBorrow 5 50) 0 = .finite 86 := by
    rw [hcheck]
    decide +kernel
  refine ⟨parMarket_valid, twoDebts_keeps, obligation, _, _, result, hload, h,
    List.mem_singleton_self _, hfirst, hresult, hwithdrawable.trans hlets, hdebt, hleft, ?_⟩
  rw [safe_iff hresult hwithdrawable, hlets]
  rintro ⟨withdrawn, heq, -, -, hle⟩
  rw [← Extended.finite_inj.1 heq, hdebt, hleft] at hle
  exact absurd hle (by norm_num)

end TwoDebts

end KaminoObligation

end Klend.Sdk
