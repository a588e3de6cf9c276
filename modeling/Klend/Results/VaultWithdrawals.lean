import Klend.Results.InterestEstimates
import Klend.Sdk.VaultWithdrawals

/-! # Plans of withdrawals from a vault

The plan draws the tokens that are owed as long as one reserve can pay what the vault does not
hold. Where it takes several reserves, the tokens of the vault are deducted twice, and all but
the last instruction pass the shares in units of the share token. Amounts that are not whole
are not rounded where the vault holds what is owed, and no instruction can be made of them.
-/

namespace Klend.Sdk

theorem newBN_encodeU64_eq_some {x : ℚ} {n : U64} :
    (newBN x).bind encodeU64 = some n ↔ |x| = ((n : ℕ) : ℚ) := by
  constructor
  · intro h
    obtain ⟨m, hm, hn⟩ := Option.bind_eq_some_iff.1 h
    rw [newBN, Option.ite_none_right_eq_some] at hm
    obtain ⟨⟨hden, -⟩, hm⟩ := hm
    obtain rfl := Option.some.inj hm
    rw [encodeU64, Option.dite_none_right_eq_some] at hn
    obtain ⟨hlt, hn⟩ := hn
    obtain rfl := Option.some.inj hn
    show |x| = ((x.num.natAbs : ℕ) : ℚ)
    rw [Nat.cast_natAbs, Int.cast_abs, Rat.coe_int_num_of_den_eq_one hden]
  · intro h
    have hden : x.den = 1 := by
      rcases abs_eq (Nat.cast_nonneg _) |>.1 h with rfl | rfl <;> simp
    have hbound : |x| < 10 ^ 21 := by
      rw [h]
      exact_mod_cast n.2.trans (by norm_num)
    have habs : x.num.natAbs = n := by
      rcases abs_eq (Nat.cast_nonneg _) |>.1 h with rfl | rfl <;> simp
    rw [newBN, if_pos ⟨hden, hbound⟩, Option.bind_some, encodeU64, dif_pos (habs ▸ n.2)]
    exact congrArg some (Fin.ext habs)

/-- An instruction that passes the magnitude of an amount. -/
def WithdrawIxn.Passes (ixn : WithdrawIxn) (amount : Pubkey × ℚ) : Prop :=
  ixn.reserve = amount.1 ∧ |amount.2| = ((ixn.sharesAmount : ℕ) : ℚ)

/-- The amount of an instruction. -/
def WithdrawIxn.amount (ixn : WithdrawIxn) : Pubkey × ℚ := (ixn.reserve, (ixn.sharesAmount : ℕ))

/-- A whole amount of 64 bits. -/
def IsU64 (x : ℚ) : Prop := ∃ n : U64, ((n : ℕ) : ℚ) = x

theorem isU64_ceil_of_le {x y : ℚ} (hx : 0 ≤ x) (hle : x ≤ y) (hy : IsU64 y) : IsU64 ⌈x⌉ := by
  obtain ⟨n, rfl⟩ := hy
  have hceil : ⌈x⌉.toNat ≤ n := by
    rw [Int.toNat_le, Int.ceil_le]
    exact hle
  refine ⟨⟨⌈x⌉.toNat, hceil.trans_lt n.2⟩, ?_⟩
  exact_mod_cast Int.toNat_of_nonneg (Int.ceil_nonneg hx)

theorem exists_passes_iff {sent meant : List (Pubkey × ℚ)}
    (h : List.Forall₂ (fun s m ↦ 0 ≤ m.2 → 0 ≤ s.2) sent meant) :
    (∃ ixns, List.Forall₂ WithdrawIxn.Passes ixns sent ∧ ixns.map WithdrawIxn.amount = meant) ↔
      sent = meant ∧ ∀ amount ∈ meant, IsU64 amount.2 := by
  induction h with
  | nil => simp
  | @cons s m sent meant hsign _ ih =>
    rw [List.forall_mem_cons, List.cons.injEq, and_and_and_comm, ← ih]
    constructor
    · rintro ⟨_, hpass, hamounts⟩
      obtain ⟨ixn, ixns, hixn, hixns, rfl⟩ := List.forall₂_cons_right_iff.1 hpass
      rw [List.map_cons, List.cons.injEq] at hamounts
      obtain ⟨rfl, hrest⟩ := hamounts
      refine ⟨⟨Prod.ext hixn.1.symm ?_, _, rfl⟩, ixns, hixns, hrest⟩
      rw [← abs_of_nonneg (hsign (Nat.cast_nonneg _)), hixn.2, WithdrawIxn.amount]
    · rintro ⟨⟨rfl, n, hn⟩, ixns, hixns, rfl⟩
      have hixn : WithdrawIxn.Passes ⟨s.1, n⟩ s := ⟨rfl, by rw [← hn, Nat.abs_cast]⟩
      refine ⟨⟨s.1, n⟩ :: ixns, .cons hixn hixns, ?_⟩
      rw [List.map_cons, WithdrawIxn.amount, hn]

namespace VaultState

variable {v : VaultState} {vaultReserves : PubkeyHashMap KaminoReserve} {slot : ℕ}
  {availableTokens sharesPerToken left : ℚ} {key : Pubkey}
  {entries : List (Pubkey × ℚ)} {plan : List ReserveWithTokensToWithdraw}

/-- The reserves of the vault as the client loads them. -/
structure Loaded (v : VaultState) (vaultReserves : PubkeyHashMap KaminoReserve) : Prop where
  valid : ∀ a ∈ v.occupied, ∃ r, vaultReserves.get a.reserve = some r ∧ r.Valid
  default : vaultReserves.get 0 = none

def drawn (plan : List ReserveWithTokensToWithdraw) : ℚ :=
  (plan.map ReserveWithTokensToWithdraw.tokens).sum

theorem planReserves_of_le (h : left ≤ 0) (isFirst : Bool) :
    planReserves availableTokens sharesPerToken left isFirst entries = [] := by
  induction entries with
  | nil => rfl
  | cons entry entries ih => rw [planReserves, if_neg (not_lt.2 h), ih]

theorem planReserves_cons {entry : Pubkey × ℚ} {isFirst : Bool} {tokens : ℚ} (h : 0 < left)
    (htokens : tokens =
      if isFirst then min left entry.2 + availableTokens else min left entry.2) :
    planReserves availableTokens sharesPerToken left isFirst (entry :: entries) =
      ⟨entry.1, tokens, ⌈tokens * sharesPerToken⌉⟩ ::
        planReserves availableTokens sharesPerToken (left - tokens) false entries := by
  rw [planReserves, if_pos h, htokens]

theorem drawn_planReserves (hentries : ∀ e ∈ entries, 0 ≤ e.2) (hleft : 0 ≤ left) :
    drawn (planReserves availableTokens sharesPerToken left false entries) =
      min left (entries.map Prod.snd).sum := by
  induction entries generalizing left with
  | nil =>
    rw [List.map_nil, List.sum_nil, min_eq_right hleft]
    rfl
  | cons entry entries ih =>
    rw [List.forall_mem_cons] at hentries
    have hsum : 0 ≤ (entries.map Prod.snd).sum := by
      apply List.sum_nonneg
      intro x hx
      obtain ⟨e, he, rfl⟩ := List.mem_map.1 hx
      exact hentries.2 e he
    rw [List.map_cons, List.sum_cons]
    rcases hleft.eq_or_lt with rfl | hpos
    · rw [planReserves_of_le le_rfl, min_eq_left (add_nonneg hentries.1 hsum)]
      rfl
    · rw [planReserves_cons hpos rfl, if_neg Bool.false_ne_true, drawn, List.map_cons,
        List.sum_cons]
      by_cases hle : left ≤ entry.2
      · rw [min_eq_left hle, sub_self, planReserves_of_le le_rfl, min_eq_left (by linarith)]
        exact add_zero _
      · have hlt := (not_le.1 hle).le
        have ih := ih hentries.2 (sub_nonneg.2 hlt)
        rw [drawn] at ih
        rw [min_eq_right hlt, ih, ← min_add_add_left, add_sub_cancel]

/-- The amounts for a plan: the last is that of the plan, the others are all shares. -/
def amountsOf (allShares : ℚ) : List ReserveWithTokensToWithdraw → List (Pubkey × ℚ)
  | [] => []
  | p :: rest =>
    (p.reserve, if rest.isEmpty then p.shares else allShares) :: amountsOf allShares rest

theorem withdrawIx_eq_some {ixn : WithdrawIxn} {amount : ℚ}
    (hall : v.getVaultReserves.all vaultReserves.has = true) :
    v.withdrawIx vaultReserves key amount = some ixn ↔ ixn.Passes (key, amount) := by
  obtain ⟨reserve, sharesAmount⟩ := ixn
  rw [WithdrawIxn.Passes, ← newBN_encodeU64_eq_some]
  simp only [withdrawIx, if_pos hall, Option.bind_eq_bind, Option.bind_eq_some_iff,
    Option.some.injEq, WithdrawIxn.mk.injEq]
  constructor
  · rintro ⟨m, hm, n, hn, rfl, rfl⟩
    exact ⟨rfl, m, hm, hn⟩
  · rintro ⟨rfl, m, hm, hn⟩
    exact ⟨m, hm, sharesAmount, hn, rfl, rfl⟩

theorem withdrawIxns_eq_some {shareAmount : ℚ} {ixns : List WithdrawIxn}
    (hall : v.getVaultReserves.all vaultReserves.has = true)
    (hplan : ∀ p ∈ plan, vaultReserves.has p.reserve = true) :
    v.withdrawIxns vaultReserves shareAmount plan = some ixns ↔
      List.Forall₂ WithdrawIxn.Passes ixns (amountsOf shareAmount plan) := by
  induction plan generalizing ixns with
  | nil => simp [withdrawIxns, amountsOf, eq_comm]
  | cons p plan ih =>
    rw [List.forall_mem_cons] at hplan
    obtain ⟨r, hr⟩ := Option.isSome_iff_exists.1 hplan.1
    simp only [withdrawIxns, hr, Option.bind_eq_bind, Option.bind_some, Option.bind_eq_some_iff,
      withdrawIx_eq_some hall, ih hplan.2, Option.pure_def, Option.some.injEq, amountsOf]
    rw [List.forall₂_cons_right_iff]
    constructor
    · rintro ⟨ixn, hixn, rest, hrest, rfl⟩
      exact ⟨ixn, rest, hixn, hrest, rfl⟩
    · rintro ⟨ixn, rest, hixn, hrest, rfl⟩
      exact ⟨ixn, hixn, rest, hrest, rfl⟩

theorem forall₂_amountsOf {a b : ℚ} (h : 0 ≤ b → 0 ≤ a) :
    List.Forall₂ (fun s m : Pubkey × ℚ ↦ 0 ≤ m.2 → 0 ≤ s.2) (amountsOf a plan)
      (amountsOf b plan) := by
  induction plan with
  | nil => exact .nil
  | cons p plan ih =>
    refine .cons ?_ ih
    split
    · exact id
    · exact h

theorem amountsOf_inj {a b : ℚ} (h : 1 < plan.length) :
    amountsOf a plan = amountsOf b plan ↔ a = b := by
  obtain ⟨p, q, rest, rfl⟩ : ∃ p q rest, plan = p :: q :: rest := by
    match plan, h with
    | p :: q :: rest, _ => exact ⟨p, q, rest, rfl⟩
  constructor
  · intro h
    simp only [amountsOf, List.cons.injEq, Prod.mk.injEq] at h
    exact h.1.2
  · rintro rfl
    rfl

theorem exists_mem_amountsOf (h : 1 < plan.length) (allShares : ℚ) :
    ∃ key, (key, allShares) ∈ amountsOf allShares plan := by
  match plan, h with
  | p :: q :: rest, _ => exact ⟨p.reserve, List.mem_cons_self ..⟩

theorem forall_mem_amountsOf {allShares : ℚ} {P : ℚ → Prop} (hall : P allShares)
    (hplan : ∀ p ∈ plan, P p.shares) : ∀ amount ∈ amountsOf allShares plan, P amount.2 := by
  induction plan with
  | nil => exact fun amount hamount ↦ absurd hamount List.not_mem_nil
  | cons p plan ih =>
    rw [List.forall_mem_cons] at hplan
    rw [amountsOf, List.forall_mem_cons]
    refine ⟨?_, ih hplan.2⟩
    split
    · exact hplan.1
    · exact hall

theorem Loaded.exists_available (h : v.Loaded vaultReserves) {a : VaultAllocation}
    (ha : a ∈ v.occupied) (slot : ℕ) :
    ∃ x, availableLiquidityToWithdraw vaultReserves slot a = some x ∧ 0 ≤ x := by
  obtain ⟨r, hr, hvalid⟩ := h.valid a ha
  unfold availableLiquidityToWithdraw
  simp only [hr, Option.bind_eq_bind, Option.bind_some]
  generalize (if 0 < numberOf ((r.state.config.protocolTakeRatePct : ℕ) / 100) then _
    else (0 : ℚ)) = bps
  obtain ⟨rate, hrate, hrate0⟩ := hvalid.exists_exchangeRate slot bps
  rw [hrate]
  exact ⟨_, rfl, le_min (div_nonneg (Nat.cast_nonneg _) hrate0) (Nat.cast_nonneg _)⟩

theorem Loaded.exists_liquidity (h : v.Loaded vaultReserves) (slot : ℕ) :
    ∃ liquidity, v.getReserveAllocationAvailableLiquidityToWithdraw vaultReserves slot =
        some liquidity ∧ liquidity.map Prod.fst = v.getVaultReserves ∧ ∀ e ∈ liquidity, 0 ≤ e.2 := by
  have hloop : ∀ (allocations : List VaultAllocation) (m : PubkeyHashMap ℚ),
      (∀ a ∈ allocations, a ∈ v.occupied) →
      (m.map Prod.fst ++ allocations.map VaultAllocation.reserve).Nodup →
      ∃ liquidity, allocations.foldlM (fun liquidity allocationStrategy ↦ do
          let amount ← availableLiquidityToWithdraw vaultReserves slot allocationStrategy
          pure (PubkeyHashMap.set liquidity allocationStrategy.reserve amount)) m =
          some (m ++ liquidity) ∧
        liquidity.map Prod.fst = allocations.map VaultAllocation.reserve ∧
        ∀ e ∈ liquidity, 0 ≤ e.2 := by
    intro allocations
    induction allocations with
    | nil =>
      intro m _ _
      exact ⟨[], by rw [List.append_nil]; rfl, rfl, fun e he ↦ absurd he List.not_mem_nil⟩
    | cons a allocations ih =>
      intro m hall hkeys
      rw [List.forall_mem_cons] at hall
      obtain ⟨x, hx, hx0⟩ := h.exists_available hall.1 slot
      have hnew : a.reserve ∉ m.map Prod.fst := fun hmem ↦
        List.disjoint_of_nodup_append hkeys hmem (List.mem_cons_self ..)
      obtain ⟨liquidity, hfold, hfst, hnonneg⟩ := ih (m ++ [(a.reserve, x)]) hall.2 (by
        rwa [List.map_append, List.append_assoc])
      refine ⟨(a.reserve, x) :: liquidity, ?_, ?_, ?_⟩
      · rw [List.foldlM_cons, hx]
        show List.foldlM _ (PubkeyHashMap.set m a.reserve x) allocations = _
        rw [PubkeyHashMap.set_of_new hnew, hfold, List.append_assoc]
        rfl
      · rw [List.map_cons, hfst, List.map_cons]
      · rw [List.forall_mem_cons]
        exact ⟨hx0, hnonneg⟩
  exact hloop v.occupied [] (fun _ ha ↦ ha) v.reserves_nodup

theorem perm_sortByLiquidity : (sortByLiquidity entries).Perm entries :=
  List.perm_insertionSort (fun a b : Pubkey × ℚ ↦ b.2 ≤ a.2) entries

theorem sortByLiquidity_spec {first : Pubkey × ℚ} {rest : List (Pubkey × ℚ)}
    (h : sortByLiquidity entries = first :: rest) :
    (first :: rest).Perm entries ∧ ∀ e ∈ entries, e.2 ≤ first.2 := by
  have : Std.Total fun a b : Pubkey × ℚ ↦ b.2 ≤ a.2 := ⟨fun a b ↦ le_total b.2 a.2⟩
  have : IsTrans (Pubkey × ℚ) fun a b ↦ b.2 ≤ a.2 := ⟨fun _ _ _ hab hbc ↦ hbc.trans hab⟩
  have hperm : (sortByLiquidity entries).Perm entries := perm_sortByLiquidity
  have hsorted := List.pairwise_insertionSort (fun a b : Pubkey × ℚ ↦ b.2 ≤ a.2) entries
  rw [h] at hperm
  rw [← sortByLiquidity, h] at hsorted
  refine ⟨hperm, fun e he ↦ ?_⟩
  rcases List.mem_cons.1 (hperm.mem_iff.2 he) with rfl | hrest
  · exact le_rfl
  · exact List.rel_of_pairwise_cons hsorted hrest

section Plan

variable {owed : ℚ} {first : Pubkey × ℚ} {rest : List (Pubkey × ℚ)}

/-- One reserve that can pay what the vault does not hold pays all. -/
theorem planReserves_of_enough (howed : availableTokens < owed) (havailable : 0 ≤ availableTokens)
    (henough : owed ≤ availableTokens + first.2) :
    ∃ p, planReserves availableTokens sharesPerToken (owed - availableTokens) true
      (first :: rest) = [p] ∧ p.tokens = owed ∧ p.shares = ⌈owed * sharesPerToken⌉ := by
  have htokens : owed = min (owed - availableTokens) first.2 + availableTokens := by
    rw [min_eq_left (sub_le_iff_le_add'.2 henough), sub_add_cancel]
  rw [planReserves_cons (sub_pos.2 howed) htokens, planReserves_of_le (by linarith)]
  exact ⟨_, rfl, rfl, rfl⟩

theorem planReserves_of_short (howed : availableTokens < owed) (havailable : 0 ≤ availableTokens)
    (hshort : availableTokens + first.2 < owed) (hrest : ∀ e ∈ rest, 0 ≤ e.2)
    (hcovers : owed ≤ availableTokens + (first.2 + (rest.map Prod.snd).sum)) :
    let plan := planReserves availableTokens sharesPerToken (owed - availableTokens) true
      (first :: rest)
    (drawn plan = owed ↔ availableTokens = 0) ∧ (availableTokens = 0 → 1 < plan.length) := by
  have htokens : first.2 + availableTokens =
      min (owed - availableTokens) first.2 + availableTokens := by
    rw [min_eq_right (by linarith)]
  intro plan
  have hplan : plan = _ := planReserves_cons (sub_pos.2 howed) htokens
  have hdrawn : drawn plan = first.2 + availableTokens + drawn (planReserves availableTokens
      sharesPerToken (owed - availableTokens - (first.2 + availableTokens)) false rest) := by
    rw [hplan]
    exact List.sum_cons
  constructor
  · rw [hdrawn]
    constructor
    · intro h
      by_contra hne
      have hpos : 0 < availableTokens := lt_of_le_of_ne havailable (Ne.symm hne)
      rcases le_total (owed - availableTokens - (first.2 + availableTokens)) 0 with hle | hle
      · rw [planReserves_of_le hle] at h
        exact absurd h (by simp only [drawn, List.map_nil, List.sum_nil]; linarith)
      · rw [drawn_planReserves hrest hle, min_eq_left (by linarith)] at h
        linarith
    · rintro rfl
      rw [drawn_planReserves hrest (by linarith), min_eq_left (by linarith)]
      ring
  · rintro rfl
    rw [hplan]
    cases rest with
    | nil =>
      rw [List.map_nil, List.sum_nil] at hcovers
      linarith
    | cons second rest =>
      rw [planReserves_cons (by linarith) rfl, List.length_cons, List.length_cons]
      omega

theorem planReserves_shares {isFirst : Bool} (havailable : 0 ≤ availableTokens)
    (hentries : ∀ e ∈ entries, 0 ≤ e.2) :
    ∀ p ∈ planReserves availableTokens sharesPerToken left isFirst entries,
      p.shares = ⌈p.tokens * sharesPerToken⌉ ∧ 0 ≤ p.tokens ∧
        p.tokens ≤ left + availableTokens := by
  induction entries generalizing left isFirst with
  | nil => exact fun p hp ↦ absurd hp List.not_mem_nil
  | cons entry entries ih =>
    rw [List.forall_mem_cons] at hentries
    rcases le_or_gt left 0 with hle | hpos
    · rw [planReserves_of_le hle]
      exact fun p hp ↦ absurd hp List.not_mem_nil
    · have htokens : ∃ tokens, tokens = (if isFirst then min left entry.2 + availableTokens
          else min left entry.2) ∧ 0 ≤ tokens ∧ tokens ≤ left + availableTokens := by
        have hmin : 0 ≤ min left entry.2 := le_min hpos.le hentries.1
        have hle : min left entry.2 ≤ left := min_le_left ..
        refine ⟨_, rfl, ?_⟩
        split
        · constructor <;> linarith
        · constructor <;> linarith
      obtain ⟨tokens, heq, htokens0, htokens⟩ := htokens
      rw [planReserves_cons hpos heq, List.forall_mem_cons]
      refine ⟨⟨rfl, htokens0, htokens⟩, fun p hp ↦ ?_⟩
      obtain ⟨hshares, hp0, hle⟩ := ih hentries.2 p hp
      exact ⟨hshares, hp0, by linarith⟩

theorem reserve_mem_planReserves {isFirst : Bool} : ∀ p ∈ planReserves availableTokens
    sharesPerToken left isFirst entries, p.reserve ∈ entries.map Prod.fst := by
  induction entries generalizing left isFirst with
  | nil => exact fun p hp ↦ absurd hp List.not_mem_nil
  | cons entry entries ih =>
    by_cases h : 0 < left
    · rw [planReserves_cons h rfl, List.forall_mem_cons]
      exact ⟨List.mem_cons_self .., fun p hp ↦ List.mem_cons_of_mem _ (ih p hp)⟩
    · rw [planReserves_of_le (not_lt.1 h)]
      exact fun p hp ↦ absurd hp List.not_mem_nil

end Plan

/-- The plan draws what is owed, and every instruction has its shares in lamports. -/
def Covers (v : VaultState) (vaultReserves : PubkeyHashMap KaminoReserve) (slot : ℕ)
    (collToLamportsDecimal : ℚ → ℕ → ℚ) (shareAmount tokensPerShare : ℚ) : Prop :=
  let shareLamports := shareAmount * 10 ^ (v.sharesMintDecimals : ℕ)
  ∃ plan ixns, v.wihdrdrawWithReserveIxns vaultReserves slot collToLamportsDecimal shareAmount
      tokensPerShare = some (plan, ixns) ∧
    drawn plan = shareLamports * tokensPerShare ∧
    ixns.map WithdrawIxn.amount = amountsOf shareLamports plan

section Covers

variable {collToLamportsDecimal : ℚ → ℕ → ℚ} {shareAmount tokensPerShare : ℚ}
  {liquidity : PubkeyHashMap ℚ}

theorem Loaded.all_has (h : v.Loaded vaultReserves) :
    v.getVaultReserves.all vaultReserves.has = true := by
  rw [List.all_eq_true]
  intro key hkey
  obtain ⟨a, ha, rfl⟩ := List.mem_map.1 hkey
  obtain ⟨r, hr, -⟩ := h.valid a ha
  rw [PubkeyHashMap.has, hr]
  rfl

theorem shareLamportsToWithdraw_eq
    (hcoll : ∀ amount decimals, collToLamportsDecimal amount decimals = amount * 10 ^ decimals) :
    v.shareLamportsToWithdraw collToLamportsDecimal shareAmount =
      some (shareAmount * 10 ^ (v.sharesMintDecimals : ℕ)) := by
  have hlt : (v.sharesMintDecimals : ℕ) < 2 ^ 53 :=
    v.sharesMintDecimals_lt.trans (by norm_num)
  rw [shareLamportsToWithdraw, toNumber, if_pos hlt]
  exact congrArg some (hcoll _ _)

/-- Where a plan is made for reserves that are loaded, it covers the request if it draws what is
owed, all instructions have shares in lamports, and these are whole. -/
theorem covers_iff_of_plan
    (hcoll : ∀ amount decimals, collToLamportsDecimal amount decimals = amount * 10 ^ decimals)
    (hloaded : v.Loaded vaultReserves)
    (hplan : v.planWithdrawal vaultReserves slot
      (shareAmount * 10 ^ (v.sharesMintDecimals : ℕ)) tokensPerShare = some plan)
    (hkeys : ∀ p ∈ plan, vaultReserves.has p.reserve = true) :
    v.Covers vaultReserves slot collToLamportsDecimal shareAmount tokensPerShare ↔
      drawn plan = shareAmount * 10 ^ (v.sharesMintDecimals : ℕ) * tokensPerShare ∧
        amountsOf shareAmount plan = amountsOf (shareAmount * 10 ^ (v.sharesMintDecimals : ℕ)) plan ∧
        ∀ amount ∈ amountsOf (shareAmount * 10 ^ (v.sharesMintDecimals : ℕ)) plan,
          IsU64 amount.2 := by
  have hsign : 0 ≤ shareAmount * 10 ^ (v.sharesMintDecimals : ℕ) → 0 ≤ shareAmount :=
    fun h ↦ nonneg_of_mul_nonneg_left h (by positivity)
  rw [← exists_passes_iff (forall₂_amountsOf hsign)]
  simp only [← withdrawIxns_eq_some hloaded.all_has hkeys, Covers, wihdrdrawWithReserveIxns,
    shareLamportsToWithdraw_eq hcoll, hplan, Option.bind_eq_bind, Option.bind_some,
    Option.bind_eq_some_iff, Option.pure_def, Option.some.injEq, Prod.mk.injEq]
  constructor
  · rintro ⟨_, _, ⟨ixns, hixns, rfl, rfl⟩, hdrawn, hamounts⟩
    exact ⟨hdrawn, ixns, hixns, hamounts⟩
  · rintro ⟨hdrawn, ixns, hixns, hamounts⟩
    exact ⟨_, _, ⟨ixns, hixns, rfl, rfl⟩, hdrawn, hamounts⟩

/-- Where the vault holds what is owed, the request is covered unless the first slot is free or
the shares are not whole. -/
theorem covers_iff_of_held
    (hcoll : ∀ amount decimals, collToLamportsDecimal amount decimals = amount * 10 ^ decimals)
    (hloaded : v.Loaded vaultReserves)
    (hheld : shareAmount * 10 ^ (v.sharesMintDecimals : ℕ) * tokensPerShare ≤
      (v.tokenAvailable : ℕ)) :
    v.Covers vaultReserves slot collToLamportsDecimal shareAmount tokensPerShare ↔
      (∃ a, v.vaultAllocationStrategy.head? = some a ∧ a.reserve ≠ 0) ∧
        IsU64 (shareAmount * 10 ^ (v.sharesMintDecimals : ℕ)) := by
  have hplan : v.planWithdrawal vaultReserves slot
      (shareAmount * 10 ^ (v.sharesMintDecimals : ℕ)) tokensPerShare =
      v.vaultAllocationStrategy.head?.map fun a ↦ [⟨a.reserve,
        shareAmount * 10 ^ (v.sharesMintDecimals : ℕ) * tokensPerShare,
        shareAmount * 10 ^ (v.sharesMintDecimals : ℕ)⟩] := by
    rw [planWithdrawal, if_pos (sub_nonpos.2 hheld)]
    cases v.vaultAllocationStrategy.head? <;> rfl
  cases hhead : v.vaultAllocationStrategy.head? with
  | none =>
    rw [hhead, Option.map_none] at hplan
    simp [Covers, wihdrdrawWithReserveIxns, shareLamportsToWithdraw_eq hcoll, hplan]
  | some a =>
    rw [hhead, Option.map_some] at hplan
    by_cases hfree : a.reserve = 0
    · simp [Covers, wihdrdrawWithReserveIxns, shareLamportsToWithdraw_eq hcoll, hplan,
        withdrawIxns, hfree, hloaded.default]
    · have hoccupied : a ∈ v.occupied :=
        List.mem_filter.2 ⟨List.mem_of_head? hhead, by simpa using hfree⟩
      have hkey := List.all_eq_true.1 hloaded.all_has a.reserve (List.mem_map_of_mem hoccupied)
      rw [covers_iff_of_plan hcoll hloaded hplan (by simpa using hkey)]
      simp [drawn, amountsOf, hfree]

theorem planWithdrawal_of_owed {shares : ℚ}
    (hliquidity : v.getReserveAllocationAvailableLiquidityToWithdraw vaultReserves slot =
      some liquidity) (howed : ((v.tokenAvailable : ℕ) : ℚ) < shares * tokensPerShare) :
    v.planWithdrawal vaultReserves slot shares tokensPerShare =
      some (planReserves (v.tokenAvailable : ℕ) (1 / tokensPerShare)
        (shares * tokensPerShare - (v.tokenAvailable : ℕ)) true (sortByLiquidity liquidity)) := by
  rw [planWithdrawal, if_neg (not_le.2 (sub_pos.2 howed)), hliquidity]
  rfl

/-- Where the vault does not hold what is owed, the request is covered if one reserve can pay the
rest and the shares, rounded up, fit, or the vault holds nothing, the share token has no decimals
and the shares are whole. -/
theorem covers_iff_of_owed
    (hcoll : ∀ amount decimals, collToLamportsDecimal amount decimals = amount * 10 ^ decimals)
    (hloaded : v.Loaded vaultReserves)
    (hliquidity : v.getReserveAllocationAvailableLiquidityToWithdraw vaultReserves slot =
      some liquidity)
    (howed : ((v.tokenAvailable : ℕ) : ℚ) <
      shareAmount * 10 ^ (v.sharesMintDecimals : ℕ) * tokensPerShare)
    (hcovers : shareAmount * 10 ^ (v.sharesMintDecimals : ℕ) * tokensPerShare ≤
      (v.tokenAvailable : ℕ) + (liquidity.map Prod.snd).sum) :
    v.Covers vaultReserves slot collToLamportsDecimal shareAmount tokensPerShare ↔
      (∃ e ∈ liquidity, shareAmount * 10 ^ (v.sharesMintDecimals : ℕ) * tokensPerShare ≤
        (v.tokenAvailable : ℕ) + e.2) ∧
          IsU64 ⌈shareAmount * 10 ^ (v.sharesMintDecimals : ℕ)⌉ ∨
        v.tokenAvailable = 0 ∧ v.sharesMintDecimals = 0 ∧
          IsU64 (shareAmount * 10 ^ (v.sharesMintDecimals : ℕ)) := by
  obtain ⟨liquidity, hliquidity', hkeys, hnonneg⟩ := hloaded.exists_liquidity slot
  obtain rfl := Option.some.inj (hliquidity.symm.trans hliquidity')
  have hplan := planWithdrawal_of_owed hliquidity howed
  have havailable : (0 : ℚ) ≤ (v.tokenAvailable : ℕ) := Nat.cast_nonneg _
  have hrate : tokensPerShare ≠ 0 := by
    rintro rfl
    rw [mul_zero] at howed
    exact absurd howed (not_lt.2 havailable)
  have hshare : shareAmount ≠ 0 := by
    rintro rfl
    rw [zero_mul, zero_mul] at howed
    exact absurd howed (not_lt.2 havailable)
  have hamounts : shareAmount = shareAmount * 10 ^ (v.sharesMintDecimals : ℕ) ↔
      v.sharesMintDecimals = 0 := by
    rw [eq_comm, mul_eq_left₀ hshare, pow_eq_one_iff_cases]
    norm_num
  cases hsorted : sortByLiquidity liquidity with
  | nil =>
    have hnil : liquidity = [] :=
      List.nil_perm.1 (hsorted ▸ perm_sortByLiquidity)
    rw [hnil, List.map_nil, List.sum_nil, add_zero] at hcovers
    exact absurd howed (not_lt.2 hcovers)
  | cons first rest =>
    obtain ⟨hperm, hmost⟩ := sortByLiquidity_spec hsorted
    rw [hsorted] at hplan
    have hentries : ∀ e ∈ first :: rest, 0 ≤ e.2 := fun e he ↦ hnonneg e (hperm.mem_iff.1 he)
    have hkey : ∀ p ∈ planReserves (v.tokenAvailable : ℕ) (1 / tokensPerShare)
        (shareAmount * 10 ^ (v.sharesMintDecimals : ℕ) * tokensPerShare - (v.tokenAvailable : ℕ))
        true (first :: rest), vaultReserves.has p.reserve = true := by
      intro p hp
      apply List.all_eq_true.1 hloaded.all_has
      rw [← hkeys]
      exact (hperm.map Prod.fst).mem_iff.1 (reserve_mem_planReserves p hp)
    rw [covers_iff_of_plan hcoll hloaded hplan hkey]
    generalize shareAmount * 10 ^ (v.sharesMintDecimals : ℕ) = shares at *
    by_cases henough : shares * tokensPerShare ≤ (v.tokenAvailable : ℕ) + first.2
    · obtain ⟨p, hsingle, htokens, hshares⟩ := @planReserves_of_enough _ (1 / tokensPerShare) _ first
        rest howed havailable henough
      rw [mul_assoc, mul_one_div_cancel hrate, mul_one] at hshares
      simp only [hsingle, drawn, amountsOf, htokens, hshares, List.map_cons, List.map_nil,
        List.sum_singleton, List.isEmpty_nil, if_true, List.forall_mem_singleton, true_and]
      constructor
      · exact fun h ↦ .inl ⟨⟨first, hperm.mem_iff.1 (List.mem_cons_self ..), henough⟩, h⟩
      · rintro (⟨-, h⟩ | ⟨-, -, n, rfl⟩)
        · exact h
        · exact ⟨n, by rw [Int.ceil_natCast, Int.cast_natCast]⟩
    · have hsum := (hperm.map Prod.snd).sum_eq
      rw [List.map_cons, List.sum_cons] at hsum
      have hshort := @planReserves_of_short _ (1 / tokensPerShare) _ _ _ howed havailable
        (not_le.1 henough) (fun e he ↦ hentries e (List.mem_cons_of_mem _ he)) (hsum ▸ hcovers)
      have hnot : ¬∃ e ∈ liquidity, shares * tokensPerShare ≤ (v.tokenAvailable : ℕ) + e.2 := by
        rintro ⟨e, he, hle⟩
        exact henough (hle.trans (by linarith [hmost e he]))
      rw [or_iff_right (fun h ↦ hnot h.1), hshort.1, Nat.cast_eq_zero, Fin.val_eq_zero_iff]
      apply and_congr_right
      intro hnone
      have hlong := hshort.2 (by rw [hnone]; rfl)
      rw [amountsOf_inj hlong, hamounts]
      apply and_congr_right
      intro _
      constructor
      · obtain ⟨key, hkey⟩ := exists_mem_amountsOf hlong shares
        exact fun h ↦ h _ hkey
      · intro hwhole
        apply forall_mem_amountsOf hwhole
        intro p hp
        obtain ⟨hshares, hp0, hple⟩ := planReserves_shares havailable hentries p hp
        have hpos : 0 < tokensPerShare := by
          obtain ⟨n, rfl⟩ := hwhole
          exact pos_of_mul_pos_right (havailable.trans_lt howed) (Nat.cast_nonneg _)
        rw [hshares, mul_one_div]
        apply isU64_ceil_of_le (div_nonneg hp0 hpos.le) _ hwhole
        rw [div_le_iff₀ hpos]
        linarith

theorem wihdrdrawWithReserveIxns_covers_iff
    (hcoll : ∀ amount decimals, collToLamportsDecimal amount decimals = amount * 10 ^ decimals)
    (hloaded : v.Loaded vaultReserves)
    (hliquidity : v.getReserveAllocationAvailableLiquidityToWithdraw vaultReserves slot =
      some liquidity)
    (hcovers : shareAmount * 10 ^ (v.sharesMintDecimals : ℕ) * tokensPerShare ≤
      (v.tokenAvailable : ℕ) + (liquidity.map Prod.snd).sum) :
    let shareLamports := shareAmount * 10 ^ (v.sharesMintDecimals : ℕ)
    let owed := shareLamports * tokensPerShare
    v.Covers vaultReserves slot collToLamportsDecimal shareAmount tokensPerShare ↔
      owed ≤ (v.tokenAvailable : ℕ) ∧
        (∃ a, v.vaultAllocationStrategy.head? = some a ∧ a.reserve ≠ 0) ∧ IsU64 shareLamports ∨
      (v.tokenAvailable : ℕ) < owed ∧
        ((∃ e ∈ liquidity, owed ≤ (v.tokenAvailable : ℕ) + e.2) ∧ IsU64 ⌈shareLamports⌉ ∨
          v.tokenAvailable = 0 ∧ v.sharesMintDecimals = 0 ∧ IsU64 shareLamports) := by
  intro shareLamports owed
  rcases le_or_gt owed (v.tokenAvailable : ℕ) with hheld | howed
  · rw [covers_iff_of_held hcoll hloaded hheld]
    constructor
    · exact fun h ↦ .inl ⟨hheld, h⟩
    · rintro (⟨-, h⟩ | ⟨howed, -⟩)
      · exact h
      · exact absurd howed (not_lt.2 hheld)
  · rw [covers_iff_of_owed hcoll hloaded hliquidity howed hcovers]
    constructor
    · exact fun h ↦ .inr ⟨howed, h⟩
    · rintro (⟨hheld, -⟩ | ⟨-, h⟩)
      · exact absurd howed (not_lt.2 hheld)
      · exact h

end Covers

section Examples

/-- A vault that holds ten units of its token and can withdraw forty from each of two reserves. -/
def twoReserves : VaultState where
  tokenAvailable := 10
  sharesMintDecimals := 6
  vaultAllocationStrategy := [⟨5, 1, 0, 400000⟩, ⟨6, 1, 0, 400000⟩]
  reserves_nodup := by decide +kernel
  sharesMintDecimals_lt := six_decimals_lt

def twoReservesLoaded : PubkeyHashMap KaminoReserve :=
  [(5, .halfBorrowed (.newFlat 500)), (6, .halfBorrowed (.newFlat 500))]

theorem twoReserves_loaded : twoReserves.Loaded twoReservesLoaded where
  valid := by
    intro a ha
    have hvalid : (KaminoReserve.halfBorrowed (.newFlat 500)).Valid :=
      KaminoReserve.halfBorrowed_valid (by decide)
    have ha : a = ⟨5, 1, 0, 400000⟩ ∨ a = ⟨6, 1, 0, 400000⟩ := by
      simpa [occupied, twoReserves] using ha
    rcases ha with rfl | rfl
    · exact ⟨_, rfl, hvalid⟩
    · exact ⟨_, rfl, hvalid⟩
  default := by decide

theorem twoReserves_liquidity : twoReserves.getReserveAllocationAvailableLiquidityToWithdraw
    twoReservesLoaded 0 = some [(5, 40), (6, 40)] := by
  decide +kernel

theorem twoReserves_covers : twoReserves.Covers twoReservesLoaded 0
    (fun amount decimals ↦ amount * 10 ^ decimals) (45 / 10 ^ 6) 1 :=
  (wihdrdrawWithReserveIxns_covers_iff (fun _ _ ↦ rfl) twoReserves_loaded twoReserves_liquidity
    (by decide +kernel)).2
    (.inr ⟨by decide +kernel, .inl ⟨⟨(5, 40), List.mem_cons_self .., by decide +kernel⟩,
      45, by decide +kernel⟩⟩)

/-- Sixty units need both reserves, and the plan draws fifty. -/
theorem twoReserves_not_covers :
    twoReserves.getReserveAllocationAvailableLiquidityToWithdraw twoReservesLoaded 0 =
      some [(5, 40), (6, 40)] ∧
    (60 / 10 ^ 6 : ℚ) * 10 ^ (twoReserves.sharesMintDecimals : ℕ) * 1 ≤
      (twoReserves.tokenAvailable : ℕ) + (40 + 40) ∧
    ¬ twoReserves.Covers twoReservesLoaded 0 (fun amount decimals ↦ amount * 10 ^ decimals)
      (60 / 10 ^ 6) 1 := by
  refine ⟨twoReserves_liquidity, by decide +kernel, ?_⟩
  rw [covers_iff_of_owed (fun _ _ ↦ rfl) twoReserves_loaded twoReserves_liquidity
    (by decide +kernel) (by decide +kernel)]
  rintro (⟨hsingle, -⟩ | ⟨hnone, -⟩)
  · exact absurd hsingle (by decide +kernel)
  · exact absurd hnone (by decide)

end Examples

end VaultState

end Klend.Sdk
