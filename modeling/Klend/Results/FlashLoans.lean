import Klend.Lending.FlashIxsSpecs

/-! # Flash loans are repaid

In a transaction that succeeds, a flash borrow and a flash repay only occur
together, once, at the top level, and as each other's counterpart.
-/

namespace Klend.FlashIxs

open CallStack (Call)

variable {tx : List Instruction} {log : List (Call Instruction)} {i : ℕ} {ix : Instruction}

/-- A flash borrow with its repayment: both instructions of the transaction itself, the repay later,
over the same accounts, for the same amount, and naming the borrow's index. -/
structure FlashPair (tx : List Instruction) (b c : Call Instruction) : Prop where
  borrow_topLevel : b.stackHeight = 1 ∧ tx[b.index]? = some b.instruction
  repay_topLevel : c.stackHeight = 1 ∧ tx[c.index]? = some c.instruction
  index_lt : b.index < c.index
  accounts_eq : c.instruction.accounts = b.instruction.accounts
  reserve_eq : ∃ reserve, reserveAccount b.instruction = .ok reserve ∧
    reserveAccount c.instruction = .ok reserve
  args_eq : ∃ (amount : U64) (borrowIndex : U8),
    FlashBorrowReserveLiquidityArgs.deserialize (b.instruction.data.drop 8) = .ok ⟨amount⟩ ∧
    FlashRepayReserveLiquidityArgs.deserialize (c.instruction.data.drop 8) =
      .ok (⟨amount, borrowIndex⟩, []) ∧
    (borrowIndex : ℕ) = b.index

theorem topLevel_of_isFlashBorrow (c : Call Instruction)
    (hadm : processInstruction ⟨tx, c.index, c.stackHeight⟩ c.instruction = .ok ())
    (hb : c.instruction.isFlashBorrow = true) : c.stackHeight ≤ 1 := by
  obtain ⟨amount, reserve, -, -, hchecks⟩ := processInstruction_borrow hb hadm
  obtain ⟨-, -, hheight, -⟩ := flashBorrowChecks_spec hchecks
  exact hheight

theorem topLevel_of_isFlashRepay (c : Call Instruction)
    (hadm : processInstruction ⟨tx, c.index, c.stackHeight⟩ c.instruction = .ok ())
    (hr : c.instruction.isFlashRepay = true) : c.stackHeight ≤ 1 := by
  obtain ⟨args, rest, reserve, -, -, hchecks⟩ := processInstruction_repay hr hadm
  exact (flashRepayChecks_spec hchecks).1

section Succeeds

variable (h : Succeeds tx log)
include h

theorem processInstruction_of_getElem? (hix : tx[i]? = some ix) :
    processInstruction ⟨tx, i, 1⟩ ix = .ok () :=
  h.admits (h.mem_log hix)

theorem borrow_spec (hix : tx[i]? = some ix) (hb : ix.isFlashBorrow = true) :
    ∃ (amount : U64) (reserve : Pubkey),
      FlashBorrowReserveLiquidityArgs.deserialize (ix.data.drop 8) = .ok ⟨amount⟩ ∧
      reserveAccount ix = .ok reserve ∧
      findRepayIx amount ix i false (tx.drop (i + 1)) = .ok true := by
  obtain ⟨amount, reserve, hargs, hreserve, hchecks⟩ :=
    processInstruction_borrow hb (processInstruction_of_getElem? h hix)
  obtain ⟨borrowIx, hborrow, -, hfound⟩ := flashBorrowChecks_spec hchecks
  obtain rfl := Option.some.inj (hix.symm.trans hborrow)
  exact ⟨amount, reserve, hargs, hreserve, hfound⟩

theorem borrow_last (hix : tx[i]? = some ix) (hb : ix.isFlashBorrow = true) {k : ℕ}
    {kx : Instruction} (hik : i < k) (hkx : tx[k]? = some kx) : kx.isFlashBorrow = false := by
  obtain ⟨amount, reserve, -, -, hfound⟩ := borrow_spec h hix hb
  refine findRepayIx_borrows hfound kx (List.mem_of_getElem? (i := k - (i + 1)) ?_)
  rwa [List.getElem?_drop, Nat.add_sub_cancel' hik]

theorem borrow_unique (hix : tx[i]? = some ix) (hb : ix.isFlashBorrow = true) {k : ℕ}
    {kx : Instruction} (hkx : tx[k]? = some kx) (hbk : kx.isFlashBorrow = true) : k = i := by
  rcases Nat.lt_trichotomy k i with hlt | heq | hgt
  · have := borrow_last h hkx hbk hlt hix
    rw [hb] at this
    cases this
  · exact heq
  · have := borrow_last h hix hb hgt hkx
    rw [hbk] at this
    cases this

theorem repay_spec (hix : tx[i]? = some ix) (hr : ix.isFlashRepay = true) :
    ∃ k kx, k < i ∧ tx[k]? = some kx ∧ kx.isFlashBorrow = true := by
  obtain ⟨args, rest, reserve, -, -, hchecks⟩ :=
    processInstruction_repay hr (processInstruction_of_getElem? h hix)
  obtain ⟨-, hle, kx, hkx, hbk⟩ := flashRepayChecks_spec hchecks
  refine ⟨args.borrowInstructionIndex, kx, lt_of_le_of_ne hle ?_, hkx, hbk⟩
  rintro (heq : (args.borrowInstructionIndex : ℕ) = i)
  rw [heq, hix] at hkx
  obtain rfl := Option.some.inj hkx
  rw [Instruction.not_isFlashRepay hbk] at hr
  cases hr

/-- The one repay that matches a borrow is the only one of the transaction. -/
theorem borrow_paired (hix : tx[i]? = some ix) (hb : ix.isFlashBorrow = true) :
    ∃ j jx, tx[j]? = some jx ∧ jx.isFlashRepay = true ∧ FlashPair tx ⟨i, 1, ix⟩ ⟨j, 1, jx⟩ ∧
      ∀ k kx, tx[k]? = some kx → kx.isFlashRepay = true → k = j := by
  obtain ⟨amount, reserve, hargs, hreserve, hfound⟩ := borrow_spec h hix hb
  obtain ⟨j, jx, hjx, hrepay, hmatch, huniq⟩ := findRepayIx_spec hfound
  obtain ⟨borrowIndex, hindex, hargs', haccounts⟩ := flashBorrowCheckMatchingRepay_spec hmatch
  rw [List.getElem?_drop] at hjx
  refine ⟨i + 1 + j, jx, hjx, hrepay, ?_, fun k kx hkx hrk ↦ ?_⟩
  · refine ⟨⟨rfl, hix⟩, ⟨rfl, hjx⟩, ?_, haccounts, ⟨reserve, hreserve, ?_⟩,
      ⟨amount, borrowIndex, hargs, hargs', hindex⟩⟩
    · show i < i + 1 + j
      omega
    · rw [reserveAccount, haccounts]
      exact hreserve
  · rcases Nat.lt_trichotomy k i with hlt | heq | hgt
    · -- a repay before the borrow would look back at a second borrow
      obtain ⟨m, mx, hmk, hmx, hbm⟩ := repay_spec h hkx hrk
      have := borrow_unique h hix hb hmx hbm
      omega
    · subst heq
      obtain rfl := Option.some.inj (hix.symm.trans hkx)
      rw [Instruction.not_isFlashRepay hb] at hrk
      cases hrk
    · have hk : (tx.drop (i + 1))[k - (i + 1)]? = some kx := by
        rwa [List.getElem?_drop, Nat.add_sub_cancel' hgt]
      have := huniq _ kx hk hrk
      omega

theorem filter_borrows :
    log.filter (·.instruction.isFlashBorrow) =
      (CallStack.topCalls tx).filter (·.instruction.isFlashBorrow) :=
  h.filter_log topLevel_of_isFlashBorrow

theorem filter_repays :
    log.filter (·.instruction.isFlashRepay) =
      (CallStack.topCalls tx).filter (·.instruction.isFlashRepay) :=
  h.filter_log topLevel_of_isFlashRepay

/-- A borrow of the transaction and its repay are the only flash calls made. -/
theorem filter_log_of_borrow (hix : tx[i]? = some ix) (hb : ix.isFlashBorrow = true) :
    log.filter (·.instruction.isFlashBorrow) = [⟨i, 1, ix⟩] ∧
      ∃ c, log.filter (·.instruction.isFlashRepay) = [c] ∧ FlashPair tx ⟨i, 1, ix⟩ c := by
  obtain ⟨j, jx, hjx, hrepay, hpair, huniq⟩ := borrow_paired h hix hb
  refine ⟨?_, ⟨j, 1, jx⟩, ?_, hpair⟩
  · rw [filter_borrows h]
    exact CallStack.filter_topCalls hix hb fun k kx hkx hbk ↦ borrow_unique h hix hb hkx hbk
  · rw [filter_repays h]
    exact CallStack.filter_topCalls hjx hrepay huniq

/-- In a transaction that succeeds every flash borrow, wherever it is called, is the only one and an
instruction of the transaction itself; exactly one flash repay is made, and it is the borrow's
counterpart. So is every flash repay the counterpart of exactly one borrow. -/
theorem flashLoans_paired :
    (∀ b ∈ log, b.instruction.isFlashBorrow = true →
      log.filter (·.instruction.isFlashBorrow) = [b] ∧
        ∃ c, log.filter (·.instruction.isFlashRepay) = [c] ∧ FlashPair tx b c) ∧
    ∀ c ∈ log, c.instruction.isFlashRepay = true →
      log.filter (·.instruction.isFlashRepay) = [c] ∧
        ∃ b, log.filter (·.instruction.isFlashBorrow) = [b] ∧ FlashPair tx b c := by
  constructor
  · intro b hb hborrow
    have hmem : b ∈ log.filter (·.instruction.isFlashBorrow) := List.mem_filter.2 ⟨hb, hborrow⟩
    rw [filter_borrows h] at hmem
    obtain ⟨hheight, hix⟩ := CallStack.mem_topCalls.1 (List.mem_filter.1 hmem).1
    obtain ⟨i, height, ix⟩ := b
    obtain rfl : height = 1 := hheight
    exact filter_log_of_borrow h hix hborrow
  · intro c hc hrepay
    have hmem : c ∈ log.filter (·.instruction.isFlashRepay) := List.mem_filter.2 ⟨hc, hrepay⟩
    rw [filter_repays h] at hmem
    obtain ⟨-, hix⟩ := CallStack.mem_topCalls.1 (List.mem_filter.1 hmem).1
    obtain ⟨k, kx, -, hkx, hbk⟩ := repay_spec h hix hrepay
    obtain ⟨hfilter, c', hfilter', hpair⟩ := filter_log_of_borrow h hkx hbk
    have hsame : c ∈ [c'] := hfilter' ▸ List.mem_filter.2 ⟨hc, hrepay⟩
    obtain rfl := List.mem_singleton.1 hsame
    exact ⟨hfilter', _, hfilter, hpair⟩

end Succeeds

/-- Twelve accounts, with reserve 5 in its place. -/
def flashAccounts : List Pubkey := [1, 2, 3, 5, 6, 7, 8, 9, 10, 11, 12, 13]

/-- A flash loan of 1000 around a swap, which another program makes with a call of a third one. -/
def flashTransaction : List Instruction :=
  [⟨ID, flashAccounts, flashBorrowDiscriminator ++ [232, 3, 0, 0, 0, 0, 0, 0]⟩,
    ⟨20, [7, 8], [1]⟩,
    ⟨ID, flashAccounts, flashRepayDiscriminator ++ [232, 3, 0, 0, 0, 0, 0, 0, 0]⟩]

def flashLog : List (Call Instruction) :=
  [⟨0, 1, ⟨ID, flashAccounts, flashBorrowDiscriminator ++ [232, 3, 0, 0, 0, 0, 0, 0]⟩⟩,
    ⟨1, 1, ⟨20, [7, 8], [1]⟩⟩, ⟨1, 2, ⟨21, [8], []⟩⟩,
    ⟨2, 1, ⟨ID, flashAccounts, flashRepayDiscriminator ++ [232, 3, 0, 0, 0, 0, 0, 0, 0]⟩⟩]

theorem flashTransaction_succeeds : Succeeds flashTransaction flashLog := by
  refine .tail (.tail (.tail (.tail (.tail (.tail (.tail (.tail .refl
    (.start rfl rfl ?_)) (.finish rfl)) (.start rfl rfl ?_)) (.invoke ⟨21, [8], []⟩ ?_ ?_))
    (.finish rfl)) (.finish rfl)) (.start rfl rfl ?_)) (.finish rfl)
  · show processInstruction ⟨flashTransaction, 0, 1⟩ _ = .ok ()
    decide
  · rfl
  · exact List.cons_ne_nil _ _
  · rfl
  · show processInstruction ⟨flashTransaction, 2, 1⟩ _ = .ok ()
    decide

theorem flashLoans_paired_flashTransaction :
    ∃ b c, flashLog.filter (·.instruction.isFlashBorrow) = [b] ∧
      flashLog.filter (·.instruction.isFlashRepay) = [c] ∧ FlashPair flashTransaction b c := by
  obtain ⟨hfilter, c, hfilter', hpair⟩ := (flashLoans_paired flashTransaction_succeeds).1
    ⟨0, 1, ⟨ID, flashAccounts, flashBorrowDiscriminator ++ [232, 3, 0, 0, 0, 0, 0, 0]⟩⟩
    (by decide) (by decide)
  exact ⟨_, c, hfilter, hfilter', hpair⟩

end Klend.FlashIxs
