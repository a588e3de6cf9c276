import Klend.Lending.FlashIxs

/-! # What the flash checks require

The forward loop of a borrow passes exactly when no other borrow and one
matching repay follow; the backward check of a repay passes when the named
instruction is a borrow of its reserve.
-/

namespace Klend.FlashIxs

variable {loader : InstructionLoader} {ixn borrowIx repayIx : Instruction} {amount : U64}
  {index : ℕ} {rest : List Instruction} {found res : Bool}

def Instruction.isFlashBorrow (ixn : Instruction) : Bool :=
  ixn.programId = ID ∧ ixn.data.take 8 = flashBorrowDiscriminator

def Instruction.isFlashRepay (ixn : Instruction) : Bool :=
  ixn.programId = ID ∧ ixn.data.take 8 = flashRepayDiscriminator

theorem Instruction.isFlashBorrow_iff : ixn.isFlashBorrow = true ↔
    ixn.programId = ID ∧ ixn.data.take 8 = flashBorrowDiscriminator := by
  simp [Instruction.isFlashBorrow]

theorem Instruction.isFlashRepay_iff : ixn.isFlashRepay = true ↔
    ixn.programId = ID ∧ ixn.data.take 8 = flashRepayDiscriminator := by
  simp [Instruction.isFlashRepay]

theorem Instruction.not_isFlashRepay (h : ixn.isFlashBorrow = true) : ixn.isFlashRepay = false := by
  rw [Instruction.isFlashBorrow_iff] at h
  rw [Bool.eq_false_iff, ne_eq, Instruction.isFlashRepay_iff, h.2]
  rintro ⟨-, hd⟩
  exact absurd hd (by decide)

@[simp] theorem discriminator_eq_ok {data d : List U8} :
    discriminator data = .ok d ↔ 8 ≤ data.length ∧ data.take 8 = d := by
  unfold discriminator
  split <;> simp_all

@[simp] theorem loadInstructionAt_eq_ok {i : ℕ} :
    loader.loadInstructionAt i = .ok ixn ↔ loader.instructions[i]? = some ixn := by
  unfold InstructionLoader.loadInstructionAt
  cases loader.instructions[i]? <;> simp

theorem isFlashForbiddenCpiCall_eq_ok : loader.isFlashForbiddenCpiCall = .ok false ↔
    ∃ ixn, loader.instructions[loader.currentIndex]? = some ixn ∧ ixn.programId = ID ∧
      loader.stackHeight ≤ 1 := by
  simp only [InstructionLoader.isFlashForbiddenCpiCall, bind_eq_ok, loadInstructionAt_eq_ok]
  constructor
  · rintro ⟨ixn, hixn, h⟩
    by_cases hid : ID = ixn.programId
    · simp only [hid, ne_eq, not_true_eq_false, if_false, pure_eq_ok, decide_eq_false_iff_not,
        not_lt] at h
      exact ⟨ixn, hixn, hid.symm, h⟩
    · simp [hid] at h
  · rintro ⟨ixn, hixn, hid, hheight⟩
    refine ⟨ixn, hixn, ?_⟩
    simp only [hid, ne_eq, not_true_eq_false, if_false, pure_eq_ok, decide_eq_false_iff_not, not_lt]
    exact hheight

theorem forM_zip_eq_ok {as bs : List Pubkey} {e : LendingError} (hlen : bs.length = as.length)
    (h : ((as.zip bs).forM fun p ↦ require (p.1 = p.2) e) = .ok ()) : bs = as := by
  induction as generalizing bs with
  | nil => exact List.length_eq_zero_iff.1 hlen
  | cons a as ih =>
    cases bs with
    | nil => cases hlen
    | cons b bs =>
      change (require (a = b) e >>= fun _ ↦ (as.zip bs).forM fun p ↦ require (p.1 = p.2) e) =
        .ok () at h
      rw [bind_eq_ok] at h
      obtain ⟨_, hab, hrest⟩ := h
      rw [require_eq_ok] at hab
      rw [ih (Nat.succ_injective hlen) hrest, show b = a from hab.symm]

theorem flashBorrowCheckMatchingRepay_spec
    (h : flashBorrowCheckMatchingRepay amount borrowIx repayIx index = .ok ()) :
    ∃ i : U8, (i : ℕ) = index ∧
      FlashRepayReserveLiquidityArgs.deserialize (repayIx.data.drop 8) = .ok (⟨amount, i⟩, []) ∧
      repayIx.accounts = borrowIx.accounts := by
  simp only [flashBorrowCheckMatchingRepay, FlashRepayReserveLiquidityArgs.tryFromSlice, bind_eq_ok,
    require_eq_ok, requireAnchor_eq_ok, pure_eq_ok, Prod.exists] at h
  obtain ⟨args, ⟨args', rest, hargs, -, rfl, rfl⟩, -, rfl, -, hindex, -, hlen, haccounts⟩ := h
  exact ⟨_, hindex, hargs, forM_zip_eq_ok hlen haccounts⟩

theorem findRepayIx_cons (h : findRepayIx amount borrowIx index found (ixn :: rest) = .ok res) :
    ixn.isFlashBorrow = false ∧
    ((ixn.isFlashRepay = false ∧ findRepayIx amount borrowIx index found rest = .ok res) ∨
      (ixn.isFlashRepay = true ∧ found = false ∧
        flashBorrowCheckMatchingRepay amount borrowIx ixn index = .ok () ∧
        findRepayIx amount borrowIx index true rest = .ok res)) := by
  rw [Bool.eq_false_iff, Bool.eq_false_iff, ne_eq, ne_eq, Instruction.isFlashBorrow_iff,
    Instruction.isFlashRepay_iff]
  unfold findRepayIx at h
  split at h
  · next hid => exact ⟨fun hb ↦ hid hb.1, .inl ⟨fun hr ↦ hid hr.1, h⟩⟩
  · next hid =>
    rw [ne_eq, not_not] at hid
    simp only [bind_eq_ok, discriminator_eq_ok, require_eq_ok] at h
    obtain ⟨d, ⟨-, hd⟩, -, hborrow, h⟩ := h
    subst hd
    refine ⟨fun hb ↦ hborrow hb.2, ?_⟩
    split at h
    · next hrepay =>
      simp only [bind_eq_ok, require_eq_ok] at h
      obtain ⟨-, hfound, _, hmatch, hrest⟩ := h
      exact .inr ⟨⟨hid, hrepay⟩, hfound, hmatch, hrest⟩
    · next hrepay => exact .inl ⟨fun hr ↦ hrepay hr.2, h⟩

theorem findRepayIx_borrows (h : findRepayIx amount borrowIx index found rest = .ok res) :
    ∀ ixn ∈ rest, ixn.isFlashBorrow = false := by
  induction rest generalizing found with
  | nil => simp
  | cons ixn rest ih =>
    obtain ⟨hborrow, ⟨-, hrest⟩ | ⟨-, -, -, hrest⟩⟩ := findRepayIx_cons h <;>
      exact List.forall_mem_cons.2 ⟨hborrow, ih hrest⟩

theorem findRepayIx_found (h : findRepayIx amount borrowIx index true rest = .ok res) :
    ∀ ixn ∈ rest, ixn.isFlashRepay = false := by
  induction rest with
  | nil => simp
  | cons ixn rest ih =>
    obtain ⟨-, ⟨hrepay, hrest⟩ | ⟨-, hfound, -⟩⟩ := findRepayIx_cons h
    · exact List.forall_mem_cons.2 ⟨hrepay, ih hrest⟩
    · cases hfound

theorem findRepayIx_spec (h : findRepayIx amount borrowIx index false rest = .ok true) :
    ∃ (k : ℕ) (repayIx : Instruction), rest[k]? = some repayIx ∧ repayIx.isFlashRepay = true ∧
      flashBorrowCheckMatchingRepay amount borrowIx repayIx index = .ok () ∧
      ∀ (j : ℕ) (ixn : Instruction), rest[j]? = some ixn → ixn.isFlashRepay = true → j = k := by
  induction rest with
  | nil => simp [findRepayIx] at h
  | cons ixn rest ih =>
    obtain ⟨-, ⟨hrepay, hrest⟩ | ⟨hrepay, -, hmatch, hrest⟩⟩ := findRepayIx_cons h
    · obtain ⟨k, repayIx, hk, hisrepay, hmatch, huniq⟩ := ih hrest
      refine ⟨k + 1, repayIx, hk, hisrepay, hmatch, fun j jx hj hjx ↦ ?_⟩
      cases j with
      | zero =>
        obtain rfl := Option.some.inj hj
        rw [hrepay] at hjx
        cases hjx
      | succ j => rw [huniq j jx hj hjx]
    · refine ⟨0, ixn, rfl, hrepay, hmatch, fun j jx hj hjx ↦ ?_⟩
      cases j with
      | zero => rfl
      | succ j =>
        have hmem : jx ∈ rest := List.mem_of_getElem? hj
        rw [findRepayIx_found hrest jx hmem] at hjx
        cases hjx

theorem flashBorrowChecks_spec (h : flashBorrowChecks loader amount = .ok ()) :
    ∃ borrowIx, loader.instructions[loader.currentIndex]? = some borrowIx ∧
      loader.stackHeight ≤ 1 ∧
      findRepayIx amount borrowIx loader.currentIndex false
        (loader.instructions.drop (loader.currentIndex + 1)) = .ok true := by
  simp only [flashBorrowChecks, bind_eq_ok, require_eq_ok, loadInstructionAt_eq_ok] at h
  obtain ⟨forbidden, hforbidden, -, rfl, borrowIx, hborrow, found, hfound, hrepay⟩ := h
  obtain ⟨-, -, -, hheight⟩ := isFlashForbiddenCpiCall_eq_ok.1 hforbidden
  exact ⟨borrowIx, hborrow, hheight, hrepay ▸ hfound⟩

theorem flashRepayChecks_spec {reserve : Pubkey} {i : U8}
    (h : flashRepayChecks loader reserve i amount = .ok ()) :
    loader.stackHeight ≤ 1 ∧ (i : ℕ) ≤ loader.currentIndex ∧
      ∃ borrowIx, loader.instructions[(i : ℕ)]? = some borrowIx ∧
        borrowIx.isFlashBorrow = true := by
  simp only [flashRepayChecks, bind_eq_ok, require_eq_ok, loadInstructionAt_eq_ok,
    discriminator_eq_ok, not_lt, Prod.exists] at h
  obtain ⟨forbidden, hforbidden, -, rfl, -, hle, borrowIx, hborrow, -, hid, d, ⟨-, hd⟩, -, hdisc, -⟩ := h
  obtain ⟨-, -, -, hheight⟩ := isFlashForbiddenCpiCall_eq_ok.1 hforbidden
  exact ⟨hheight, hle, borrowIx, hborrow, Instruction.isFlashBorrow_iff.2 ⟨hid, hd.trans hdisc⟩⟩

theorem processInstruction_borrow (hborrow : ixn.isFlashBorrow = true)
    (h : processInstruction loader ixn = .ok ()) :
    ∃ (amount : U64) (reserve : Pubkey),
      FlashBorrowReserveLiquidityArgs.deserialize (ixn.data.drop 8) = .ok ⟨amount⟩ ∧
      reserveAccount ixn = .ok reserve ∧ flashBorrowChecks loader amount = .ok () := by
  obtain ⟨hid, hd⟩ := Instruction.isFlashBorrow_iff.1 hborrow
  simp only [processInstruction, hid, ne_eq, not_true_eq_false, if_false, bind_eq_ok,
    discriminator_eq_ok] at h
  obtain ⟨d, ⟨-, rfl⟩, h⟩ := h
  simp only [hd, if_true, bind_eq_ok] at h
  obtain ⟨args, hargs, reserve, hreserve, hchecks⟩ := h
  exact ⟨_, reserve, hargs, hreserve, hchecks⟩

theorem processInstruction_repay (hrepay : ixn.isFlashRepay = true)
    (h : processInstruction loader ixn = .ok ()) :
    ∃ (args : FlashRepayReserveLiquidityArgs) (rest : List U8) (reserve : Pubkey),
      FlashRepayReserveLiquidityArgs.deserialize (ixn.data.drop 8) = .ok (args, rest) ∧
      reserveAccount ixn = .ok reserve ∧
      flashRepayChecks loader reserve args.borrowInstructionIndex args.liquidityAmount = .ok () := by
  obtain ⟨hid, hd⟩ := Instruction.isFlashRepay_iff.1 hrepay
  have hne : ¬ flashRepayDiscriminator = flashBorrowDiscriminator := by decide
  simp only [processInstruction, hid, ne_eq, not_true_eq_false, if_false, bind_eq_ok,
    discriminator_eq_ok] at h
  obtain ⟨d, ⟨-, rfl⟩, h⟩ := h
  simp only [hd, hne, if_false, if_true, bind_eq_ok, Prod.exists] at h
  obtain ⟨args, rest, hargs, reserve, hreserve, hchecks⟩ := h
  exact ⟨args, rest, reserve, hargs, hreserve, hchecks⟩

end Klend.FlashIxs
