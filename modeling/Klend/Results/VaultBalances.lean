import Klend.Lending.VaultChecks

/-! # The comparison of vault and books is exact

What the check after a transfer accepts is that the vault and the available liquidity both
moved by the action's amount, as integers.
-/

namespace Klend

/-- What an action adds to the vault and to the books. -/
def LendingAction.change : LendingAction → ℤ
  | .additive amount => (amount : ℕ)
  | .subtractive amount => -((amount : ℕ) : ℤ)
  | .substractiveSigned amount => -amount.val

/-- The difference of vault and books is unchanged, and both moved by the amount. -/
structure MovedExactly (vault' available' vault available : U64) (action : LendingAction) :
    Prop where
  difference : ((vault : ℕ) : ℤ) - (available : ℕ) = (vault' : ℕ) - (available' : ℕ)
  vault : ((vault' : ℕ) : ℤ) = (vault : ℕ) + action.change
  available : ((available' : ℕ) : ℤ) = (available : ℕ) + action.change

section Checks

variable {vault' available' vault available amount n m : U64} {signed : I64}
  {action : LendingAction}

theorem Word.asI64_val : (Word.asI64 n).val =
    if (n : ℕ) < 2 ^ 63 then ((n : ℕ) : ℤ) else (n : ℕ) - 2 ^ 64 := by
  unfold asI64
  split <;> rfl

theorem subSigned_eq_ok : subSigned n signed = .ok m ↔
    ((m : ℕ) : ℤ) = (Word.asI64 n).val - signed.val ∧ (m : ℕ) < 2 ^ 63 := by
  simp only [subSigned, bind_eq_ok, unwrap_eq_ok, require_eq_ok, Word.fit_eq_ok,
    I64.checkedFit_eq_some]
  constructor
  · rintro ⟨d, hd, _, hnonneg, hm⟩
    have := d.property.2
    omega
  · rintro ⟨hm, hlt⟩
    refine ⟨⟨(m : ℕ), by omega⟩, hm, (), ?_, ?_⟩
    · exact Int.natCast_nonneg _
    · rfl

/-- The unsigned differences exist only where the vault covers the books, and then agree as
integers. -/
theorem differences_eq_ok {P : Prop} :
    (∃ pre, Word.sub vault available = .ok pre ∧
      ∃ post, Word.sub vault' available' = .ok post ∧ pre = post ∧ P) ↔
    available ≤ vault ∧
      ((vault : ℕ) : ℤ) - (available : ℕ) = (vault' : ℕ) - (available' : ℕ) ∧ P := by
  simp only [Word.sub_eq_ok, Fin.le_def]
  constructor
  · rintro ⟨pre, hpre, _, hpost, rfl, hP⟩
    exact ⟨by omega, by omega, hP⟩
  · rintro ⟨hle, hdifference, hP⟩
    have hlt : (vault : ℕ) - available < 2 ^ 64 := by omega
    exact ⟨⟨vault - available, hlt⟩, by dsimp only; omega, ⟨vault - available, hlt⟩,
      by dsimp only; omega, rfl, hP⟩

/-- What the check expects of a balance before the action. -/
def LendingAction.move (action : LendingAction) (balance : U64) : Result U64 :=
  match action with
  | .additive amount => Word.add balance amount
  | .subtractive amount => Word.sub balance amount
  | .substractiveSigned amount => subSigned balance amount

theorem moves_eq_ok {move : U64 → Result U64} :
    (∃ a, move vault = .ok a ∧ a = vault' ∧ ∃ b, move available = .ok b ∧ b = available') ↔
      move vault = .ok vault' ∧ move available = .ok available' := by
  constructor
  · rintro ⟨_, hvault, rfl, _, havailable, rfl⟩
    exact ⟨hvault, havailable⟩
  · rintro ⟨hvault, havailable⟩
    exact ⟨vault', hvault, rfl, available', havailable, rfl⟩

/-- The check passes where the vault covered the books, the difference is kept and both are as the
action moves them. -/
theorem checks_eq_ok :
    postTransferVaultBalanceLiquidityReserveChecks vault' available' vault available action =
        .ok () ↔
      available ≤ vault ∧
        ((vault : ℕ) : ℤ) - (available : ℕ) = (vault' : ℕ) - (available' : ℕ) ∧
        action.move vault = .ok vault' ∧ action.move available = .ok available' := by
  have hmoves := @moves_eq_ok vault' available' vault available action.move
  cases action with
  | additive | subtractive | substractiveSigned =>
    simp only [LendingAction.move] at hmoves
    simp only [postTransferVaultBalanceLiquidityReserveChecks, bind_eq_ok, require_eq_ok,
      exists_and_left, exists_const, differences_eq_ok, hmoves, LendingAction.move]

theorem checks_iff_movedExactly
    (hvault : action.move vault = .ok vault' ↔ ((vault' : ℕ) : ℤ) = (vault : ℕ) + action.change)
    (havailable : available ≤ vault →
      ((vault : ℕ) : ℤ) - (available : ℕ) = (vault' : ℕ) - (available' : ℕ) →
      (action.move available = .ok available' ↔
        ((available' : ℕ) : ℤ) = (available : ℕ) + action.change)) :
    postTransferVaultBalanceLiquidityReserveChecks vault' available' vault available action =
        .ok () ↔
      available ≤ vault ∧ MovedExactly vault' available' vault available action := by
  rw [checks_eq_ok, hvault]
  constructor
  · rintro ⟨hle, hdifference, hv, ha⟩
    exact ⟨hle, hdifference, hv, (havailable hle hdifference).1 ha⟩
  · rintro ⟨hle, hdifference, hv, ha⟩
    exact ⟨hle, hdifference, hv, (havailable hle hdifference).2 ha⟩

theorem add_eq_ok_int : Word.add n m = .ok vault ↔ ((vault : ℕ) : ℤ) = (n : ℕ) + (m : ℕ) := by
  rw [Word.add_eq_ok]
  omega

theorem sub_eq_ok_int :
    Word.sub n m = .ok vault ↔ ((vault : ℕ) : ℤ) = (n : ℕ) + -((m : ℕ) : ℤ) := by
  rw [Word.sub_eq_ok]
  omega

theorem subSigned_eq_ok_int (hn : (n : ℕ) < 2 ^ 63) (hm : (m : ℕ) < 2 ^ 63) :
    subSigned n signed = .ok m ↔ ((m : ℕ) : ℤ) = (n : ℕ) + -signed.val := by
  rw [subSigned_eq_ok, Word.asI64_val, if_pos hn]
  omega

/-- With a signed amount balances from 2^63 on are refused, except that vault and books may both be
off by 2^64. -/
theorem signedChecks_eq_ok :
    postTransferVaultBalanceLiquidityReserveChecks vault' available' vault available
        (.substractiveSigned signed) = .ok () ↔
      available ≤ vault ∧
        (MovedExactly vault' available' vault available (.substractiveSigned signed) ∧
            (vault : ℕ) < 2 ^ 63 ∧ (vault' : ℕ) < 2 ^ 63 ∨
          2 ^ 63 ≤ (available : ℕ) ∧
            ((vault' : ℕ) : ℤ) = (vault : ℕ) - 2 ^ 64 - signed.val ∧
            ((available' : ℕ) : ℤ) = (available : ℕ) - 2 ^ 64 - signed.val) := by
  have hmin := signed.property.1
  simp only [checks_eq_ok, LendingAction.move, subSigned_eq_ok, Word.asI64_val, Fin.le_def]
  constructor
  · rintro ⟨hle, hdifference, ⟨hv, hv'⟩, ha, ha'⟩
    refine ⟨hle, ?_⟩
    by_cases hsmall : (vault : ℕ) < 2 ^ 63
    · rw [if_pos hsmall] at hv
      rw [if_pos (hle.trans_lt hsmall)] at ha
      exact .inl ⟨⟨hdifference, hv, ha⟩, hsmall, hv'⟩
    · rw [if_neg hsmall] at hv
      split at ha
      · omega
      · exact .inr ⟨by omega, hv, ha⟩
  · rintro ⟨hle, ⟨⟨hdifference, hv, ha⟩, hsmall, hv'⟩ | ⟨hlarge, hv, ha⟩⟩
    · simp only [LendingAction.change] at hv ha
      rw [if_pos hsmall, if_pos (hle.trans_lt hsmall)]
      omega
    · rw [if_neg (by omega), if_neg (by omega)]
      omega

end Checks

/-- The check accepts exactly the transfers of a vault that covers the books in which vault and
books moved by the action's amount; with a signed amount, for balances below 2^63. -/
theorem postTransferChecks_exact {vault' available' vault available : U64}
    {action : LendingAction}
    (hsigned : ∀ amount, action = .substractiveSigned amount →
      (vault : ℕ) < 2 ^ 63 ∧ (vault' : ℕ) < 2 ^ 63) :
    postTransferVaultBalanceLiquidityReserveChecks vault' available' vault available action =
        .ok () ↔
      available ≤ vault ∧ MovedExactly vault' available' vault available action := by
  cases action with
  | additive amount => exact checks_iff_movedExactly add_eq_ok_int fun _ _ ↦ add_eq_ok_int
  | subtractive amount => exact checks_iff_movedExactly sub_eq_ok_int fun _ _ ↦ sub_eq_ok_int
  | substractiveSigned amount =>
    obtain ⟨hvault, hvault'⟩ := hsigned amount rfl
    apply checks_iff_movedExactly
    · exact subSigned_eq_ok_int hvault hvault'
    · -- the books are below the vault before and after
      intro hle hdifference
      rw [Fin.le_def] at hle
      apply subSigned_eq_ok_int
      · omega
      · omega

theorem postTransferChecks_exact_signed :
    postTransferVaultBalanceLiquidityReserveChecks 70 50 100 80 (.substractiveSigned ⟨30, by decide⟩) =
        .ok () ↔
      (80 : U64) ≤ 100 ∧ MovedExactly 70 50 100 80 (.substractiveSigned ⟨30, by decide⟩) :=
  postTransferChecks_exact fun _ _ ↦ by decide

/-- A vault below its books fails though nothing moved, and from 2^63 on a signed balance is off by
2^64: an exact transfer is refused, and an inexact one is accepted. -/
theorem postTransferChecks_not_exact :
    (MovedExactly 0 1 0 1 (.additive 0) ∧
      postTransferVaultBalanceLiquidityReserveChecks 0 1 0 1 (.additive 0) ≠ .ok ()) ∧
    (MovedExactly 9223372036854775807 0 9223372036854775808 1
        (.substractiveSigned ⟨1, by decide⟩) ∧
      postTransferVaultBalanceLiquidityReserveChecks 9223372036854775807 0 9223372036854775808 1
        (.substractiveSigned ⟨1, by decide⟩) ≠ .ok ()) ∧
    (¬ MovedExactly 0 0 9223372036854775808 9223372036854775808
        (.substractiveSigned ⟨-2 ^ 63, by decide⟩) ∧
      postTransferVaultBalanceLiquidityReserveChecks 0 0 9223372036854775808 9223372036854775808
        (.substractiveSigned ⟨-2 ^ 63, by decide⟩) = .ok ()) := by
  refine ⟨⟨⟨?_, ?_, ?_⟩, ?_⟩, ⟨⟨?_, ?_, ?_⟩, ?_⟩, ?_, ?_⟩
  iterate 8 decide
  · intro h
    exact absurd h.vault (by decide)
  · decide

end Klend
