import Klend.Sdk.MarketConfig

/-! # The client's bytes and the program's reading of them

Every update of a market that the client encodes is read by the program as the same
mode, and as the same value except for one mode: the minimal net value is written with
its most significant byte first and read with its least significant byte first.
-/

namespace Klend.Sdk

open LendingMarketUpdate

/-- The client sends an instruction for the update, and the program reads the update off it. -/
def Arrives (update : LendingMarketUpdate) : Prop :=
  ∃ (mode : U64) (buffer : List U8), updateLendingMarketArgs update = some ((mode : ℕ), buffer) ∧
    buffer.length = valueByteMaxArrayLenMarketUpdate ∧ readArgs mode buffer = .ok update

/-- A 64-bit number is one that a JavaScript number holds, the bytes of the minimal net value are
the same in both orders, and the reserved words of a group are zero. -/
def Carried : LendingMarketUpdate → Prop
  | .updateLiquidationMaxValue value => (value : ℕ) < 2 ^ 53
  | .updateGlobalAllowedBorrow value => (value : ℕ) < 2 ^ 53
  | .updateMinFullLiquidationThreshold value => (value : ℕ) < 2 ^ 53
  | .updateElevationGroup value => value.padding1 = fun _ ↦ 0
  | .updateMinNetValueObligationPostAction value => value.toLeBytes.reverse = value.toLeBytes
  | .updateMinValueLtvSkipPriorityLiqCheck value => (value : ℕ) < 2 ^ 53
  | .updateMinValueBfSkipPriorityLiqCheck value => (value : ℕ) < 2 ^ 53
  | .updateIndividualAutodeleverageMarginCallPeriodSecs value => (value : ℕ) < 2 ^ 53
  | .updateInitialDepositAmount value => (value : ℕ) < 2 ^ 53
  | _ => True

theorem discriminator_lt (mode : UpdateLendingMarketMode) : discriminator mode < 2 ^ 64 := by
  cases mode <;> decide

theorem arrives_iff {update : LendingMarketUpdate} {mode : UpdateLendingMarketMode}
    {buffer : List U8} (hargs : updateLendingMarketArgs update = some (discriminator mode, buffer))
    (hlength : buffer.length = 72) : Arrives update ↔ decode mode buffer = .ok update := by
  constructor
  · rintro ⟨mode', buffer', hargs', -, hread⟩
    rw [hargs, Option.some.injEq, Prod.mk.injEq] at hargs'
    rwa [← hargs'.1, ← hargs'.2, readArgs, tryFrom_discriminator] at hread
  · intro hdecode
    refine ⟨⟨discriminator mode, discriminator_lt mode⟩, buffer, hargs, hlength, ?_⟩
    rw [readArgs, tryFrom_discriminator]
    exact hdecode

theorem not_arrives {update : LendingMarketUpdate} (hargs : updateLendingMarketArgs update = none) :
    ¬ Arrives update := by
  rintro ⟨mode, buffer, hsome, -⟩
  rw [hargs] at hsome
  cases hsome

section Kinds

variable {mode : UpdateLendingMarketMode}

theorem arrives_u8 {f : U8 → LendingMarketUpdate} {new : U8}
    (hargs : updateLendingMarketArgs (f new) = do
      let buffer ← writeUIntLE (alloc 72) new 0 1
      pure (discriminator mode, buffer))
    (hdecode : ∀ value, decode mode value = f <$> decodeU8 value) : Arrives (f new) := by
  have hwrite : writeUIntLE (alloc 72) new 0 1 = some (new.toLeBytes ++ List.replicate 71 0) :=
    @writeWord_alloc 8 72 (by decide) new (by decide)
  have hbytes : new.toLeBytes = [new] := Digits.digits_value [new]
  rw [hwrite] at hargs
  refine (arrives_iff hargs (by rw [List.length_append, hbytes]; rfl)).2 ?_
  rw [hdecode, hbytes]
  rfl

theorem arrives_u16 {f : U16 → LendingMarketUpdate} {new : U16}
    (hargs : updateLendingMarketArgs (f new) = do
      let buffer ← writeUInt16LE (alloc 72) new 0
      pure (discriminator mode, buffer))
    (hdecode : ∀ value, decode mode value = f <$> Word.fromLeBytes 16 (value.take 2)) :
    Arrives (f new) := by
  have hwrite : writeUInt16LE (alloc 72) new 0 = some (new.toLeBytes ++ List.replicate 70 0) :=
    @writeWord_alloc 16 72 (by decide) new (by decide)
  rw [hwrite] at hargs
  refine (arrives_iff hargs (by rw [List.length_append, Word.length_toLeBytes]; rfl)).2 ?_
  rw [hdecode]
  exact congrArg (f <$> ·) (Word.fromLeBytes_take_append (by decide) new _)

theorem arrives_u64 {f : U64 → LendingMarketUpdate} {new : U64} (mode : UpdateLendingMarketMode)
    (hargs : encodable (f new) = (mode, (toNumber new).map .number))
    (hencode : ∀ n, updateMarketConfigEncodedValue mode (.number n) =
      writeBigUint64LE (alloc 72) n 0)
    (hdecode : ∀ value, decode mode value = f <$> Word.fromLeBytes 64 (value.take 8)) :
    Arrives (f new) ↔ (new : ℕ) < 2 ^ 53 := by
  by_cases hnumber : (new : ℕ) < 2 ^ 53
  · have hwrite : writeBigUint64LE (alloc 72) new 0 = some (new.toLeBytes ++ List.replicate 64 0) :=
      @writeWord_alloc 64 72 (by decide) new (by decide)
    have hsent : updateLendingMarketArgs (f new) =
        some (discriminator mode, new.toLeBytes ++ List.replicate 64 0) := by
      rw [updateLendingMarketArgs, hargs, toNumber, if_pos hnumber, Option.map_some,
        Option.bind_eq_bind, Option.bind_some, hencode, hwrite]
      rfl
    refine iff_of_true ((arrives_iff hsent ?_).2 ?_) hnumber
    · rw [List.length_append, Word.length_toLeBytes]
      rfl
    · rw [hdecode]
      exact congrArg (f <$> ·) (Word.fromLeBytes_take_append (by decide) new _)
  · refine iff_of_false (not_arrives ?_) hnumber
    rw [updateLendingMarketArgs, hargs, toNumber, if_neg hnumber]
    rfl

theorem arrives_pubkey {f : Pubkey → LendingMarketUpdate} {new : Pubkey}
    (hargs : updateLendingMarketArgs (f new) =
      some (discriminator mode, copy (Pubkey.toBytes new) (alloc 72) 0))
    (hdecode : ∀ value, decode mode value = f <$> Pubkey.fromBytes (value.take 32)) :
    Arrives (f new) := by
  have hcopy : copy (Pubkey.toBytes new) (alloc 72) 0 =
      Pubkey.toBytes new ++ List.replicate 40 0 := by
    have h := @copy_append 0 72 [] (Pubkey.toBytes new) rfl (by rw [Pubkey.length_toBytes]; decide)
    rwa [Pubkey.length_toBytes] at h
  rw [hcopy] at hargs
  refine (arrives_iff hargs (by rw [List.length_append, Pubkey.length_toBytes]; rfl)).2 ?_
  rw [hdecode, List.take_left' Pubkey.length_toBytes, Pubkey.fromBytes_toBytes]
  rfl

theorem arrives_name {new : NameBytes} : Arrives (.updateName new) := by
  have hwrite : writeBytes (alloc 72) 0 (new.val.map Fin.val) =
      some (new.val ++ List.replicate 40 0) := by
    have h := @writeBytes_append 0 72 [] new.val rfl (by rw [new.property]; decide)
    rwa [new.property] at h
  have hargs : updateLendingMarketArgs (.updateName new) =
      some (discriminator .updateName, new.val ++ List.replicate 40 0) := by
    rw [updateLendingMarketArgs, encodable, Option.bind_eq_bind, Option.bind_some,
      updateMarketConfigEncodedValue, hwrite]
    rfl
  refine (arrives_iff hargs (by rw [List.length_append, new.property]; rfl)).2 ?_
  have htake : (new.val ++ List.replicate 40 0).take 32 = new.val := List.take_left' new.property
  have hname : decodeName (new.val ++ List.replicate 40 0) = .ok new := by
    rw [decodeName, dif_pos (by rw [htake]; exact new.property)]
    exact congrArg Except.ok (Subtype.ext htake)
  rw [decode, hname]
  rfl

theorem writeBigIntBytes_alloc (new : U128) :
    writeBigIntBytes (alloc 72) new = new.toLeBytes.reverse ++ List.replicate 56 0 := by
  have h := Buffer.foldl_set_descending (fun i ↦ Fin.ofNat (2 ^ 8) ((new : ℕ) / (2 ^ 8) ^ i))
    (List.replicate 16 0) (List.replicate 56 0)
  rw [List.length_replicate, ← Digits.digits_eq_map_range] at h
  exact h

theorem arrives_minNetValue {new : U128} :
    Arrives (.updateMinNetValueObligationPostAction new) ↔
      new.toLeBytes.reverse = new.toLeBytes := by
  have hlength : new.toLeBytes.reverse.length = 16 := by
    rw [List.length_reverse, Word.length_toLeBytes]
  have hargs : updateLendingMarketArgs (.updateMinNetValueObligationPostAction new) =
      some (discriminator .updateMinNetValueObligationPostAction,
        writeBigIntBytes (alloc 72) new) := rfl
  rw [writeBigIntBytes_alloc] at hargs
  rw [arrives_iff hargs (by rw [List.length_append, hlength]; rfl),
    ← Word.fromLeBytes_reverse (by decide), decode, List.take_left' hlength]
  cases Word.fromLeBytes 128 new.toLeBytes.reverse with
  | ok value =>
    constructor
    · intro h
      cases h
      rfl
    · intro h
      cases h
      rfl
  | error e =>
    constructor
    · rintro ⟨⟩
    · rintro ⟨⟩

/-- The single bytes of a group. -/
def groupBytes (group : ElevationGroupAccount) : List U8 :=
  [group.id, group.ltvPct, group.liquidationThresholdPct, group.allowNewLoans,
    group.maxReservesAsCollateral, group.padding0]

theorem serializeElevationGroup_eq (group : ElevationGroupAccount) :
    serializeElevationGroup group = some (group.maxLiquidationBonusBps.toLeBytes ++
      (groupBytes group ++ (Pubkey.toBytes group.debtReserve ++ List.replicate 32 0))) := by
  have hbonus : writeUInt16LE (alloc 72) group.maxLiquidationBonusBps 0 =
      some (group.maxLiquidationBonusBps.toLeBytes ++ List.replicate 70 0) :=
    @writeWord_alloc 16 72 (by decide) _ (by decide)
  have hsteps : serializeElevationGroup group =
      writeUInt16LE (alloc 72) group.maxLiquidationBonusBps 0 >>= fun buffer ↦
        writeBytes buffer 2 ((groupBytes group).map Fin.val) >>= fun buffer ↦
          some (copy (Pubkey.toBytes group.debtReserve) buffer 8) := by
    simp only [serializeElevationGroup, groupBytes, List.map, writeBytes, Option.bind_eq_bind,
      Option.bind_assoc, Option.bind_some, Option.pure_def]
  have hbytes := @writeBytes_append 2 70 group.maxLiquidationBonusBps.toLeBytes (groupBytes group)
    (by rw [Word.length_toLeBytes]) (by rw [groupBytes]; simp)
  have hkey := @copy_append 8 64 (group.maxLiquidationBonusBps.toLeBytes ++ groupBytes group)
    (Pubkey.toBytes group.debtReserve)
    (by rw [List.length_append, Word.length_toLeBytes, groupBytes]; rfl)
    (by rw [Pubkey.length_toBytes]; decide)
  rw [Pubkey.length_toBytes] at hkey
  rw [hsteps, hbonus, Option.bind_eq_bind, Option.bind_some, hbytes, Option.bind_some,
    Option.some.injEq]
  refine hkey.trans ?_
  simp only [List.append_assoc]

theorem deserialize_group {group : ElevationGroupAccount} {first second third fourth : U64} :
    ElevationGroupAccount.deserialize (group.maxLiquidationBonusBps.toLeBytes ++
      (groupBytes group ++ (Pubkey.toBytes group.debtReserve ++ (first.toLeBytes ++
      (second.toLeBytes ++ (third.toLeBytes ++ fourth.toLeBytes)))))) =
    .ok { group with padding1 := ![first, second, third, fourth] } := by
  have hbyte (byte : U8) (rest : List U8) :
      Word.deserialize 8 (byte :: rest) = .ok (byte, rest) := by
    have h := Word.deserialize_append (by decide) byte rest
    rwa [show byte.toLeBytes = [byte] from Digits.digits_value [byte]] at h
  have hlast : Word.deserialize 64 fourth.toLeBytes = .ok (fourth, []) := by
    have h := Word.deserialize_append (by decide) fourth []
    rwa [List.append_nil] at h
  rw [ElevationGroupAccount.deserialize, Word.deserialize_append (by decide)]
  simp only [ok_bind, groupBytes, List.cons_append, List.nil_append, hbyte,
    Pubkey.deserialize_append, Word.deserialize_append (show 8 ∣ 64 by decide), hlast]
  rfl

theorem arrives_elevationGroup {new : ElevationGroupAccount} :
    Arrives (.updateElevationGroup new) ↔ new.padding1 = fun _ ↦ 0 := by
  have hargs : updateLendingMarketArgs (.updateElevationGroup new) =
      some (discriminator .updateElevationGroup, new.maxLiquidationBonusBps.toLeBytes ++
        (groupBytes new ++ (Pubkey.toBytes new.debtReserve ++ List.replicate 32 0))) := by
    rw [updateLendingMarketArgs, encodable, Option.bind_eq_bind, Option.bind_some,
      updateMarketConfigEncodedValue, serializeElevationGroup_eq]
    rfl
  have hwords : List.replicate 32 (0 : U8) = (0 : U64).toLeBytes ++ ((0 : U64).toLeBytes ++
      ((0 : U64).toLeBytes ++ (0 : U64).toLeBytes)) := by decide
  have hzero : (![0, 0, 0, 0] : Fin 4 → U64) = fun _ ↦ 0 := by decide
  rw [arrives_iff hargs (by simp [groupBytes]), decode, hwords, deserialize_group, hzero]
  constructor
  · intro h
    injection h with h
    injection h with h
    exact congrArg ElevationGroupAccount.padding1 h.symm
  · intro h
    rw [← h]
    rfl

end Kinds

/-- Every update that the client sends arrives as it is, under exactly the conditions of `Carried`;
the program then checks and stores the value that was meant. -/
theorem marketUpdates_arrive (update : LendingMarketUpdate) :
    (Arrives update ↔ Carried update) ∧
    (Carried update → ∃ (mode : U64) (buffer : List U8),
      updateLendingMarketArgs update = some ((mode : ℕ), buffer) ∧
      ∀ account : LendingMarketAccount, account.process mode buffer = account.store update) := by
  have harrives : Arrives update ↔ Carried update := by
    cases update with
    | updateOwner value => exact iff_of_true (arrives_pubkey rfl fun _ ↦ rfl) trivial
    | updateEmergencyMode value => exact iff_of_true (arrives_u8 rfl fun _ ↦ rfl) trivial
    | updateLiquidationCloseFactor value => exact iff_of_true (arrives_u8 rfl fun _ ↦ rfl) trivial
    | updateLiquidationMaxValue value =>
      exact arrives_u64 .updateLiquidationMaxValue rfl (fun _ ↦ rfl) fun _ ↦ rfl
    | updateGlobalAllowedBorrow value =>
      exact arrives_u64 .updateGlobalAllowedBorrow rfl (fun _ ↦ rfl) fun _ ↦ rfl
    | updateRiskCouncil value => exact iff_of_true (arrives_pubkey rfl fun _ ↦ rfl) trivial
    | updateMinFullLiquidationThreshold value =>
      exact arrives_u64 .updateMinFullLiquidationThreshold rfl (fun _ ↦ rfl) fun _ ↦ rfl
    | updateInsolvencyRiskLtv value => exact iff_of_true (arrives_u8 rfl fun _ ↦ rfl) trivial
    | updateElevationGroup value => exact arrives_elevationGroup
    | updateReferralFeeBps value => exact iff_of_true (arrives_u16 rfl fun _ ↦ rfl) trivial
    | updatePriceRefreshTriggerToMaxAgePct value =>
      exact iff_of_true (arrives_u8 rfl fun _ ↦ rfl) trivial
    | updateAutodeleverageEnabled value => exact iff_of_true (arrives_u8 rfl fun _ ↦ rfl) trivial
    | updateBorrowingDisabled value => exact iff_of_true (arrives_u8 rfl fun _ ↦ rfl) trivial
    | updateMinNetValueObligationPostAction value => exact arrives_minNetValue
    | updateMinValueLtvSkipPriorityLiqCheck value =>
      exact arrives_u64 .updateMinValueLtvSkipPriorityLiqCheck rfl (fun _ ↦ rfl) fun _ ↦ rfl
    | updateMinValueBfSkipPriorityLiqCheck value =>
      exact arrives_u64 .updateMinValueBfSkipPriorityLiqCheck rfl (fun _ ↦ rfl) fun _ ↦ rfl
    | updatePaddingFields => exact iff_of_true ((arrives_iff rfl rfl).2 rfl) trivial
    | updateName value => exact iff_of_true arrives_name trivial
    | updateIndividualAutodeleverageMarginCallPeriodSecs value =>
      exact arrives_u64 .updateIndividualAutodeleverageMarginCallPeriodSecs rfl (fun _ ↦ rfl)
        fun _ ↦ rfl
    | updateInitialDepositAmount value =>
      exact arrives_u64 .updateInitialDepositAmount rfl (fun _ ↦ rfl) fun _ ↦ rfl
  refine ⟨harrives, fun hcarried ↦ ?_⟩
  obtain ⟨mode, buffer, hargs, -, hread⟩ := harrives.2 hcarried
  refine ⟨mode, buffer, hargs, fun account ↦ ?_⟩
  rw [LendingMarketAccount.process, hread]
  rfl

/-- A minimal net value of one bit is stored as one of `2 ^ 60` dollars. -/
theorem minNetValue_arrives_reversed :
    (∃ (mode : U64) (buffer : List U8),
      updateLendingMarketArgs (.updateMinNetValueObligationPostAction 1) =
        some ((mode : ℕ), buffer) ∧
      readArgs mode buffer =
        .ok (.updateMinNetValueObligationPostAction ⟨2 ^ 120, by decide⟩)) ∧
    ¬ Arrives (.updateMinNetValueObligationPostAction 1) := by
  refine ⟨⟨15, (0 : U128).toLeBytes.set 15 1 ++ List.replicate 56 0, ?_, ?_⟩, ?_⟩
  · decide
  · rfl
  · rw [arrives_minNetValue]
    decide

end Klend.Sdk
