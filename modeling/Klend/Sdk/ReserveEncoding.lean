import Klend.Lending.ReserveConfigValues
import Klend.Sdk.ReserveConfig

/-! # The client's buffers

For each kind of value, the bytes that the client writes.
-/

namespace Klend.Sdk

variable {w offset : ℕ} {written rest : List U8}

section Writers

theorem writeWord_over (hw : 8 ∣ w) (n : Word w) (hoffset : offset = written.length)
    (hrest : w / 8 ≤ rest.length) :
    writeNumberLE (written ++ rest) ((n : ℕ) : ℤ) offset (w / 8) =
      some (written ++ n.toLeBytes ++ rest.drop (w / 8)) := by
  have hroom : offset + w / 8 ≤ (written ++ rest).length := by
    rw [List.length_append]
    omega
  change writeUIntLE (written ++ rest) n offset (w / 8) = _
  rw [writeUIntLE, if_pos ⟨Word.lt_pow_bytes hw n, hroom⟩, hoffset, Buffer.write_over,
    Digits.length_digits]
  rfl

theorem writeNumbers_fill (hw : 8 ∣ w) (ns : List (Word w)) (hoffset : offset = written.length)
    (hrest : rest.length = ns.length * (w / 8)) :
    writeNumbers (w / 8) (written ++ rest) offset (toInts ns) =
      some (written ++ ns.flatMap Word.toLeBytes) := by
  induction ns generalizing written rest offset with
  | nil =>
    rw [List.length_nil, Nat.zero_mul] at hrest
    rw [List.eq_nil_of_length_eq_zero hrest]
    rfl
  | cons n ns ih =>
    rw [List.length_cons, Nat.succ_mul] at hrest
    rw [toInts, List.map_cons, writeNumbers, writeWord_over hw n hoffset (by omega),
      Option.bind_eq_bind, Option.bind_some, List.flatMap_cons, ← List.append_assoc]
    apply ih
    · rw [List.length_append, Word.length_toLeBytes, hoffset]
    · rw [List.length_drop]
      omega

theorem writeNumbers_alloc (hw : 8 ∣ w) (ns : List (Word w)) {m : ℕ}
    (hm : m = ns.length * (w / 8)) :
    writeNumbers (w / 8) (alloc m) 0 (toInts ns) =
      some (ns.flatMap Word.toLeBytes) :=
  @writeNumbers_fill w 0 [] (alloc m) hw ns rfl (by rw [alloc, List.length_replicate, hm])

theorem writeNumber_alloc (hw : 8 ∣ w) (n : Word w) :
    writeNumberLE (alloc (w / 8)) ((n : ℕ) : ℤ) 0 (w / 8) = some n.toLeBytes := by
  have h := @writeWord_over w 0 [] (alloc (w / 8)) hw n rfl
    (by rw [alloc, List.length_replicate])
  rwa [List.drop_eq_nil_of_le (by rw [alloc, List.length_replicate]), List.append_nil] at h

theorem writeNumber_negative {buffer : List U8} {n : ℤ} {k : ℕ} (h : n < 0) :
    writeNumberLE buffer n offset k = none := by
  cases n with
  | ofNat n => exact absurd h (not_lt.2 (Int.natCast_nonneg n))
  | negSucc n => rfl

theorem writeHalves_eq (n : U64) : writeHalves n = some n.toLeBytes := by
  have hhigh : (n : ℕ) / 2 ^ 32 < 2 ^ 32 := Nat.div_lt_of_lt_mul n.isLt
  have hlow := @writeUIntLE_append 0 8 [] ((n : ℕ) % 2 ^ 32) 4 rfl
    (Nat.mod_lt _ (by decide)) (by decide)
  have hrest := @writeUIntLE_append 4 4 (Digits.digits (2 ^ 8) 4 ((n : ℕ) % 2 ^ 32))
    ((n : ℕ) / 2 ^ 32) 4 (by rw [Digits.length_digits]) hhigh le_rfl
  rw [List.nil_append] at hlow
  rw [writeHalves, show alloc 8 = List.replicate 8 0 from rfl, hlow, Option.bind_eq_bind,
    Option.bind_some]
  refine hrest.trans (congrArg some ?_)
  have hdigits := Digits.digits_mod (b := 2 ^ 8) 4 (n : ℕ)
  rw [List.replicate, List.append_nil, Word.toLeBytes, show 64 / 8 = 4 + 4 from rfl,
    Digits.digits_add, ← hdigits]
  rfl

end Writers

section Curves

theorem serializeBorrowRateCurve_eq {curve : BorrowRateCurve} (h : curve.points.length = 11) :
    serializeBorrowRateCurve curve = some curve.serialize := by
  have hcount : writeUIntLE (alloc (8 * curve.points.length)) curve.points.length 0 4 =
      some (Digits.digits (2 ^ 8) 4 curve.points.length ++ List.replicate 84 0) := by
    rw [h]
    exact @writeUIntLE_append 0 88 [] 11 4 rfl (by decide) (by decide)
  have hnumbers : (curve.points.flatMap fun point ↦
      [((point.utilizationRateBps : ℕ) : ℤ), ((point.borrowRateBps : ℕ) : ℤ)]) =
      toInts (curve.points.flatMap fun point ↦
        [point.utilizationRateBps, point.borrowRateBps]) := by
    rw [toInts, List.map_flatMap]
    rfl
  have hlength : (curve.points.flatMap fun point ↦
      [point.utilizationRateBps, point.borrowRateBps]).length = 22 := by
    simp [List.length_flatMap, h]
  rw [serializeBorrowRateCurve, hcount, Option.bind_eq_bind, Option.bind_some, hnumbers]
  refine (@writeNumbers_fill 32 0 [] _ (by decide) _ rfl ?_).trans (congrArg some ?_)
  · rw [hlength]
    change (Digits.digits _ 4 _ ++ List.replicate 84 _).length = _
    rw [List.length_append, Digits.length_digits]
    rfl
  · rw [List.nil_append, List.flatMap_assoc]
    exact List.flatMap_congr fun point _ ↦ by simp [CurvePoint.serialize]

end Curves

end Klend.Sdk
