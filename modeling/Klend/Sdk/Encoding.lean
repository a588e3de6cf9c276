import Klend.Library.Buffer
import Klend.Machine.Bytes

/-! # Buffers of the TypeScript client

The client writes numbers into a buffer of fixed length. `none` is an exception: a
number out of range, or a big number that a JavaScript number cannot hold.
-/

namespace Klend.Sdk

def alloc (n : ℕ) : List U8 := List.replicate n 0

/-- `writeUIntLE`, which the fixed-width writers repeat for their widths. -/
def writeUIntLE (buffer : List U8) (value offset byteLength : ℕ) : Option (List U8) :=
  if value < (2 ^ 8) ^ byteLength ∧ offset + byteLength ≤ buffer.length then
    some (Buffer.write buffer offset (Digits.digits (2 ^ 8) byteLength value))
  else none

def writeUInt16LE (buffer : List U8) (value offset : ℕ) : Option (List U8) :=
  writeUIntLE buffer value offset 2

def writeBigUint64LE (buffer : List U8) (value offset : ℕ) : Option (List U8) :=
  writeUIntLE buffer value offset 8

/-- `source.copy(target, targetStart)`: what does not fit is not copied. -/
def copy (source target : List U8) (targetStart : ℕ) : List U8 :=
  Buffer.write target targetStart (source.take (target.length - targetStart))

/-- `BN.toNumber`, which asserts that the number has at most 53 bits. -/
def toNumber (n : ℕ) : Option ℕ := if n < 2 ^ 53 then some n else none

/-- One byte after the other. -/
def writeBytes (buffer : List U8) (offset : ℕ) : List ℕ → Option (List U8)
  | [] => some buffer
  | value :: rest => do
    let buffer ← writeUIntLE buffer value offset 1
    writeBytes buffer (offset + 1) rest

variable {w offset m : ℕ} {written : List U8}

theorem writeUIntLE_append {value k : ℕ} (hoffset : offset = written.length)
    (hvalue : value < (2 ^ 8) ^ k) (hk : k ≤ m) :
    writeUIntLE (written ++ List.replicate m 0) value offset k =
      some (written ++ Digits.digits (2 ^ 8) k value ++ List.replicate (m - k) 0) := by
  have hroom : offset + k ≤ (written ++ List.replicate m (0 : U8)).length := by
    rw [List.length_append, List.length_replicate]
    omega
  rw [writeUIntLE, if_pos ⟨hvalue, hroom⟩, hoffset, Buffer.write_append, Digits.length_digits]

theorem writeWord_append (hw : 8 ∣ w) (n : Word w) (hoffset : offset = written.length)
    (hm : w / 8 ≤ m) :
    writeUIntLE (written ++ List.replicate m 0) n offset (w / 8) =
      some (written ++ n.toLeBytes ++ List.replicate (m - w / 8) 0) :=
  writeUIntLE_append hoffset (Word.lt_pow_bytes hw n) hm

theorem writeWord_alloc (hw : 8 ∣ w) (n : Word w) (hm : w / 8 ≤ m) :
    writeUIntLE (alloc m) n 0 (w / 8) =
      some (n.toLeBytes ++ List.replicate (m - w / 8) 0) :=
  @writeWord_append w 0 m [] hw n rfl hm

theorem copy_append {source : List U8} (hoffset : offset = written.length)
    (hm : source.length ≤ m) :
    copy source (written ++ List.replicate m 0) offset =
      written ++ source ++ List.replicate (m - source.length) 0 := by
  have hroom : (written ++ List.replicate m (0 : U8)).length - offset = m := by
    rw [List.length_append, List.length_replicate]
    omega
  rw [copy, hroom, List.take_of_length_le hm, hoffset, Buffer.write_append]

theorem writeBytes_append (bytes : List U8) (hoffset : offset = written.length)
    (hm : bytes.length ≤ m) :
    writeBytes (written ++ List.replicate m 0) offset (bytes.map Fin.val) =
      some (written ++ bytes ++ List.replicate (m - bytes.length) 0) := by
  induction bytes generalizing written offset m with
  | nil => simp [writeBytes]
  | cons byte rest ih =>
    rw [List.length_cons] at hm
    have hdigits : Digits.digits (2 ^ 8) 1 (byte : ℕ) = [byte] := Digits.digits_value [byte]
    have hstep := @writeUIntLE_append offset m written byte 1 hoffset byte.isLt (by omega)
    rw [hdigits] at hstep
    rw [List.map_cons, writeBytes, hstep, Option.bind_eq_bind, Option.bind_some,
      ih (by rw [List.length_append, hoffset]; rfl) (by omega), List.append_assoc written,
      List.singleton_append, List.length_cons, Nat.sub_sub, Nat.add_comm 1]

end Klend.Sdk
