import Klend.Library.Digits
import Klend.Machine.Word

/-! # Words, keys and names in bytes

Words are stored with the least significant byte first. A public key is a sequence of
bytes; as a number its first byte is the most significant one.
-/

namespace Klend

abbrev U128 : Type := Word 128

namespace Word

variable {w : ℕ} {n : Word w}

def toLeBytes (n : Word w) : List U8 := Digits.digits (2 ^ 8) (w / 8) n

/-- `from_le_bytes` of a slice turned into an array of the word's size. -/
def fromLeBytes (w : ℕ) (bytes : List U8) : Result (Word w) :=
  if bytes.length = w / 8 then fit w (Digits.value bytes) else abort

@[simp] theorem length_toLeBytes : n.toLeBytes.length = w / 8 := Digits.length_digits _ _

theorem lt_pow_bytes (hw : 8 ∣ w) (n : Word w) : (n : ℕ) < (2 ^ 8) ^ (w / 8) := by
  rw [← pow_mul, Nat.mul_div_cancel' hw]
  exact n.isLt

theorem fromLeBytes_toLeBytes (hw : 8 ∣ w) (n : Word w) : fromLeBytes w n.toLeBytes = .ok n := by
  rw [fromLeBytes, if_pos length_toLeBytes, fit_eq_ok]
  exact (Digits.value_digits (lt_pow_bytes hw n)).symm

theorem exists_fromLeBytes {bytes : List U8} (hw : 8 ∣ w) (h : bytes.length = w / 8) :
    ∃ n, fromLeBytes w bytes = .ok n ∧ n.toLeBytes = bytes := by
  have hlt : Digits.value bytes < 2 ^ w := by
    have hlt := Digits.value_lt bytes
    rwa [h, ← pow_mul, Nat.mul_div_cancel' hw] at hlt
  refine ⟨⟨Digits.value bytes, hlt⟩, ?_, ?_⟩
  · rw [fromLeBytes, if_pos h, fit_eq_ok]
  · rw [toLeBytes, ← h]
    exact Digits.digits_value bytes

theorem fromLeBytes_take_append (hw : 8 ∣ w) (n : Word w) (rest : List U8) :
    fromLeBytes w ((n.toLeBytes ++ rest).take (w / 8)) = .ok n := by
  rw [List.take_left' length_toLeBytes, fromLeBytes_toLeBytes hw]

/-- The bytes of a word in the opposite order hold it only if the order does not matter. -/
theorem fromLeBytes_reverse (hw : 8 ∣ w) (n : Word w) :
    fromLeBytes w n.toLeBytes.reverse = .ok n ↔ n.toLeBytes.reverse = n.toLeBytes := by
  have hlength : n.toLeBytes.reverse.length = w / 8 := by rw [List.length_reverse, length_toLeBytes]
  rw [fromLeBytes, if_pos hlength, fit_eq_ok, eq_comm]
  exact Digits.value_reverse_eq_iff (lt_pow_bytes hw n)

/-- A word at the front of a borsh encoding, with the bytes behind it. -/
def deserialize (w : ℕ) (bytes : List U8) : Result (Word w × List U8) := do
  let n ← fromLeBytes w (bytes.take (w / 8))
  pure (n, bytes.drop (w / 8))

theorem deserialize_append (hw : 8 ∣ w) (n : Word w) (rest : List U8) :
    deserialize w (n.toLeBytes ++ rest) = .ok (n, rest) := by
  have hlength : n.toLeBytes.length = w / 8 := length_toLeBytes
  rw [deserialize, fromLeBytes_take_append hw, List.drop_left' hlength]
  rfl

end Word

/-- Public keys. -/
def Pubkey.toBytes (key : Word 256) : List U8 := key.toLeBytes.reverse

def Pubkey.fromBytes (bytes : List U8) : Result (Word 256) := Word.fromLeBytes 256 bytes.reverse

@[simp] theorem Pubkey.length_toBytes {key : Word 256} : (toBytes key).length = 32 := by
  rw [toBytes, List.length_reverse, Word.length_toLeBytes]

theorem Pubkey.fromBytes_toBytes (key : Word 256) : fromBytes (toBytes key) = .ok key := by
  rw [fromBytes, toBytes, List.reverse_reverse, Word.fromLeBytes_toLeBytes (by decide)]

/-- A public key at the front of a borsh encoding. -/
def Pubkey.deserialize (bytes : List U8) : Result (Word 256 × List U8) := do
  let key ← fromBytes (bytes.take 32)
  pure (key, bytes.drop 32)

theorem Pubkey.deserialize_append (key : Word 256) (rest : List U8) :
    deserialize (toBytes key ++ rest) = .ok (key, rest) := by
  rw [deserialize, List.take_left' length_toBytes, List.drop_left' length_toBytes,
    fromBytes_toBytes]
  rfl

section Arrays

variable {α : Type}

/-- A borsh array: one entry behind the other. -/
def deserializeArray (read : List U8 → Result (α × List U8)) :
    ℕ → List U8 → Result (List α × List U8)
  | 0, bytes => pure ([], bytes)
  | count + 1, bytes => do
    let (entry, bytes) ← read bytes
    let (entries, bytes) ← deserializeArray read count bytes
    pure (entry :: entries, bytes)

theorem deserializeArray_append {read : List U8 → Result (α × List U8)} {write : α → List U8}
    (hread : ∀ entry rest, read (write entry ++ rest) = .ok (entry, rest)) (entries : List α)
    (rest : List U8) :
    deserializeArray read entries.length (entries.flatMap write ++ rest) = .ok (entries, rest) := by
  induction entries with
  | nil => rfl
  | cons entry entries ih =>
    rw [List.flatMap_cons, List.append_assoc, List.length_cons, deserializeArray, hread]
    simp only [ok_bind, ih]
    rfl

end Arrays

/-- A name of 32 bytes. -/
def NameBytes : Type := {bytes : List U8 // bytes.length = 32}
deriving DecidableEq

namespace NameBytes

instance : Inhabited NameBytes := ⟨⟨List.replicate 32 0, rfl⟩⟩

instance : Repr NameBytes := ⟨fun name ↦ reprPrec name.val⟩

/-- `std::str::from_utf8(..).unwrap()`. -/
def fromUtf8 (name : NameBytes) : Result Unit :=
  if (ByteArray.mk (name.val.map fun byte ↦ UInt8.ofNat byte.val).toArray).validateUTF8 then .ok ()
  else abort

end NameBytes

end Klend
