import Mathlib.Data.List.Basic

/-! # Buffers of a fixed length

A buffer that is written from its start on, over a filling that the rest keeps.
-/

namespace Buffer

variable {α : Type}

/-- Writes entries over those from a position on. -/
def write (buffer : List α) (position : ℕ) (entries : List α) : List α :=
  buffer.take position ++ entries ++ buffer.drop (position + entries.length)

/-- Writes over what stands behind the first part. -/
theorem write_over {written entries rest : List α} :
    write (written ++ rest) written.length entries =
      written ++ entries ++ rest.drop entries.length := by
  rw [write, List.take_left, List.drop_append, List.drop_eq_nil_of_le (by omega), List.nil_append,
    Nat.add_sub_cancel_left]

/-- Writes right behind what is written already. -/
theorem write_append {written entries : List α} {filling : α} {n : ℕ} :
    write (written ++ List.replicate n filling) written.length entries =
      written ++ entries ++ List.replicate (n - entries.length) filling := by
  rw [write_over, List.drop_replicate]

/-- Entries set from the last position down to the first. -/
theorem foldl_set_descending (f : ℕ → α) (l tail : List α) :
    (List.range l.length).foldl (fun buffer i ↦ buffer.set (l.length - 1 - i) (f i)) (l ++ tail) =
      ((List.range l.length).map f).reverse ++ tail := by
  induction l with
  | nil => rfl
  | cons x l ih =>
    have htail (is : List ℕ) (h : ∀ i ∈ is, i < l.length) (y : α) (rest : List α) :
        is.foldl (fun buffer i ↦ buffer.set (l.length - i) (f i)) (y :: rest) =
          y :: is.foldl (fun buffer i ↦ buffer.set (l.length - 1 - i) (f i)) rest := by
      induction is generalizing rest with
      | nil => rfl
      | cons i is ihs =>
        have hi : l.length - i = (l.length - 1 - i) + 1 := by
          have := h i List.mem_cons_self
          omega
        rw [List.foldl_cons, List.foldl_cons, hi, List.set_cons_succ]
        exact ihs (fun j hj ↦ h j (List.mem_cons_of_mem _ hj)) _
    simp only [List.length_cons, Nat.add_sub_cancel, List.range_succ, List.foldl_append,
      List.cons_append, List.map_append, List.reverse_append]
    rw [htail _ fun i hi ↦ List.mem_range.1 hi, ih]
    simp

end Buffer
