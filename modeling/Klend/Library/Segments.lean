import Mathlib.Data.List.Pairwise
import Mathlib.Order.Basic
import Mathlib.Order.Defs.LinearOrder
import Mathlib.Order.Lattice

/-! # Segments of a sorted table

A table of points, sorted by a key, with values that never fall. A key lies in the
first pair of neighbours that encloses it; later keys lie in the same pair or in one
whose values are no smaller.
-/

namespace Segments

variable {α K V : Type*} [LinearOrder K] {key : α → K}

/-- The first two neighbours whose keys enclose `k`. -/
def enclosing (key : α → K) (k : K) (l : List α) : Option (α × α) :=
  (l.zip l.tail).find? fun (p, q) ↦ key p ≤ k ∧ k ≤ key q

variable {k k' : K} {a b p q p' q' : α} {l : List α}

theorem enclosing_cons : enclosing key k (a :: b :: l) =
    if key a ≤ k ∧ k ≤ key b then some (a, b) else enclosing key k (b :: l) := by
  by_cases h : key a ≤ k ∧ k ≤ key b <;> simp [enclosing, h]

theorem enclosing_spec (h : enclosing key k l = some (p, q)) :
    key p ≤ k ∧ k ≤ key q ∧ p ∈ l ∧ q ∈ l := by
  obtain ⟨hp, hq⟩ : key p ≤ k ∧ k ≤ key q := by simpa using List.find?_some h
  have hmem := List.mem_of_find?_eq_some h
  exact ⟨hp, hq, List.of_mem_zip hmem |>.1, List.mem_of_mem_tail (List.of_mem_zip hmem).2⟩

/-- A key between the first one and a later one is enclosed. -/
theorem exists_enclosing (hfirst : key a ≤ k) (hlast : ∃ q ∈ l, k ≤ key q) :
    ∃ p q, enclosing key k (a :: l) = some (p, q) := by
  induction l generalizing a with
  | nil =>
    obtain ⟨q, hq, -⟩ := hlast
    cases hq
  | cons b l ih =>
    rw [enclosing_cons]
    by_cases hb : k ≤ key b
    · exact ⟨a, b, if_pos ⟨hfirst, hb⟩⟩
    · rw [if_neg (hb ·.2)]
      apply ih (not_le.1 hb).le
      obtain ⟨q, hq, hkq⟩ := hlast
      rcases List.mem_cons.1 hq with rfl | hq
      · exact absurd hkq hb
      · exact ⟨q, hq, hkq⟩

/-- What follows an enclosing pair does not matter. -/
theorem enclosing_append (h : enclosing key k l = some (p, q)) (rest : List α) :
    enclosing key k (l ++ rest) = some (p, q) := by
  induction l with
  | nil => cases h
  | cons a l ih =>
    cases l with
    | nil => cases h
    | cons b l =>
      rw [List.cons_append, List.cons_append, enclosing_cons]
      rw [enclosing_cons] at h
      split at h
      · next hin => rw [if_pos hin, h]
      · next hout =>
        rw [if_neg hout]
        exact ih h

section Sorted

variable [Preorder V] {val : α → V}

/-- Sorted by the key, with values that never fall. -/
def Rising (key : α → K) (val : α → V) (l : List α) : Prop :=
  l.Pairwise fun p q ↦ key p ≤ key q ∧ val p ≤ val q

theorem Rising.enclosing_val (hl : Rising key val l) (h : enclosing key k l = some (p, q)) :
    val p ≤ val q := by
  induction l with
  | nil => cases h
  | cons a l ih =>
    cases l with
    | nil => cases h
    | cons b l =>
      rw [enclosing_cons] at h
      split at h
      · obtain ⟨rfl, rfl⟩ := Prod.mk.inj (Option.some.inj h)
        exact ((List.pairwise_cons.1 hl).1 b List.mem_cons_self).2
      · exact ih (List.pairwise_cons.1 hl).2 h

/-- The values of the points between the first and the last one. -/
theorem Rising.val_le (hl : Rising key val l) {first last : α} (hp : p ∈ l)
    (hfirst : l.head? = some first) (hlast : l.getLast? = some last) :
    val first ≤ val p ∧ val p ≤ val last := by
  constructor
  · obtain ⟨rest, rfl⟩ := List.head?_eq_some_iff.1 hfirst
    rcases List.mem_cons.1 hp with rfl | hp
    · exact le_rfl
    · exact ((List.pairwise_cons.1 hl).1 p hp).2
  · obtain ⟨rest, rfl⟩ := List.getLast?_eq_some_iff.1 hlast
    rcases List.mem_append.1 hp with hp | hp
    · exact ((List.pairwise_append.1 hl).2.2 p hp last List.mem_cons_self).2
    · rw [List.mem_singleton.1 hp]

/-- A later key lies in the same pair of neighbours or in one that begins no lower than that one
ends. -/
theorem Rising.enclosing_le (hl : Rising key val l) (hk : k ≤ k')
    (h : enclosing key k l = some (p, q)) (h' : enclosing key k' l = some (p', q')) :
    (p, q) = (p', q') ∨ val q ≤ val p' := by
  induction l with
  | nil => cases h
  | cons a l ih =>
    cases l with
    | nil => cases h
    | cons b l =>
      obtain ⟨hhead, htail⟩ := List.pairwise_cons.1 hl
      rw [enclosing_cons] at h h'
      split at h
      · next hin =>
        obtain ⟨rfl, rfl⟩ := Prod.mk.inj (Option.some.inj h)
        split at h'
        · exact .inl (Option.some.inj h')
        · obtain ⟨-, -, hp', -⟩ := enclosing_spec h'
          rcases List.mem_cons.1 hp' with rfl | hp'
          · exact .inr le_rfl
          · exact .inr ((List.pairwise_cons.1 htail).1 p' hp').2
      · next hout =>
        split at h'
        · next hin' =>
          -- The smaller key would be enclosed by the first pair as well.
          obtain ⟨hpk, -, hp, -⟩ := enclosing_spec h
          exact absurd ⟨(hhead p hp).1.trans hpk, hk.trans hin'.2⟩ hout
        · exact ih htail h h'

/-- Among the points with one key, the first one ends the pair that encloses the key, or begins
it. -/
theorem Rising.enclosing_first (hl : Rising key val l) (hp : l.find? (key · = k) = some a)
    (h : enclosing key k l = some (p, q)) : if k = key p then p = a else q = a := by
  induction l with
  | nil => cases h
  | cons c l ih =>
    cases l with
    | nil => cases h
    | cons b l =>
      obtain ⟨hhead, htail⟩ := List.pairwise_cons.1 hl
      rw [enclosing_cons] at h
      split at h
      · next hin =>
        obtain ⟨rfl, rfl⟩ := Prod.mk.inj (Option.some.inj h)
        rw [List.find?_cons] at hp
        split_ifs with hk
        · rw [hk, decide_eq_true rfl] at hp
          exact Option.some.inj hp
        · rw [decide_eq_false (Ne.symm hk)] at hp
          rw [List.find?_cons] at hp
          by_cases hb : key b = k
          · rw [decide_eq_true hb] at hp
            exact Option.some.inj hp
          · -- All the later keys are above the key that was looked for.
            rw [decide_eq_false hb] at hp
            have hmem := List.mem_of_find?_eq_some hp
            have hkey : key a = k := by simpa using List.find?_some hp
            have hba := ((List.pairwise_cons.1 htail).1 a hmem).1
            exact absurd (le_antisymm (hba.trans hkey.le) hin.2) hb
      · next hout =>
        obtain ⟨hpk, -, hpmem, -⟩ := enclosing_spec h
        have hck : key c ≠ k := by
          intro hck
          exact hout ⟨hck.le, hck ▸ (hhead b List.mem_cons_self).1⟩
        rw [List.find?_cons, decide_eq_false hck] at hp
        exact ih htail hp h

end Sorted

end Segments
