import Mathlib.Algebra.BigOperators.Group.List.Basic
import Mathlib.Algebra.Order.Ring.Nat
import Mathlib.Data.List.Forall2
import Mathlib.Data.Set.Insert
import Mathlib.Order.Bounds.Basic
import Mathlib.Tactic.TypeStar

/-! # Tables of slots

A list of slots of which each is free or held under a key, beside a list of tags.
A well-formed table holds every key once, counts something in every held slot,
and marks exactly the free slots with the free tag.
-/

namespace SlotTable

variable {σ τ K : Type*} {key : σ → K} {amount : σ → ℕ}
  {blank : σ → Prop} {free : τ}
  {slots slots' : List σ} {tags tags' : List τ} {i : ℕ} {s s' : σ}

/-- Related lists are related at each index. -/
theorem exists_of_forall₂_right {α β : Type*} {R : α → β → Prop} {l : List α} {l' : List β}
    (h : List.Forall₂ R l l') {i : ℕ} {b : β} (hb : l'[i]? = some b) :
    ∃ a, l[i]? = some a ∧ R a b := by
  induction h generalizing i with
  | nil => simp at hb
  | cons hab _ ih =>
    cases i with
    | zero =>
      obtain rfl := Option.some.inj hb
      exact ⟨_, rfl, hab⟩
    | succ i => exact ih hb

theorem exists_of_forall₂_left {α β : Type*} {R : α → β → Prop} {l : List α} {l' : List β}
    (h : List.Forall₂ R l l') {i : ℕ} {a : α} (ha : l[i]? = some a) :
    ∃ b, l'[i]? = some b ∧ R a b :=
  exists_of_forall₂_right h.flip ha

theorem getElem?_set_eq_some {x : σ} {j : ℕ} (h : (slots.set i x)[j]? = some s) :
    j = i ∧ s = x ∨ j ≠ i ∧ slots[j]? = some s := by
  rw [List.getElem?_set] at h
  split at h
  · next hij =>
    split at h
    · exact .inl ⟨hij.symm, (Option.some.inj h).symm⟩
    · cases h
  · next hij => exact .inr ⟨Ne.symm hij, h⟩

/-- A search by key finds the slot, where a key that is not free is held once. -/
theorem find?_key_of_pairwise [DecidableEq K] [Zero K]
    (h : slots.Pairwise fun s t ↦ key s ≠ 0 → key s ≠ key t) (hs : s ∈ slots)
    (hne : key s ≠ 0) : slots.find? (fun t ↦ key t = key s) = some s := by
  induction h with
  | nil => cases hs
  | @cons t slots hdistinct _ ih =>
    rcases List.mem_cons.1 hs with rfl | hs
    · exact List.find?_cons_of_pos (by simp)
    · rw [List.find?_cons_of_neg]
      · exact ih hs
      · intro hkey
        have hkey : key t = key s := by simpa using hkey
        exact hdistinct s hs (hkey ▸ hne) hkey

/-- Writing a slot changes a total by what the slot counts. -/
theorem sum_set {f : σ → ℕ} (hs : slots[i]? = some s) :
    ((slots.set i s').map f).sum + f s = (slots.map f).sum + f s' := by
  induction slots generalizing i with
  | nil => simp at hs
  | cons t slots ih =>
    cases i with
    | zero =>
      obtain rfl := Option.some.inj hs
      simp only [List.set_cons_zero, List.map_cons, List.sum_cons]
      omega
    | succ i =>
      have := ih hs
      simp only [List.set_cons_succ, List.map_cons, List.sum_cons]
      omega

theorem sum_eq_of_forall₂ {f : σ → ℕ} (h : List.Forall₂ (fun s s' ↦ f s' = f s) slots slots') :
    (slots'.map f).sum = (slots.map f).sum := by
  induction h with
  | nil => rfl
  | cons hs _ ih => rw [List.map_cons, List.map_cons, List.sum_cons, List.sum_cons, hs, ih]

theorem countP_eq_of_forall₂ {p : σ → Bool}
    (h : List.Forall₂ (fun s s' ↦ p s' = p s) slots slots') : slots'.countP p = slots.countP p := by
  induction h with
  | nil => rfl
  | cons hs _ ih => rw [List.countP_cons, List.countP_cons, hs, ih]

/-- What the slots under a key count together. -/
def total [DecidableEq K] (key : σ → K) (count : σ → ℕ) (k : K) (slots : List σ) : ℕ :=
  (slots.map fun s ↦ if key s = k then count s else 0).sum

section Total

variable [DecidableEq K] {count : σ → ℕ} {k : K}

@[simp] theorem total_nil : total key count k [] = 0 := rfl

theorem total_cons : total key count k (s :: slots) =
    (if key s = k then count s else 0) + total key count k slots := by
  rw [total, List.map_cons, List.sum_cons, total]

theorem total_set (hs : slots[i]? = some s) :
    total key count k (slots.set i s') + (if key s = k then count s else 0) =
      total key count k slots + if key s' = k then count s' else 0 :=
  sum_set hs

theorem le_total (hs : s ∈ slots) : count s ≤ total key count (key s) slots := by
  induction slots with
  | nil => cases hs
  | cons t slots ih =>
    rw [total_cons]
    cases hs with
    | head => rw [if_pos rfl]; exact Nat.le_add_right _ _
    | tail _ hs => exact Nat.le_add_left_of_le (ih hs)

theorem total_eq_zero (h : ∀ s ∈ slots, key s = k → count s = 0) :
    total key count k slots = 0 := by
  induction slots with
  | nil => rfl
  | cons t slots ih =>
    rw [total_cons, ih fun s hs ↦ h s (.tail _ hs), Nat.add_zero]
    split
    · next hk => exact h t List.mem_cons_self hk
    · rfl

end Total

/-- The values of the slots that count. -/
def countedValues {α : Type*} (counts : σ → Prop) (value : σ → Option α) (slots : List σ) :
    Set α :=
  {v | ∃ s ∈ slots, counts s ∧ value s = some v}

section CountedValues

variable {α : Type*} {counts : σ → Prop} {value : σ → Option α} {v : α}

theorem countedValues_concat (hs : counts s) (hv : value s = some v) :
    countedValues counts value (slots ++ [s]) =
      insert v (countedValues counts value slots) := by
  ext u
  simp only [countedValues, List.mem_append, List.mem_singleton, Set.mem_ofPred_eq,
    Set.mem_insert_iff]
  constructor
  · rintro ⟨t, ht | rfl, hrest⟩
    · exact .inr ⟨t, ht, hrest⟩
    · exact .inl (Option.some.inj (hrest.2.symm.trans hv))
  · rintro (rfl | ⟨t, ht, hrest⟩)
    · exact ⟨s, .inr rfl, hs, hv⟩
    · exact ⟨t, .inl ht, hrest⟩

theorem countedValues_concat_of_not (h : ∀ v, counts s → value s ≠ some v) :
    countedValues counts value (slots ++ [s]) = countedValues counts value slots := by
  ext u
  simp only [countedValues, List.mem_append, List.mem_singleton, Set.mem_ofPred_eq]
  constructor
  · rintro ⟨t, ht | rfl, hs, hv⟩
    · exact ⟨t, ht, hs, hv⟩
    · exact absurd hv (h u hs)
  · rintro ⟨t, ht, hrest⟩
    exact ⟨t, .inl ht, hrest⟩

/-- Some chosen slot reaches the least counted value exactly if each counted slot that may not be
chosen has a chosen one below it. -/
theorem exists_le_least_iff [Preorder α] (chosen : σ → Prop) {top low : α}
    (hleast : IsLeast (insert top (countedValues counts value slots)) low)
    (hchosen : ∃ s ∈ slots, chosen s ∧ ∃ v, value s = some v ∧ v ≤ top) :
    (∃ s ∈ slots, chosen s ∧ ∃ v, value s = some v ∧ v ≤ low) ↔
      ∀ e ∈ slots, counts e → ¬ chosen e → ∀ v, value e = some v →
        ∃ s ∈ slots, chosen s ∧ ∃ u, value s = some u ∧ u ≤ v := by
  constructor
  · rintro ⟨s, hs, hc, u, hu, hlow⟩ e he hcounts - v hv
    exact ⟨s, hs, hc, u, hu, hlow.trans (hleast.2 (.inr ⟨e, he, hcounts, hv⟩))⟩
  · intro h
    rcases hleast.1 with rfl | ⟨e, he, hcounts, hv⟩
    · exact hchosen
    · by_cases hc : chosen e
      · exact ⟨e, he, hc, low, hv, le_rfl⟩
      · exact h e he hcounts hc low hv

theorem exists_ge_greatest_iff [Preorder α] (chosen : σ → Prop) {bot high : α}
    (hgreatest : IsGreatest (insert bot (countedValues counts value slots)) high)
    (hchosen : ∃ s ∈ slots, chosen s ∧ ∃ v, value s = some v ∧ bot ≤ v) :
    (∃ s ∈ slots, chosen s ∧ ∃ v, value s = some v ∧ high ≤ v) ↔
      ∀ e ∈ slots, counts e → ¬ chosen e → ∀ v, value e = some v →
        ∃ s ∈ slots, chosen s ∧ ∃ u, value s = some u ∧ v ≤ u :=
  exists_le_least_iff (α := αᵒᵈ) chosen hgreatest hchosen

end CountedValues

variable [Zero K]

/-- The tag of a slot tells whether it is free. -/
def Tagged (key : σ → K) (free : τ) (slots : List σ) (tags : List τ) : Prop :=
  tags.length = slots.length ∧
    ∀ (i : ℕ) (s : σ) (t : τ), slots[i]? = some s → tags[i]? = some t → (t = free ↔ key s = 0)

theorem Tagged.tag_iff (h : Tagged key free slots tags) (hs : slots[i]? = some s) :
    tags[i]? = some free ↔ key s = 0 := by
  have hlt : i < tags.length := h.1 ▸ (List.getElem?_eq_some_iff.1 hs).1
  rw [List.getElem?_eq_getElem hlt, Option.some.injEq]
  exact h.2 i s _ hs (List.getElem?_eq_getElem hlt)

theorem Tagged.set {t : τ} (h : Tagged key free slots tags) (hst : t = free ↔ key s' = 0) :
    Tagged key free (slots.set i s') (tags.set i t) := by
  refine ⟨by simp [h.1], fun j s u hs hu ↦ ?_⟩
  obtain ⟨rfl, rfl⟩ | ⟨hj, hs⟩ := getElem?_set_eq_some hs
  · obtain ⟨-, rfl⟩ | ⟨hne, -⟩ := getElem?_set_eq_some hu
    · exact hst
    · exact absurd rfl hne
  · obtain ⟨rfl, -⟩ | ⟨-, hu⟩ := getElem?_set_eq_some hu
    · exact absurd rfl hj
    · exact h.2 j s u hs hu

theorem Tagged.retag {t : τ} (h : Tagged key free slots tags) (hs : slots[i]? = some s)
    (hst : t = free ↔ key s = 0) : Tagged key free slots (tags.set i t) := by
  refine ⟨by simp [h.1], fun j s' u hs' hu ↦ ?_⟩
  obtain ⟨rfl, rfl⟩ | ⟨-, hu⟩ := getElem?_set_eq_some hu
  · obtain rfl := Option.some.inj (hs.symm.trans hs')
    exact hst
  · exact h.2 j s' u hs' hu

structure WellFormed (key : σ → K) (amount : σ → ℕ) (blank : σ → Prop) (free : τ)
    (slots : List σ) (tags : List τ) : Prop where
  distinct : ∀ (i j : ℕ) (s t : σ), slots[i]? = some s → slots[j]? = some t → key s ≠ 0 →
    key s = key t → i = j
  held : ∀ s ∈ slots, key s ≠ 0 → 0 < amount s
  empty : ∀ s ∈ slots, key s = 0 → blank s
  tagged : Tagged key free slots tags

namespace WellFormed

variable (h : WellFormed key amount blank free slots tags)
include h

/-- Every slot keeps its key and stays counted or free. -/
theorem map (hslots : List.Forall₂ (fun s s' ↦ key s' = key s ∧ (0 < amount s → 0 < amount s') ∧
    (key s = 0 → blank s → blank s')) slots slots')
    (htags : Tagged key free slots tags') : WellFormed key amount blank free slots' tags' where
  distinct := by
    intro i j s' t' hs' ht' hne heq
    obtain ⟨s, hs, hks, -⟩ := exists_of_forall₂_right hslots hs'
    obtain ⟨t, ht, hkt, -⟩ := exists_of_forall₂_right hslots ht'
    exact h.distinct i j s t hs ht (hks ▸ hne) (hks ▸ hkt ▸ heq)
  held := by
    intro s' hs' hne
    obtain ⟨i, hi⟩ := List.mem_iff_getElem?.1 hs'
    obtain ⟨s, hs, hks, hpos, -⟩ := exists_of_forall₂_right hslots hi
    exact hpos (h.held s (List.mem_of_getElem? hs) (hks ▸ hne))
  empty := by
    intro s' hs' hz
    obtain ⟨i, hi⟩ := List.mem_iff_getElem?.1 hs'
    obtain ⟨s, hs, hks, -, hempty⟩ := exists_of_forall₂_right hslots hi
    exact hempty (hks ▸ hz) (h.empty s (List.mem_of_getElem? hs) (hks ▸ hz))
  tagged := by
    refine ⟨htags.1.trans hslots.length_eq, fun i s' t hs' ht ↦ ?_⟩
    obtain ⟨s, hs, hks, -⟩ := exists_of_forall₂_right hslots hs'
    rw [hks]
    exact htags.2 i s t hs ht

/-- A held slot keeps its key and stays counted. -/
theorem set (hs : slots[i]? = some s) (hkey : key s' = key s) (hne : key s ≠ 0)
    (hpos : 0 < amount s') : WellFormed key amount blank free (slots.set i s') tags where
  distinct := by
    intro j l a b ha hb hnea heq
    obtain ⟨rfl, rfl⟩ | ⟨-, ha⟩ := getElem?_set_eq_some ha
    · obtain ⟨rfl, -⟩ | ⟨-, hb⟩ := getElem?_set_eq_some hb
      · rfl
      · exact h.distinct j l s b hs hb hne (hkey ▸ heq)
    · obtain ⟨rfl, rfl⟩ | ⟨-, hb⟩ := getElem?_set_eq_some hb
      · exact h.distinct j l a s ‹slots[j]? = some a› hs hnea (hkey ▸ heq)
      · exact h.distinct j l a b ha hb hnea heq
  held := by
    intro a ha hnea
    obtain ha | rfl := List.mem_or_eq_of_mem_set ha
    · exact h.held a ha hnea
    · exact hpos
  empty := by
    intro a ha hz
    obtain ha | rfl := List.mem_or_eq_of_mem_set ha
    · exact h.empty a ha hz
    · exact absurd (hkey ▸ hz) hne
  tagged := by
    refine ⟨by simp [h.tagged.1], fun j a t ha ht ↦ ?_⟩
    obtain ⟨rfl, rfl⟩ | ⟨-, ha⟩ := getElem?_set_eq_some ha
    · rw [hkey]
      exact h.tagged.2 j s t hs ht
    · exact h.tagged.2 j a t ha ht

/-- A slot is freed. -/
theorem clear (hkey : key s' = 0) (hblank : blank s') :
    WellFormed key amount blank free (slots.set i s') (tags.set i free) where
  distinct := by
    intro j l a b ha hb hnea heq
    obtain ⟨-, rfl⟩ | ⟨-, ha⟩ := getElem?_set_eq_some ha
    · exact absurd hkey hnea
    · obtain ⟨-, rfl⟩ | ⟨-, hb⟩ := getElem?_set_eq_some hb
      · exact absurd (heq.trans hkey) hnea
      · exact h.distinct j l a b ha hb hnea heq
  held := by
    intro a ha hnea
    obtain ha | rfl := List.mem_or_eq_of_mem_set ha
    · exact h.held a ha hnea
    · exact absurd hkey hnea
  empty := by
    intro a ha hz
    obtain ha | rfl := List.mem_or_eq_of_mem_set ha
    · exact h.empty a ha hz
    · exact hblank
  tagged := h.tagged.set (by simp [hkey])

/-- A slot is taken under a key that no slot has. -/
theorem occupy {t : τ} (hfresh : ∀ a ∈ slots, key a ≠ key s') (hne : key s' ≠ 0)
    (hpos : 0 < amount s') (ht : t ≠ free) :
    WellFormed key amount blank free (slots.set i s') (tags.set i t) where
  distinct := by
    intro j l a b ha hb hnea heq
    obtain ⟨rfl, rfl⟩ | ⟨-, ha⟩ := getElem?_set_eq_some ha
    · obtain ⟨rfl, -⟩ | ⟨-, hb⟩ := getElem?_set_eq_some hb
      · rfl
      · exact absurd heq.symm (hfresh b (List.mem_of_getElem? hb))
    · obtain ⟨rfl, rfl⟩ | ⟨-, hb⟩ := getElem?_set_eq_some hb
      · exact absurd heq (hfresh a (List.mem_of_getElem? ‹slots[j]? = some a›))
      · exact h.distinct j l a b ha hb hnea heq
  held := by
    intro a ha hnea
    obtain ha | rfl := List.mem_or_eq_of_mem_set ha
    · exact h.held a ha hnea
    · exact hpos
  empty := by
    intro a ha hz
    obtain ha | rfl := List.mem_or_eq_of_mem_set ha
    · exact h.empty a ha hz
    · exact absurd hz hne
  tagged := h.tagged.set (by simp [hne, ht])

theorem pairwise : slots.Pairwise fun s t ↦ key s ≠ 0 → key s ≠ key t := by
  rw [List.pairwise_iff_getElem]
  intro i j hi hj hlt hne heq
  exact hlt.ne (h.distinct i j _ _ (List.getElem?_eq_getElem hi) (List.getElem?_eq_getElem hj)
    hne heq)

/-- A search by key finds the slot held under it. -/
theorem findIdx?_key [DecidableEq K] (hs : s ∈ slots) (hne : key s ≠ 0) :
    ∃ i, slots.findIdx? (fun t ↦ key t = key s) = some i ∧ slots[i]? = some s := by
  rcases hfind : slots.findIdx? (fun t ↦ decide (key t = key s)) with - | i
  · have hnone := List.findIdx?_eq_none_iff.1 hfind s hs
    simp at hnone
  · rcases List.findIdx?_eq_some_iff_getElem.1 hfind with ⟨hlt, hkey, -⟩
    rcases List.mem_iff_getElem?.1 hs with ⟨j, hj⟩
    have hi : slots[i]? = some slots[i] := List.getElem?_eq_getElem hlt
    have hkey : key slots[i] = key s := by simpa using hkey
    obtain rfl := h.distinct i j _ _ hi hj (hkey ▸ hne) hkey
    exact ⟨i, rfl, hj⟩

end WellFormed

/-- Every held slot was held before, under the same key and with the same tag. -/
structure Shrinks (key : σ → K) (slots : List σ) (tags : List τ) (slots' : List σ)
    (tags' : List τ) : Prop where
  slots_length : slots'.length = slots.length
  tags_length : tags'.length = tags.length
  kept : ∀ (i : ℕ) (s' : σ), slots'[i]? = some s' → key s' ≠ 0 →
    ∃ s, slots[i]? = some s ∧ key s' = key s ∧ tags'[i]? = tags[i]?

namespace Shrinks

variable {slots'' : List σ} {tags'' : List τ} {t : τ}

theorem trans (h : Shrinks key slots tags slots' tags')
    (h' : Shrinks key slots' tags' slots'' tags'') : Shrinks key slots tags slots'' tags'' := by
  refine ⟨h'.slots_length.trans h.slots_length, h'.tags_length.trans h.tags_length, ?_⟩
  rintro i s'' hs'' hne
  rcases h'.kept i s'' hs'' hne with ⟨s', hs', hkey', htag'⟩
  rcases h.kept i s' hs' (hkey' ▸ hne) with ⟨s, hs, hkey, htag⟩
  exact ⟨s, hs, hkey'.trans hkey, htag'.trans htag⟩

theorem of_forall₂ (h : List.Forall₂ (fun s s' ↦ key s' = key s) slots slots') :
    Shrinks key slots tags slots' tags := by
  refine ⟨h.length_eq.symm, rfl, ?_⟩
  rintro i s' hs' -
  rcases exists_of_forall₂_right h hs' with ⟨s, hs, hkey⟩
  exact ⟨s, hs, hkey, rfl⟩

theorem refl (slots : List σ) (tags : List τ) : Shrinks key slots tags slots tags :=
  of_forall₂ (List.forall₂_same.2 fun _ _ ↦ rfl)

/-- A slot keeps its key. -/
theorem set (hs : slots[i]? = some s) (hkey : key s' = key s) :
    Shrinks key slots tags (slots.set i s') tags := by
  refine ⟨List.length_set, rfl, ?_⟩
  rintro j u hu -
  rcases getElem?_set_eq_some hu with ⟨rfl, rfl⟩ | ⟨-, hu⟩
  · exact ⟨s, hs, hkey, rfl⟩
  · exact ⟨u, hu, rfl, rfl⟩

/-- A slot is freed. -/
theorem clear (hkey : key s' = 0) :
    Shrinks key slots tags (slots.set i s') (tags.set i t) := by
  refine ⟨List.length_set, List.length_set, ?_⟩
  rintro j u hu hne
  rcases getElem?_set_eq_some hu with ⟨-, rfl⟩ | ⟨hj, hu⟩
  · exact absurd hkey hne
  · exact ⟨u, hu, rfl, List.getElem?_set_ne hj.symm⟩

theorem countP_le [DecidableEq K] (h : Shrinks key slots tags slots' tags') :
    slots'.countP (fun s ↦ key s ≠ 0) ≤ slots.countP (fun s ↦ key s ≠ 0) := by
  have hheld : ∀ (i : ℕ) (s' : σ), slots'[i]? = some s' → key s' ≠ 0 →
      ∃ s, slots[i]? = some s ∧ key s ≠ 0 := by
    rintro i s' hs' hne
    rcases h.kept i s' hs' hne with ⟨s, hs, hkey, -⟩
    exact ⟨s, hs, hkey ▸ hne⟩
  have hlen := h.slots_length
  clear h
  induction slots generalizing slots' with
  | nil => rw [List.eq_nil_of_length_eq_zero hlen]
  | cons s slots ih =>
    cases slots' with
    | nil => exact Nat.zero_le _
    | cons s' slots' =>
      have htail := ih (fun i u hu hne ↦ hheld (i + 1) u hu hne) (Nat.succ.inj hlen)
      rw [List.countP_cons, List.countP_cons]
      apply Nat.add_le_add htail
      by_cases hne : key s' ≠ 0
      · rcases hheld 0 s' rfl hne with ⟨t, ht, hkey⟩
        obtain rfl := Option.some.inj ht
        rw [if_pos (decide_eq_true hkey)]
        split
        · exact le_rfl
        · exact Nat.zero_le _
      · rw [if_neg (by simpa using hne)]
        exact Nat.zero_le _

theorem exists_mem (h : Shrinks key slots tags slots' tags') (hs' : s' ∈ slots')
    (hne : key s' ≠ 0) : ∃ s ∈ slots, key s' = key s := by
  rcases List.mem_iff_getElem?.1 hs' with ⟨i, hi⟩
  rcases h.kept i s' hi hne with ⟨s, hs, hkey, -⟩
  exact ⟨s, List.mem_of_getElem? hs, hkey⟩

theorem tail {t' : τ} (h : Shrinks key (s :: slots) (t :: tags) (s' :: slots') (t' :: tags')) :
    Shrinks key slots tags slots' tags' where
  slots_length := Nat.succ.inj h.slots_length
  tags_length := Nat.succ.inj h.tags_length
  kept i u hu hne := h.kept (i + 1) u hu hne

end Shrinks

/-- A held slot has the tag that belongs to its key. -/
def TaggedBy (key : σ → K) (tagOf : K → Option τ) (slots : List σ) (tags : List τ) : Prop :=
  ∀ (i : ℕ) (s : σ) (t : τ), slots[i]? = some s → key s ≠ 0 → tagOf (key s) = some t →
    tags[i]? = some t

namespace TaggedBy

variable {tagOf tagOf' : K → Option τ} {t : τ}

theorem shrinks (h : TaggedBy key tagOf slots tags)
    (hs : Shrinks key slots tags slots' tags') : TaggedBy key tagOf slots' tags' := by
  intro i s' t hs' hne ht
  rcases hs.kept i s' hs' hne with ⟨s, hs, hkey, htag⟩
  rw [htag]
  exact h i s t hs (hkey ▸ hne) (hkey ▸ ht)

theorem mono (h : TaggedBy key tagOf slots tags)
    (hle : ∀ k t, tagOf' k = some t → tagOf k = some t) : TaggedBy key tagOf' slots tags :=
  fun i s t hs hne ht ↦ h i s t hs hne (hle _ _ ht)

/-- A slot is taken together with its tag. -/
theorem set (h : TaggedBy key tagOf slots tags) (hi : i < tags.length)
    (ht : ∀ u, tagOf (key s') = some u → u = t) :
    TaggedBy key tagOf (slots.set i s') (tags.set i t) := by
  intro j a u ha hne hu
  rcases getElem?_set_eq_some ha with ⟨rfl, rfl⟩ | ⟨hj, ha⟩
  · rw [List.getElem?_set_self hi, ht u hu]
  · rw [List.getElem?_set_ne hj.symm]
    exact h j a u ha hne hu

/-- Writing the tag of its key to a held slot changes nothing. -/
theorem set_tag_eq (h : TaggedBy key tagOf slots tags) (hs : slots[i]? = some s)
    (hne : key s ≠ 0) (ht : tagOf (key s) = some t) : tags.set i t = tags := by
  rcases List.getElem?_eq_some_iff.1 (h i s t hs hne ht) with ⟨hi, rfl⟩
  exact List.set_getElem_self hi

end TaggedBy

/-- A table of free slots. -/
theorem wellFormed_replicate (hkey : key s = 0) (hblank : blank s) (n : ℕ) :
    WellFormed key amount blank free (List.replicate n s) (List.replicate n free) where
  distinct i j a b ha _ hne _ := by
    obtain rfl := List.eq_of_mem_replicate (List.mem_of_getElem? ha)
    exact absurd hkey hne
  held a ha hne := by
    obtain rfl := List.eq_of_mem_replicate ha
    exact absurd hkey hne
  empty a ha _ := by
    obtain rfl := List.eq_of_mem_replicate ha
    exact hblank
  tagged := by
    refine ⟨by simp, fun i a t ha ht ↦ ?_⟩
    obtain rfl := List.eq_of_mem_replicate (List.mem_of_getElem? ha)
    obtain rfl := List.eq_of_mem_replicate (List.mem_of_getElem? ht)
    simp [hkey]

section KeysInUse

variable [DecidableEq K]

/-- The keys of the held slots, in the order of the table. -/
def keysInUse (key : σ → K) (slots : List σ) : List K := (slots.map key).filter (· ≠ 0)

theorem keysInUse_cons : keysInUse key (s :: slots) =
    if key s = 0 then keysInUse key slots else key s :: keysInUse key slots := by
  rw [keysInUse, List.map_cons]
  split
  · next hz => exact List.filter_cons_of_neg (by simpa using hz)
  · next hne => exact List.filter_cons_of_pos (by simpa using hne)

theorem mem_keysInUse {k : K} : k ∈ keysInUse key slots ↔ k ≠ 0 ∧ ∃ s ∈ slots, key s = k := by
  rw [keysInUse, List.mem_filter, List.mem_map, decide_eq_true_eq, and_comm]

theorem length_keysInUse : (keysInUse key slots).length = slots.countP (key · ≠ 0) := by
  rw [keysInUse, ← List.countP_eq_length_filter, List.countP_map]
  rfl

theorem keysInUse_eq (h : List.Forall₂ (fun s s' ↦ key s' = key s) slots slots') :
    keysInUse key slots' = keysInUse key slots := by
  induction h with
  | nil => rfl
  | cons hs _ ih => rw [keysInUse_cons, keysInUse_cons, hs, ih]

theorem keysInUse_set (hs : slots[i]? = some s) (hkey : key s' = key s) :
    keysInUse key (slots.set i s') = keysInUse key slots := by
  induction slots generalizing i with
  | nil => rfl
  | cons t slots ih =>
    cases i with
    | zero =>
      obtain rfl := Option.some.inj hs
      rw [List.set_cons_zero, keysInUse_cons, keysInUse_cons, hkey]
    | succ i => rw [List.set_cons_succ, keysInUse_cons, keysInUse_cons, ih hs]

/-- Slots that do not repeat a key. -/
theorem nodup_keysInUse (h : slots.Pairwise fun s t ↦ key s ≠ 0 → key s ≠ key t) :
    (keysInUse key slots).Nodup := by
  induction h with
  | nil => exact List.nodup_nil
  | cons hs _ ih =>
    rw [keysInUse_cons]
    split
    · exact ih
    · next hne =>
      refine List.nodup_cons.2 ⟨fun hmem ↦ ?_, ih⟩
      obtain ⟨-, t, ht, heq⟩ := mem_keysInUse.1 hmem
      exact hs t ht hne heq.symm

/-- Clearing a slot takes its key out. -/
theorem keysInUse_clear (h : slots.Pairwise fun s t ↦ key s ≠ 0 → key s ≠ key t)
    (hs : slots[i]? = some s) (hne : key s ≠ 0) (hkey : key s' = 0) :
    keysInUse key (slots.set i s') = (keysInUse key slots).erase (key s) := by
  induction h generalizing i with
  | nil => simp at hs
  | @cons t slots ht _ ih =>
    cases i with
    | zero =>
      obtain rfl := Option.some.inj hs
      rw [List.set_cons_zero, keysInUse_cons, keysInUse_cons, if_pos hkey, if_neg hne,
        List.erase_cons_head]
    | succ i =>
      rw [List.set_cons_succ, keysInUse_cons, keysInUse_cons, ih hs]
      split
      · rfl
      · next hne' =>
        have hkeys : key t ≠ key s := ht s (List.mem_of_getElem? hs) hne'
        rw [List.erase_cons_tail (by simpa using hkeys)]

end KeysInUse

end SlotTable
