import Klend.Positions.Freshness

/-! # Debt trackers

A reserve has one debt tracker for each elevation group and one for the debt outside
all groups. A loop over the slots of an obligation moves a tracker by exactly what
it changes in the slots, as long as the tracker covers the slots.
-/

namespace Klend

/-- The tracker of a group, or of the debt outside all groups. -/
def Reserve.tracker (r : Reserve) : Option (Fin 32) → U64
  | some i => r.debtInGroup i
  | none => r.borrowedAmountOutsideElevationGroup

/-- The trackers of a map of reserves, zero where there is none. -/
def Reserves.tracker (rs : Reserves) (k : Pubkey) (t : Option (Fin 32)) : ℕ :=
  match rs k with
  | some r => r.tracker t
  | none => 0

namespace Reserve

variable {r : Reserve} {i : Fin 32} {n : U64}

theorem tracker_setDebtInGroup_same : (r.setDebtInGroup i n).tracker (some i) = n :=
  Function.update_self (β := fun _ ↦ U64) i n _

theorem tracker_setDebtInGroup_other {t : Option (Fin 32)} (h : t ≠ some i) :
    (r.setDebtInGroup i n).tracker t = r.tracker t := by
  cases t with
  | none => rfl
  | some j =>
    exact Function.update_of_ne (β := fun _ ↦ U64) (fun hj ↦ h (congrArg some hj)) n _

theorem tracker_setDebtOutside_same : (r.setDebtOutside n).tracker none = n := rfl

theorem tracker_setDebtOutside_other {t : Option (Fin 32)} (h : t ≠ none) :
    (r.setDebtOutside n).tracker t = r.tracker t := by
  cases t with
  | none => exact absurd rfl h
  | some j => rfl

theorem Moves.tracker_eq {n : ℕ} {S F : Books → ℕ → Prop} {r' : Reserve} {c c' : U64}
    (h : Moves n S F r c r' c') (t : Option (Fin 32)) : r'.tracker t = r.tracker t := by
  cases t with
  | none => exact h.outside_eq
  | some j => exact congrFun h.groups_eq j

end Reserve

namespace Reserves

variable {rs : Reserves} {k : Pubkey} {r : Reserve} {t : Option (Fin 32)}

theorem tracker_eq (h : rs k = some r) : rs.tracker k t = r.tracker t := by
  rw [tracker, h]

theorem tracker_store_same : (rs.store k r).tracker k t = r.tracker t :=
  tracker_eq (store_same rs k r)

theorem tracker_store_other {j : Pubkey} (h : j ≠ k) : (rs.store k r).tracker j t = rs.tracker j t := by
  rw [tracker, store_other h, tracker]

theorem tracker_store_eq {r₀ : Reserve} (hr : rs k = some r₀)
    (h : ∀ u, r.tracker u = r₀.tracker u) (j : Pubkey) (u : Option (Fin 32)) :
    (rs.store k r).tracker j u = rs.tracker j u := by
  by_cases hj : j = k
  · subst hj
    rw [tracker_store_same, tracker_eq hr, h]
  · exact tracker_store_other hj

end Reserves

section Loop

variable {σ S : Type} {key : σ → Pubkey} {count : σ → U64} {reserves : S → Reserves}
  {t : Option (Fin 32)} {occupied : σ → Bool} {body : ℕ → S → σ → Pubkey → Result (S × σ)}
  {i : ℕ} {s s' : S} {xs ys : List σ} {ks : List Pubkey}

/-- What the slots held for a reserve count. -/
def countedFor (key : σ → Pubkey) (count : σ → U64) (k : Pubkey) (xs : List σ) : ℕ :=
  SlotTable.total key (fun x ↦ (count x : ℕ)) k xs

theorem countedFor_cons (k : Pubkey) (x : σ) (xs : List σ) : countedFor key count k (x :: xs) =
    (if key x = k then (count x : ℕ) else 0) + countedFor key count k xs := SlotTable.total_cons

theorem countedFor_set {x x' : σ} (hx : xs[i]? = some x) (k : Pubkey) :
    countedFor key count k (xs.set i x') + (if key x = k then (count x : ℕ) else 0) =
      countedFor key count k xs + if key x' = k then (count x' : ℕ) else 0 :=
  SlotTable.total_set hx

theorem count_le_countedFor {x : σ} (hx : x ∈ xs) :
    (count x : ℕ) ≤ countedFor key count (key x) xs := by
  unfold countedFor
  exact @SlotTable.le_total _ _ key _ _ _ (fun x ↦ (count x : ℕ)) hx

theorem countedFor_eq_zero {k : Pubkey} (h : ∀ x ∈ xs, key x = k → count x = 0) :
    countedFor key count k xs = 0 :=
  SlotTable.total_eq_zero fun x hx hk ↦ congrArg Fin.val (h x hx hk)

/-- No slot in use counts anything. -/
def NothingCounted (key : σ → Pubkey) (count : σ → U64) (xs : List σ) : Prop :=
  ∀ x ∈ xs, key x ≠ 0 → count x = 0

theorem NothingCounted.countedFor {k : Pubkey} (h : NothingCounted key count xs) (hk : k ≠ 0) :
    countedFor key count k xs = 0 :=
  countedFor_eq_zero fun x hx hkey ↦ h x hx (hkey ▸ hk)

theorem NothingCounted.set {x' : σ} (h : NothingCounted key count xs)
    (hx' : key x' ≠ 0 → count x' = 0) : NothingCounted key count (xs.set i x') := by
  intro x hx hne
  rcases List.mem_or_eq_of_mem_set hx with hx | rfl
  · exact h x hx hne
  · exact hx' hne

/-- A slot changes its count by as much as its reserve's tracker, and no other tracker changes. -/
structure MovesTracker (key : σ → Pubkey) (count : σ → U64) (t : Option (Fin 32))
    (rs rs' : Reserves) (x x' : σ) : Prop where
  key_eq : key x' = key x
  moved : ∃ r r', rs (key x) = some r ∧ rs' = rs.store (key x) r' ∧
    (r'.tracker t : ℕ) + count x = r.tracker t + count x' ∧ ∀ u, u ≠ t → r'.tracker u = r.tracker u

theorem MovesTracker.tracker_eq {rs rs' : Reserves} {x x' : σ}
    (h : MovesTracker key count t rs rs' x x') (hcount : count x' = count x) (k : Pubkey)
    (u : Option (Fin 32)) : rs'.tracker k u = rs.tracker k u := by
  obtain ⟨-, r, r', hr, rfl, hmoved, hother⟩ := h
  apply Reserves.tracker_store_eq hr
  intro u
  by_cases hu : u = t
  · subst hu
    rw [hcount] at hmoved
    exact Fin.ext (Nat.add_right_cancel hmoved)
  · exact hother u hu

/-- The trackers cover the slots. -/
def Covers (key : σ → Pubkey) (count : σ → U64) (t : Option (Fin 32)) (rs : Reserves)
    (xs : List σ) : Prop :=
  ∀ k, k ≠ 0 → ∀ r, rs k = some r → countedFor key count k xs ≤ r.tracker t

/-- Between the slots and the trackers nothing is lost. -/
def Transfers (key : σ → Pubkey) (count : σ → U64) (t : Option (Fin 32)) (rs rs' : Reserves)
    (xs ys : List σ) : Prop :=
  ∀ k, k ≠ 0 → rs'.tracker k t + countedFor key count k xs =
      rs.tracker k t + countedFor key count k ys ∧
    ∀ u, u ≠ t → rs'.tracker k u = rs.tracker k u

theorem Transfers.refl (rs : Reserves) (xs : List σ) : Transfers key count t rs rs xs xs :=
  fun _ _ ↦ ⟨rfl, fun _ _ ↦ rfl⟩

theorem MovesTracker.transfers {rs rs' rs'' : Reserves} {x x' : σ} {xs ys : List σ}
    (h : MovesTracker key count t rs rs' x x') (hrest : Transfers key count t rs' rs'' xs ys) :
    Transfers key count t rs rs'' (x :: xs) (x' :: ys) := by
  obtain ⟨hkey, r, r', hr, rfl, hmoved, hother⟩ := h
  intro k hk
  obtain ⟨hsum, hrest⟩ := hrest k hk
  rw [countedFor_cons, countedFor_cons, hkey]
  by_cases hx : k = key x
  · subst hx
    rw [Reserves.tracker_store_same] at hsum
    rw [Reserves.tracker_eq hr, if_pos rfl, if_pos rfl]
    refine ⟨by omega, fun u hu ↦ ?_⟩
    rw [hrest u hu, Reserves.tracker_store_same, hother u hu, Reserves.tracker_eq hr]
  · rw [Reserves.tracker_store_other hx] at hsum
    rw [if_neg (Ne.symm hx), if_neg (Ne.symm hx)]
    refine ⟨by omega, fun u hu ↦ ?_⟩
    rw [hrest u hu, Reserves.tracker_store_other hx]

theorem MovesTracker.covers {rs rs' : Reserves} {x x' : σ}
    (h : MovesTracker key count t rs rs' x x') (hcovers : Covers key count t rs (x :: xs)) :
    Covers key count t rs' xs := by
  obtain ⟨-, r, r', hr, rfl, hmoved, -⟩ := h
  intro k hk r₁ hr₁
  by_cases hx : k = key x
  · subst hx
    have hle := hcovers _ hk r hr
    rw [Reserves.store_same, Option.some.injEq] at hr₁
    subst hr₁
    rw [countedFor_cons, if_pos rfl] at hle
    omega
  · rw [Reserves.store_other hx] at hr₁
    have hle := hcovers k hk r₁ hr₁
    rw [countedFor_cons] at hle
    exact le_of_add_le_right hle

theorem Transfers.of_set {rs : Reserves} {x x' : σ} {k : Pubkey} {r r' : Reserve}
    (hx : xs[i]? = some x) (hkey : key x = k ∨ key x = 0) (hkey' : key x' = k ∨ key x' = 0)
    (hr : rs k = some r)
    (hmoved : (r'.tracker t : ℕ) + (if key x = k then (count x : ℕ) else 0) =
      r.tracker t + if key x' = k then (count x' : ℕ) else 0)
    (hother : ∀ u, u ≠ t → r'.tracker u = r.tracker u) :
    Transfers key count t rs (rs.store k r') xs (xs.set i x') := by
  intro j hj
  have hset := @countedFor_set _ key count _ _ _ x' hx j
  by_cases hjk : j = k
  · subst hjk
    rw [Reserves.tracker_store_same, Reserves.tracker_eq hr]
    refine ⟨by omega, fun u hu ↦ ?_⟩
    rw [Reserves.tracker_store_same, Reserves.tracker_eq hr, hother u hu]
  · have hne : ∀ {y}, key y = k ∨ key y = 0 → key y ≠ j := by
      rintro y (hy | hy) rfl
      · exact hjk hy
      · exact hj hy
    rw [if_neg (hne hkey), if_neg (hne hkey')] at hset
    rw [Reserves.tracker_store_other hjk]
    exact ⟨by omega, fun u _ ↦ Reserves.tracker_store_other hjk⟩

theorem Transfers.cons_free {rs rs' : Reserves} {x : σ} (hx : key x = 0)
    (h : Transfers key count t rs rs' xs ys) : Transfers key count t rs rs' (x :: xs) (x :: ys) := by
  intro k hk
  rw [countedFor_cons, countedFor_cons, if_neg fun hkey ↦ hk (hkey.symm.trans hx), Nat.zero_add,
    Nat.zero_add]
  exact h k hk

/-- A loop of which each pass moves one slot and its tracker together moves all slots and trackers
together. -/
theorem forOccupied_transfers (hocc : ∀ x, occupied x = true ↔ key x ≠ 0)
    (hbody : ∀ i s x k s' x', x ∈ xs → key x ≠ 0 →
      (∀ r, reserves s (key x) = some r → count x ≤ r.tracker t) →
      body i s x k = .ok (s', x') →
      MovesTracker key count t (reserves s) (reserves s') x x')
    (hcovers : Covers key count t (reserves s) xs)
    (h : forOccupied occupied body i s xs ks = .ok (s', ys)) :
    Transfers key count t (reserves s) (reserves s') xs ys := by
  induction xs generalizing i s ks ys with
  | nil =>
    obtain ⟨rfl, rfl⟩ := forOccupied_nil_eq_ok.1 h
    exact .refl _ _
  | cons x xs ih =>
    have htail : ∀ i s y k s' y', y ∈ xs → key y ≠ 0 →
        (∀ r, reserves s (key y) = some r → count y ≤ r.tracker t) →
        body i s y k = .ok (s', y') →
        MovesTracker key count t (reserves s) (reserves s') y y' :=
      fun i s y k s' y' hy ↦ hbody i s y k s' y' (.tail _ hy)
    rcases forOccupied_cons_eq_ok.1 h with ⟨hx, k, ks₁, s₁, x₁, xs₁, -, hb, hl, rfl⟩ |
      ⟨hx, xs₁, hl, rfl⟩
    · have hkey := (hocc x).1 hx
      have hcovered : ∀ r, reserves s (key x) = some r → count x ≤ r.tracker t := by
        intro r hr
        have hle := hcovers (key x) hkey r hr
        exact (count_le_countedFor List.mem_cons_self).trans hle
      have hmoves := hbody i s x k s₁ x₁ List.mem_cons_self hkey hcovered hb
      exact hmoves.transfers (ih htail (hmoves.covers hcovers) hl)
    · have hkey : key x = 0 := by
        by_contra hne
        rw [(hocc x).2 hne] at hx
        cases hx
      have hcovers' : Covers key count t (reserves s) xs := by
        intro k hk r hr
        have hle := hcovers k hk r hr
        rw [countedFor_cons] at hle
        exact le_of_add_le_right hle
      exact (ih htail hcovers' hl).cons_free hkey

theorem forOccupied_keys (hbody : ∀ i s x k s' x', body i s x k = .ok (s', x') → k = key x)
    (h : forOccupied occupied body i s xs ks = .ok (s', ys)) :
    (xs.filter occupied).map key <+: ks := by
  induction xs generalizing i s ks ys with
  | nil => exact List.nil_prefix
  | cons x xs ih =>
    rcases forOccupied_cons_eq_ok.1 h with ⟨hx, k, ks₁, s₁, x₁, xs₁, rfl, hb, hl, rfl⟩ |
      ⟨hx, xs₁, hl, rfl⟩
    · obtain rfl := hbody i s x k s₁ x₁ hb
      rw [List.filter_cons_of_pos hx, List.map_cons]
      exact (List.prefix_cons_inj _).2 (ih hl)
    · rw [List.filter_cons_of_neg (by simp [hx])]
      exact ih hl

theorem forOccupied_checked (hkeys : (xs.filter occupied).map key <+: ks)
    (h : forOccupied occupied body i s xs ks = .ok (s', ys)) :
    forOccupied occupied (fun i s x k ↦ if k = key x then body i s x k else abort) i s xs ks =
      .ok (s', ys) := by
  induction xs generalizing i s ks ys with
  | nil => exact forOccupied_nil_eq_ok.2 (forOccupied_nil_eq_ok.1 h)
  | cons x xs ih =>
    rw [forOccupied_cons_eq_ok]
    rcases forOccupied_cons_eq_ok.1 h with ⟨hx, k, ks₁, s₁, x₁, xs₁, rfl, hb, hl, rfl⟩ |
      ⟨hx, xs₁, hl, rfl⟩
    · rw [List.filter_cons_of_pos hx, List.map_cons, List.cons_prefix_cons] at hkeys
      obtain ⟨hk, hkeys⟩ := hkeys
      exact .inl ⟨hx, k, ks₁, s₁, x₁, xs₁, rfl, by rw [if_pos hk.symm]; exact hb, ih hkeys hl, rfl⟩
    · rw [List.filter_cons_of_neg (by simp [hx])] at hkeys
      exact .inr ⟨hx, xs₁, ih hkeys hl, rfl⟩

end Loop

end Klend
