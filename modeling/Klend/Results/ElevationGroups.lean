import Klend.Sdk.ElevationGroups

/-! # Descriptions of elevation groups

Groups that are not in use have no description, while the reserves are entered by id. So the
descriptions fit where no group below a listed one is unused.
-/

namespace Klend.Sdk

section Loops

variable {r : KaminoReserve} {groups groups' : List ElevationGroupDescription} {id k : ℕ}
  {l : List (KaminoReserve × ℕ)}

theorem exists_enterGroup_iff : (∃ groups', enterGroup r groups id = some groups') ↔
    id ≤ groups.length := by
  unfold enterGroup
  split
  · next h => simp [h]
  · next h =>
    rcases hget : groups[id - 1]? with - | d
    · rw [List.getElem?_eq_none_iff] at hget
      simp only [Option.bind_eq_bind, Option.bind_none, reduceCtorEq, exists_false, false_iff]
      omega
    · have hlt := (List.getElem?_eq_some_iff.1 hget).1
      exact iff_of_true ⟨_, rfl⟩ (by omega)

theorem enterGroup_length (h : enterGroup r groups id = some groups') :
    groups'.length = groups.length := by
  unfold enterGroup at h
  split at h
  · rw [← Option.some.inj h]
  · obtain ⟨d, -, hset⟩ := Option.bind_eq_some_iff.1 h
    rw [← Option.some.inj hset, List.length_set]

theorem enterGroup_getElem? (h : enterGroup r groups id = some groups') (k : ℕ) :
    groups'[k]? = groups[k]?.map fun d ↦ if id = k + 1 then d.enter r else d := by
  unfold enterGroup at h
  split at h
  · next hid =>
    rw [← Option.some.inj h, hid]
    simp
  · next hid =>
    obtain ⟨d, hd, hset⟩ := Option.bind_eq_some_iff.1 h
    rw [← Option.some.inj hset, List.getElem?_set]
    have hlt := (List.getElem?_eq_some_iff.1 hd).1
    by_cases hk : id - 1 = k
    · have hkey : id = k + 1 := by omega
      rw [if_pos hk, if_pos hlt, ← hk, hd, Option.map_some, if_pos (by omega)]
    · rw [if_neg hk]
      simp only [show id ≠ k + 1 by omega, if_false, Option.map_id']

/-- The description at an index behind all entries. -/
def entered (l : List (KaminoReserve × ℕ)) (k : ℕ) (d : ElevationGroupDescription) :
    ElevationGroupDescription :=
  ((l.filter (·.2 = k + 1)).map Prod.fst).foldl ElevationGroupDescription.enter d

theorem entered_cons {p : KaminoReserve × ℕ} (d : ElevationGroupDescription) :
    entered (p :: l) k d = entered l k (if p.2 = k + 1 then d.enter p.1 else d) := by
  unfold entered
  by_cases h : p.2 = k + 1
  · rw [if_pos h, List.filter_cons_of_pos (by simpa using h), List.map_cons, List.foldl_cons]
  · rw [if_neg h, List.filter_cons_of_neg (by simpa using h)]

theorem exists_foldlM_enterGroup_iff :
    (∃ groups', l.foldlM (fun groups p ↦ enterGroup p.1 groups p.2) groups = some groups') ↔
      ∀ p ∈ l, p.2 ≤ groups.length := by
  induction l generalizing groups with
  | nil => simp
  | cons p l ih =>
    rw [List.forall_mem_cons, ← exists_enterGroup_iff (r := p.1), List.foldlM_cons]
    rcases hfirst : enterGroup p.1 groups p.2 with - | groups₁
    · simp
    · rw [Option.bind_eq_bind, Option.bind_some, ih, enterGroup_length hfirst]
      simp

theorem foldlM_enterGroup_getElem?
    (h : l.foldlM (fun groups p ↦ enterGroup p.1 groups p.2) groups = some groups') (k : ℕ) :
    groups'[k]? = groups[k]?.map (entered l k) := by
  induction l generalizing groups with
  | nil =>
    rw [← Option.some.inj h]
    exact Option.map_id'.symm
  | cons p l ih =>
    rw [List.foldlM_cons, Option.bind_eq_bind, Option.bind_eq_some_iff] at h
    obtain ⟨groups₁, hfirst, hrest⟩ := h
    rw [ih hrest, enterGroup_getElem? hfirst, Option.map_map]
    congr 1
    funext d
    rw [entered_cons, Function.comp_apply]

end Loops

section Contents

variable {rs : List KaminoReserve} {d : ElevationGroupDescription}

theorem foldl_enter_elevationGroup :
    (rs.foldl ElevationGroupDescription.enter d).elevationGroup = d.elevationGroup := by
  induction rs generalizing d with
  | nil => rfl
  | cons r rs ih =>
    rw [List.foldl_cons, ih, ElevationGroupDescription.enter]
    split <;> rfl

theorem foldl_enter_collateral (key mint : Pubkey) :
    ((rs.foldl ElevationGroupDescription.enter d).collateralReserves.contains key ↔
      d.collateralReserves.contains key ∨
        ∃ r ∈ rs, r.address ≠ d.debtReserve ∧ r.address = key) ∧
    ((rs.foldl ElevationGroupDescription.enter d).collateralLiquidityMints.contains mint ↔
      d.collateralLiquidityMints.contains mint ∨
        ∃ r ∈ rs, r.address ≠ d.debtReserve ∧ r.getLiquidityMint = mint) := by
  induction rs generalizing d with
  | nil => simp
  | cons r rs ih =>
    rw [List.foldl_cons, ih.1, ih.2, List.exists_mem_cons_iff, List.exists_mem_cons_iff]
    unfold ElevationGroupDescription.enter
    split
    · next h => simp [h]
    · next h =>
      simp only [PublicKeySet.contains_add, ne_eq, h, not_false_eq_true, true_and]
      constructor
      · rw [eq_comm (b := r.address), or_comm (a := r.address = key), or_assoc]
      · rw [eq_comm (b := r.getLiquidityMint), or_comm (a := r.getLiquidityMint = mint), or_assoc]

theorem foldl_enter_debtMint :
    (∃ r ∈ rs, r.address = d.debtReserve ∧
      (rs.foldl ElevationGroupDescription.enter d).debtLiquidityMint = r.getLiquidityMint) ∨
    (∀ r ∈ rs, r.address ≠ d.debtReserve) ∧
      (rs.foldl ElevationGroupDescription.enter d).debtLiquidityMint = d.debtLiquidityMint := by
  induction rs generalizing d with
  | nil => exact .inr ⟨List.forall_mem_nil _, rfl⟩
  | cons r rs ih =>
    rw [List.foldl_cons]
    by_cases h : r.address = d.debtReserve
    · have henter : d.enter r = { d with debtLiquidityMint := r.getLiquidityMint } := if_pos h
      rw [henter]
      rcases @ih { d with debtLiquidityMint := r.getLiquidityMint } with
        ⟨r', hr', haddress, hmint⟩ | ⟨-, hmint⟩
      · exact .inl ⟨r', List.mem_cons_of_mem _ hr', haddress, hmint⟩
      · exact .inl ⟨r, List.mem_cons_self .., h, hmint⟩
    · have henter : (d.enter r).debtReserve = d.debtReserve ∧
          (d.enter r).debtLiquidityMint = d.debtLiquidityMint := by
        rw [ElevationGroupDescription.enter, if_neg h]
        exact ⟨rfl, rfl⟩
      rcases @ih (d.enter r) with ⟨r', hr', haddress, hmint⟩ | ⟨hnone, hmint⟩
      · exact .inl ⟨r', List.mem_cons_of_mem _ hr', haddress.trans henter.1, hmint⟩
      · refine .inr ⟨?_, hmint.trans henter.2⟩
        rw [List.forall_mem_cons]
        exact ⟨h, henter.1 ▸ hnone⟩

end Contents

section Ascending

variable {ids : List ℕ} {i j k m n : ℕ}

theorem add_sub_le_of_ascending (h : ids.Pairwise (· < ·)) (hm : ids[i]? = some m)
    (hn : ids[j]? = some n) (hij : i ≤ j) : m + (j - i) ≤ n := by
  induction j, hij using Nat.le_induction generalizing n with
  | base =>
    rw [hm, Option.some.injEq] at hn
    omega
  | succ j hij ih =>
    obtain ⟨hlt, rfl⟩ := List.getElem?_eq_some_iff.1 hn
    have hprevious := ih (List.getElem?_eq_getElem (Nat.lt_of_succ_lt hlt))
    have hstep := List.pairwise_iff_getElem.1 h j (j + 1) (by omega) hlt (by omega)
    omega

theorem succ_le_of_ascending (h : ids.Pairwise (· < ·)) (hpos : 0 ∉ ids)
    (hn : ids[k]? = some n) : k + 1 ≤ n := by
  have hlt := (List.getElem?_eq_some_iff.1 hn).1
  have hfirst : ids[0]? = some ids[0] := List.getElem?_eq_getElem (by omega)
  have hne : ids[0] ≠ 0 := fun hzero ↦ hpos (hzero ▸ List.getElem_mem _)
  have hle := add_sub_le_of_ascending h hfirst hn (Nat.zero_le k)
  omega

/-- Where a number is at the place before it, so is every number below. -/
theorem getElem?_of_ascending (h : ids.Pairwise (· < ·)) (hpos : 0 ∉ ids)
    (hk : ids[k]? = some (k + 1)) (hjk : j ≤ k) : ids[j]? = some (j + 1) := by
  have hlt := (List.getElem?_eq_some_iff.1 hk).1
  have hj : ids[j]? = some ids[j] := List.getElem?_eq_getElem (by omega)
  have hlower := succ_le_of_ascending h hpos hj
  have hupper := add_sub_le_of_ascending h hj hk hjk
  rw [hj]
  congr 1
  omega

theorem getElem?_of_filled (h : ids.Pairwise (· < ·)) (hpos : 0 ∉ ids)
    (hfilled : ∀ i, 0 < i → i ≤ m → i ∈ ids) (hk : k < m) : ids[k]? = some (k + 1) := by
  induction k using Nat.strong_induction_on with
  | _ k ih =>
    obtain ⟨j, hj⟩ := List.mem_iff_getElem?.1 (hfilled (k + 1) (by omega) hk)
    have hle := succ_le_of_ascending h hpos hj
    rcases (show j ≤ k by omega).lt_or_eq with hlt | rfl
    · have hplace := ih j hlt (by omega)
      rw [hj, Option.some.injEq] at hplace
      omega
    · exact hj

end Ascending

namespace KaminoMarket

section Definitions

variable (market : KaminoMarket)

/-- The reserves with the ids that they list. -/
def listings : List (KaminoReserve × ℕ) :=
  market.getReserves.flatMap fun r ↦ r.elevationGroups.map (Prod.mk r)

/-- The description fits the group: its collateral is the reserves that list it, besides its debt
reserve, and its debt mint is that of the debt reserve, where this lists it. -/
structure Describes (group : ElevationGroup) (d : ElevationGroupDescription) : Prop where
  collateralReserves : ∀ key, d.collateralReserves.contains key ↔
    ∃ r ∈ market.getReserves, (group.id : ℕ) ∈ r.elevationGroups ∧
      r.address ≠ group.debtReserve ∧ r.address = key
  collateralLiquidityMints : ∀ mint, d.collateralLiquidityMints.contains mint ↔
    ∃ r ∈ market.getReserves, (group.id : ℕ) ∈ r.elevationGroups ∧
      r.address ≠ group.debtReserve ∧ r.getLiquidityMint = mint
  debtLiquidityMint : ∀ r ∈ market.getReserves, r.address = group.debtReserve →
    (group.id : ℕ) ∈ r.elevationGroups → d.debtLiquidityMint = r.getLiquidityMint

/-- The groups are described without an exception, and each description fits the group of its
id. -/
def Described : Prop :=
  ∃ descriptions, market.getMarketElevationGroupDescriptions = some descriptions ∧
    ∀ group ∈ market.usedElevationGroups,
      (∃ d ∈ descriptions, d.elevationGroup = group.id) ∧
      ∀ d ∈ descriptions, d.elevationGroup = group.id → market.Describes group d

/-- The reserves list the place of a used group where they list its id. -/
structure Aligned : Prop where
  inRange : ∀ r ∈ market.getReserves, ∀ id ∈ r.elevationGroups,
    id ≤ market.usedElevationGroups.length
  collateral : ∀ k group, market.usedElevationGroups[k]? = some group →
    ∀ r ∈ market.getReserves, r.address ≠ group.debtReserve →
      (k + 1 ∈ r.elevationGroups ↔ (group.id : ℕ) ∈ r.elevationGroups)
  debt : ∀ k group, market.usedElevationGroups[k]? = some group →
    ∀ r ∈ market.getReserves, r.address = group.debtReserve → r.getLiquidityMint ≠ 0 →
      (group.id : ℕ) ∈ r.elevationGroups → k + 1 ∈ r.elevationGroups

/-- Every id up to one that a reserve lists is in use. -/
def NoGaps : Prop :=
  ∀ r ∈ market.getReserves, ∀ id ∈ r.elevationGroups, ∀ i, 0 < i → i ≤ id →
    ∃ group ∈ market.usedElevationGroups, (group.id : ℕ) = i

end Definitions

section Described

variable {market : KaminoMarket} {descriptions : List ElevationGroupDescription}

theorem getMarketElevationGroupDescriptions_eq :
    market.getMarketElevationGroupDescriptions =
      market.listings.foldlM (fun groups p ↦ enterGroup p.1 groups p.2)
        (market.usedElevationGroups.map describe) := by
  suffices hloop : ∀ (rs : List KaminoReserve) (groups : List ElevationGroupDescription),
      rs.foldlM (fun groups r ↦ r.elevationGroups.foldlM (enterGroup r) groups) groups =
        (rs.flatMap fun r ↦ r.elevationGroups.map (Prod.mk r)).foldlM
          (fun groups p ↦ enterGroup p.1 groups p.2) groups from hloop _ _
  intro rs
  induction rs with
  | nil => exact fun _ ↦ rfl
  | cons r rs ih =>
    intro groups
    rw [List.foldlM_cons, List.flatMap_cons, List.foldlM_append, List.foldlM_map]
    exact congrArg _ (funext ih)

theorem mem_listed {r : KaminoReserve} {k : ℕ} :
    r ∈ (market.listings.filter (·.2 = k + 1)).map Prod.fst ↔
      r ∈ market.getReserves ∧ k + 1 ∈ r.elevationGroups := by
  simp [listings]

theorem eq_of_address_eq {r r' : KaminoReserve} (hr : r ∈ market.getReserves)
    (hr' : r' ∈ market.getReserves) (h : r.address = r'.address) : r = r' := by
  obtain ⟨entry, hentry, rfl⟩ := List.mem_map.1 hr
  obtain ⟨entry', hentry', rfl⟩ := List.mem_map.1 hr'
  rw [market.address_eq entry hentry, market.address_eq entry' hentry'] at h
  rw [List.inj_on_of_nodup_map market.reserves_nodup hentry hentry' h]

theorem descriptions_getElem?
    (h : market.getMarketElevationGroupDescriptions = some descriptions) (k : ℕ) :
    descriptions[k]? = market.usedElevationGroups[k]?.map fun group ↦
      entered market.listings k (describe group) := by
  rw [getMarketElevationGroupDescriptions_eq] at h
  rw [foldlM_enterGroup_getElem? h, List.getElem?_map, Option.map_map]
  rfl

theorem contains_entered (k : ℕ) (group : ElevationGroup) (key mint : Pubkey) :
    ((entered market.listings k (describe group)).collateralReserves.contains key ↔
      ∃ r ∈ market.getReserves, k + 1 ∈ r.elevationGroups ∧
        r.address ≠ group.debtReserve ∧ r.address = key) ∧
    ((entered market.listings k (describe group)).collateralLiquidityMints.contains mint ↔
      ∃ r ∈ market.getReserves, k + 1 ∈ r.elevationGroups ∧
        r.address ≠ group.debtReserve ∧ r.getLiquidityMint = mint) := by
  have hcollateral := @foldl_enter_collateral ((market.listings.filter (·.2 = k + 1)).map Prod.fst)
    (describe group) key mint
  simp only [mem_listed, and_assoc, describe, PublicKeySet.contains_empty, Bool.false_eq_true,
    false_or] at hcollateral
  exact hcollateral

theorem exists_descriptions_iff :
    (∃ descriptions, market.getMarketElevationGroupDescriptions = some descriptions) ↔
      ∀ r ∈ market.getReserves, ∀ id ∈ r.elevationGroups,
        id ≤ market.usedElevationGroups.length := by
  rw [getMarketElevationGroupDescriptions_eq, exists_foldlM_enterGroup_iff, List.length_map]
  simp only [listings, List.mem_flatMap, List.mem_map]
  constructor
  · intro h r hr id hid
    exact h (r, id) ⟨r, hr, id, hid, rfl⟩
  · rintro h p ⟨r, hr, id, hid, rfl⟩
    exact h r hr id hid

theorem index_eq {groups : List ElevationGroup} (h : (groups.map ElevationGroup.id).Nodup)
    {i j : ℕ} {g g' : ElevationGroup} (hi : groups[i]? = some g) (hj : groups[j]? = some g')
    (hid : g.id = g'.id) : i = j := by
  have hlt : i < (groups.map ElevationGroup.id).length := by
    rw [List.length_map]
    exact (List.getElem?_eq_some_iff.1 hi).1
  apply (List.getElem?_inj hlt h).1
  rw [List.getElem?_map, List.getElem?_map, hi, hj, Option.map_some, Option.map_some, hid]

theorem described_iff_aligned
    (hdistinct : (market.usedElevationGroups.map ElevationGroup.id).Nodup) :
    market.Described ↔ market.Aligned := by
  constructor
  · rintro ⟨descriptions, hdescriptions, hdescribes⟩
    have hfits (k group) (hgroup : market.usedElevationGroups[k]? = some group) :
        market.Describes group (entered market.listings k (describe group)) := by
      have hd := descriptions_getElem? hdescriptions k
      rw [hgroup, Option.map_some] at hd
      exact (hdescribes group (List.mem_of_getElem? hgroup)).2 _ (List.mem_of_getElem? hd)
        foldl_enter_elevationGroup
    constructor
    · exact exists_descriptions_iff.1 ⟨_, hdescriptions⟩
    · intro k group hgroup r hr hne
      have hcontains := (hfits k group hgroup).collateralReserves r.address
      rw [(contains_entered k group r.address 0).1] at hcontains
      have hself (id : ℕ) : (∃ r' ∈ market.getReserves, id ∈ r'.elevationGroups ∧
          r'.address ≠ group.debtReserve ∧ r'.address = r.address) ↔ id ∈ r.elevationGroups := by
        constructor
        · rintro ⟨r', hr', hid, -, haddress⟩
          exact eq_of_address_eq hr' hr haddress ▸ hid
        · exact fun hid ↦ ⟨r, hr, hid, hne, rfl⟩
      rwa [hself, hself] at hcontains
    · intro k group hgroup r hr haddress hmint hid
      have hdebt := (hfits k group hgroup).debtLiquidityMint r hr haddress hid
      rcases @foldl_enter_debtMint ((market.listings.filter (·.2 = k + 1)).map Prod.fst)
        (describe group) with ⟨r', hr', haddress', -⟩ | ⟨-, hnone⟩
      · obtain ⟨hmem, hlisted⟩ := mem_listed.1 hr'
        exact eq_of_address_eq hmem hr (haddress'.trans haddress.symm) ▸ hlisted
      · exact absurd (hdebt.symm.trans hnone) hmint
  · rintro ⟨hrange, hcollateral, hdebt⟩
    obtain ⟨descriptions, hdescriptions⟩ := exists_descriptions_iff.2 hrange
    refine ⟨descriptions, hdescriptions, ?_⟩
    intro group hgroup
    obtain ⟨k, hk⟩ := List.mem_iff_getElem?.1 hgroup
    have hd := descriptions_getElem? hdescriptions k
    rw [hk, Option.map_some] at hd
    refine ⟨⟨_, List.mem_of_getElem? hd, foldl_enter_elevationGroup⟩, ?_⟩
    intro d hmem hid
    obtain ⟨j, hj⟩ := List.mem_iff_getElem?.1 hmem
    have hplace := descriptions_getElem? hdescriptions j
    rw [hj] at hplace
    obtain ⟨other, hother, rfl⟩ := Option.map_eq_some_iff.1 hplace.symm
    obtain rfl : j = k := index_eq hdistinct hother hk
      (Fin.ext (foldl_enter_elevationGroup.symm.trans hid))
    obtain rfl : other = group := Option.some.inj (hother.symm.trans hk)
    have hlists (r) (hr : r ∈ market.getReserves) (p : Prop) :
        (j + 1 ∈ r.elevationGroups ∧ r.address ≠ other.debtReserve ∧ p ↔
          (other.id : ℕ) ∈ r.elevationGroups ∧ r.address ≠ other.debtReserve ∧ p) := by
      rw [← and_assoc, ← and_assoc]
      exact and_congr_left fun _ ↦ and_congr_left fun hne ↦ hcollateral j other hk r hr hne
    constructor
    · intro key
      rw [(contains_entered j other key 0).1]
      exact exists_congr fun r ↦ and_congr_right fun hr ↦ hlists r hr _
    · intro mint
      rw [(contains_entered j other 0 mint).2]
      exact exists_congr fun r ↦ and_congr_right fun hr ↦ hlists r hr _
    · intro r hr haddress hlisted
      rcases @foldl_enter_debtMint ((market.listings.filter (·.2 = j + 1)).map Prod.fst)
        (describe other) with ⟨r', hr', haddress', hmint⟩ | ⟨hnone, hmint⟩
      · exact hmint.trans (congrArg _
          (eq_of_address_eq (mem_listed.1 hr').1 hr (haddress'.trans haddress.symm)))
      · by_cases hzero : r.getLiquidityMint = 0
        · exact hmint.trans hzero.symm
        · have hplaced := hdebt j other hk r hr haddress hzero hlisted
          exact absurd haddress (hnone r (mem_listed.2 ⟨hr, hplaced⟩))

end Described

section Stored

variable {market : KaminoMarket}

/-- The program stores a group at the place before its id. -/
def Stored (market : KaminoMarket) : Prop :=
  ∀ i : Fin 32, (market.state.elevationGroups i).id = 0 ∨
    ((market.state.elevationGroups i).id : ℕ) = i + 1

/-- The ids of the used groups. -/
def usedIds (market : KaminoMarket) : List ℕ := market.usedElevationGroups.map fun g ↦ g.id

theorem Stored.ascending (h : market.Stored) : market.usedIds.Pairwise (· < ·) := by
  rw [usedIds, List.pairwise_map, usedElevationGroups, List.pairwise_filter, List.pairwise_ofFn]
  intro i j hij hi hj
  have hi := (h i).resolve_left (by simpa using hi)
  have hj := (h j).resolve_left (by simpa using hj)
  rw [hi, hj]
  omega

theorem zero_notMem_usedIds : 0 ∉ market.usedIds := by
  intro h
  obtain ⟨g, hg, hid⟩ := List.mem_map.1 h
  have hne := (List.mem_filter.1 hg).2
  simp only [ne_eq, decide_not, Bool.not_eq_eq_eq_not, Bool.not_true, decide_eq_false_iff_not]
    at hne
  exact hne (Fin.ext hid)

/-- In a market of the program the places are listed as the ids are where nothing is unused below
a listed id. -/
theorem aligned_iff_noGaps (hstored : market.Stored)
    (hmints : ∀ r ∈ market.getReserves, r.getLiquidityMint ≠ 0)
    (hpresent : ∀ r ∈ market.getReserves, ∀ id ∈ r.elevationGroups, id ≠ 0 →
      ∃ group ∈ market.usedElevationGroups, (group.id : ℕ) = id) :
    market.Aligned ↔ market.NoGaps := by
  have hascending := hstored.ascending
  have hpositive := @zero_notMem_usedIds market
  have hid {k : ℕ} {group : ElevationGroup} (h : market.usedElevationGroups[k]? = some group) :
      market.usedIds[k]? = some (group.id : ℕ) := by
    rw [usedIds, List.getElem?_map, h, Option.map_some]
  have hmem {i : ℕ} : i ∈ market.usedIds ↔
      ∃ group ∈ market.usedElevationGroups, (group.id : ℕ) = i := List.mem_map
  constructor
  · intro h r hr
    have hplace (id : ℕ) (hlisted : id ∈ r.elevationGroups) (hne : id ≠ 0) :
        market.usedIds[id - 1]? = some id := by
      induction id using Nat.strong_induction_on with
      | _ id ih =>
        obtain ⟨group, hgroup, hgroupId⟩ := hpresent r hr id hlisted hne
        obtain ⟨k, hk⟩ := List.mem_iff_getElem?.1 hgroup
        have hkId := hid hk
        rw [hgroupId] at hkId
        have hle := succ_le_of_ascending hascending hpositive hkId
        rcases hle.lt_or_eq with hlt | rfl
        · have hnext : k + 1 ∈ r.elevationGroups := by
            by_cases hdebt : r.address = group.debtReserve
            · exact h.debt k group hk r hr hdebt (hmints r hr) (hgroupId ▸ hlisted)
            · exact (h.collateral k group hk r hr hdebt).2 (hgroupId ▸ hlisted)
          have hearlier := ih (k + 1) hlt hnext (by omega)
          rw [Nat.add_sub_cancel, hkId, Option.some.injEq] at hearlier
          omega
        · rwa [Nat.add_sub_cancel]
    intro id hlisted i hi hle
    have hlast : market.usedIds[id - 1]? = some (id - 1 + 1) := by
      rw [hplace id hlisted (by omega)]
      congr 1
      omega
    have hi' := getElem?_of_ascending hascending hpositive hlast (show i - 1 ≤ id - 1 by omega)
    rw [Nat.sub_add_cancel hi] at hi'
    exact hmem.1 (List.mem_of_getElem? hi')
  · intro h
    have hfilled {r : KaminoReserve} (hr : r ∈ market.getReserves) {id k : ℕ}
        (hlisted : id ∈ r.elevationGroups) (hk : k < id) : market.usedIds[k]? = some (k + 1) :=
      getElem?_of_filled hascending hpositive
        (fun i hi hle ↦ hmem.2 (h r hr id hlisted i hi hle)) hk
    have hof {r : KaminoReserve} (hr : r ∈ market.getReserves) {k : ℕ} {group : ElevationGroup}
        (hgroup : market.usedElevationGroups[k]? = some group)
        (hlisted : (group.id : ℕ) ∈ r.elevationGroups) : k + 1 ∈ r.elevationGroups := by
      have hlt := succ_le_of_ascending hascending hpositive (hid hgroup)
      have hplace := hfilled hr hlisted hlt
      rw [hid hgroup, Option.some.injEq] at hplace
      exact hplace ▸ hlisted
    constructor
    · intro r hr id hlisted
      rcases Nat.eq_zero_or_pos id with rfl | hpos
      · exact Nat.zero_le _
      · have hplace := hfilled hr hlisted (Nat.sub_one_lt_of_lt hpos)
        have hlt := (List.getElem?_eq_some_iff.1 hplace).1
        rw [usedIds, List.length_map] at hlt
        omega
    · intro k group hgroup r hr _
      constructor
      · intro hlisted
        have hplace := hfilled hr hlisted (Nat.lt_succ_self k)
        rw [hid hgroup, Option.some.injEq] at hplace
        exact hplace ▸ hlisted
      · exact hof hr hgroup
    · intro k group hgroup r hr _ _
      exact hof hr hgroup

end Stored

section Gaps

/-- The descriptions fit exactly where the places of the used groups are listed as their ids are.
In a market of the program that is so where every id up to a listed one is in use. -/
theorem elevationGroups_described_iff (market : KaminoMarket)
    (hdistinct : (market.usedElevationGroups.map ElevationGroup.id).Nodup)
    (hpresent : ∀ r ∈ market.getReserves, ∀ id ∈ r.elevationGroups, id ≠ 0 →
      ∃ group ∈ market.usedElevationGroups, (group.id : ℕ) = id) :
    (market.Described ↔ market.Aligned) ∧
    (market.Stored → (∀ r ∈ market.getReserves, r.getLiquidityMint ≠ 0) →
      (market.Described ↔ market.NoGaps)) := by
  constructor
  · exact described_iff_aligned hdistinct
  · intro hstored hmints
    rw [described_iff_aligned hdistinct, aligned_iff_noGaps hstored hmints hpresent]

/-- A market with two groups in use, and a reserve that lists one of them. -/
def listingMarket (first second listed : U8) : KaminoMarket where
  state := { LendingMarket.init with
    elevationGroups := fun i ↦
      if (i : ℕ) + 1 = first then { (default : ElevationGroup) with id := first, debtReserve := 6 }
      else if (i : ℕ) + 1 = second then
        { (default : ElevationGroup) with id := second, debtReserve := 6 }
      else default }
  reserves := [(7, {
    state := { (default : Reserve) with
      config := { (default : ReserveConfig) with elevationGroups := [listed] }
      liquidity := { (default : Reserve).liquidity with mintPubkey := 1 } }
    address := 7
    tokenOraclePrice := 1
    recentSlotDurationMs := 500 })]
  reserves_nodup := List.nodup_singleton 7
  address_eq := by
    intro entry hentry
    rw [List.mem_singleton.1 hentry]

/-- Group 1 is in use, as is group 3, which no reserve lists. -/
theorem elevationGroups_described_first : (listingMarket 1 3 1).Described := by
  have hlisted : ∀ r ∈ (listingMarket 1 3 1).getReserves, r.elevationGroups = [1] := by
    decide
  have hused : ∃ group ∈ (listingMarket 1 3 1).usedElevationGroups, (group.id : ℕ) = 1 := by
    decide
  have hiff := elevationGroups_described_iff (listingMarket 1 3 1) (by decide)
    (by
      intro r hr id hid _
      rw [hlisted r hr, List.mem_singleton] at hid
      exact hid ▸ hused)
  apply (hiff.2 (by unfold Stored; decide) (by decide)).2
  intro r hr id hid i hpos hle
  rw [hlisted r hr, List.mem_singleton] at hid
  obtain rfl : i = 1 := by omega
  exact hused

/-- Without a group 1 the reserve of group 2 is entered into the description of group 3. -/
theorem elevationGroups_described_gap :
    (listingMarket 2 3 2).Stored ∧
    ((listingMarket 2 3 2).usedElevationGroups.map ElevationGroup.id).Nodup ∧
    (∀ r ∈ (listingMarket 2 3 2).getReserves, r.elevationGroups = [2]) ∧
    (listingMarket 2 3 2).getMarketElevationGroupDescriptions.map (·.map fun d ↦
      (d.elevationGroup, d.collateralReserves.items)) = some [(2, []), (3, [7])] ∧
    ¬ (listingMarket 2 3 2).Described := by
  have hdistinct : ((listingMarket 2 3 2).usedElevationGroups.map ElevationGroup.id).Nodup := by
    decide
  have hlisted : ∀ r ∈ (listingMarket 2 3 2).getReserves, r.elevationGroups = [2] := by
    decide
  refine ⟨by unfold Stored; decide, hdistinct, hlisted, by decide, ?_⟩
  rw [described_iff_aligned hdistinct]
  intro h
  have hsecond : ((listingMarket 2 3 2).usedElevationGroups[0]?).map
      (fun group ↦ ((group.id : ℕ), group.debtReserve)) = some (2, 6) := by decide
  obtain ⟨group, hgroup, hid⟩ := Option.map_eq_some_iff.1 hsecond
  obtain ⟨hid, hdebt⟩ := Prod.mk.inj hid
  have hreserve : ∃ r ∈ (listingMarket 2 3 2).getReserves, r.address ≠ 6 := by decide
  obtain ⟨r, hr, hne⟩ := hreserve
  have hiff := h.collateral 0 group hgroup r hr (hdebt ▸ hne)
  rw [hlisted r hr, hid] at hiff
  exact absurd (hiff.2 (List.mem_singleton_self 2)) (by decide)

end Gaps

end KaminoMarket

end Klend.Sdk
