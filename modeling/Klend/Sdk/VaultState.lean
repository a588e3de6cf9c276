import Klend.State.ReserveConfig

/-! # Vaults of the client

A vault spreads its tokens over reserves: a list of slots with a weight and a cap for each
reserve, where a slot with the default key is free.
-/

namespace Klend.Sdk

/-- A map as the list of its entries. The source groups them by a hash of the key, which changes
nothing but their order. -/
abbrev PubkeyHashMap (V : Type) : Type := List (Pubkey × V)

namespace PubkeyHashMap

variable {V : Type} {m : PubkeyHashMap V} {key other : Pubkey} {value : V}

def get (m : PubkeyHashMap V) (key : Pubkey) : Option V := m.lookup key

def has (m : PubkeyHashMap V) (key : Pubkey) : Bool := (m.get key).isSome

def set (m : PubkeyHashMap V) (key : Pubkey) (value : V) : PubkeyHashMap V :=
  if m.has key then m.map fun entry ↦ if entry.1 = key then (key, value) else entry
  else m ++ [(key, value)]

@[simp] theorem get_nil : get ([] : PubkeyHashMap V) key = none := rfl

theorem get_cons {entry : Pubkey × V} :
    get (entry :: m) key = if key = entry.1 then some entry.2 else get m key := by
  rw [get, List.lookup_cons]
  by_cases h : key = entry.1
  · simp [h]
  · simp [h, get, beq_false_of_ne h]

theorem get_append_single : get (m ++ [(key, value)]) other =
    if get m other = none ∧ other = key then some value else get m other := by
  induction m with
  | nil => simp [get_cons]
  | cons entry m ih =>
    rw [List.cons_append, get_cons, get_cons]
    by_cases h : other = entry.1
    · simp [h]
    · rw [if_neg h, if_neg h, ih]

theorem get_map_set : get (m.map fun entry ↦ if entry.1 = key then (key, value) else entry) other =
    if other = key then (get m other).map fun _ ↦ value else get m other := by
  induction m with
  | nil => simp
  | cons entry m ih =>
    rw [List.map_cons, get_cons, get_cons, ih]
    by_cases hkey : entry.1 = key
    · subst hkey
      by_cases h : other = entry.1 <;> simp [h]
    · by_cases h : other = entry.1
      · subst h
        simp [hkey]
      · simp [hkey, h]

@[simp] theorem get_set_self : (m.set key value).get key = some value := by
  unfold set has
  split
  · next h =>
    obtain ⟨old, hold⟩ := Option.isSome_iff_exists.1 h
    rw [get_map_set, if_pos rfl, hold, Option.map_some]
  · next h =>
    rw [get_append_single, if_pos ⟨Option.not_isSome_iff_eq_none.1 h, rfl⟩]

theorem get_set_of_ne (h : other ≠ key) : (m.set key value).get other = m.get other := by
  unfold set
  split
  · rw [get_map_set, if_neg h]
  · rw [get_append_single, if_neg fun h' ↦ h h'.2]

theorem get_eq_none (h : key ∉ m.map Prod.fst) : m.get key = none := by
  rw [get, List.lookup_eq_none_iff]
  intro entry hentry
  rw [bne_iff_ne]
  rintro rfl
  exact h (List.mem_map_of_mem hentry)

theorem get_eq_some {entry : Pubkey × V} (hkeys : (m.map Prod.fst).Nodup) (h : entry ∈ m) :
    m.get entry.1 = some entry.2 := by
  induction m with
  | nil => cases h
  | cons first m ih =>
    rw [List.map_cons, List.nodup_cons] at hkeys
    rw [get_cons]
    rcases List.mem_cons.1 h with rfl | h
    · rw [if_pos rfl]
    · rw [if_neg, ih hkeys.2 h]
      rintro heq
      exact hkeys.1 (heq ▸ List.mem_map_of_mem h)

theorem set_of_new (h : key ∉ m.map Prod.fst) : m.set key value = m ++ [(key, value)] := by
  rw [set, has, get_eq_none h]
  rfl

theorem foldl_set {entries : List (Pubkey × V)} (h : ((m ++ entries).map Prod.fst).Nodup) :
    entries.foldl (fun m entry ↦ set m entry.1 entry.2) m = m ++ entries := by
  induction entries generalizing m with
  | nil => rw [List.foldl_nil, List.append_nil]
  | cons entry entries ih =>
    have hnew : entry.1 ∉ m.map Prod.fst := by
      intro hmem
      rw [List.map_append, List.map_cons] at h
      exact List.disjoint_of_nodup_append h hmem (List.mem_cons_self ..)
    rw [List.foldl_cons, set_of_new hnew, ih (by rwa [List.append_assoc]), List.append_assoc]
    rfl

end PubkeyHashMap

structure VaultAllocation where
  reserve : Pubkey
  targetAllocationWeight : U64
  /-- Maximum token invested in this reserve -/
  tokenAllocationCap : U64
  ctokenAllocation : U64

/-- A vault. Its slots hold distinct reserves, and a mint has a byte of decimals. -/
structure VaultState where
  tokenAvailable : U64
  sharesMintDecimals : U64
  vaultAllocationStrategy : List VaultAllocation
  reserves_nodup :
    ((vaultAllocationStrategy.filter (·.reserve ≠ 0)).map VaultAllocation.reserve).Nodup
  sharesMintDecimals_lt : (sharesMintDecimals : ℕ) < 2 ^ 8

theorem six_decimals_lt : ((6 : U64) : ℕ) < 2 ^ 8 := by decide

structure ReserveAllocationOverview where
  targetWeight : ℚ
  tokenAllocationCap : ℚ
  ctokenAllocation : ℚ

namespace VaultState

variable (v : VaultState)

/-- The slots that are not free. -/
def occupied : List VaultAllocation := v.vaultAllocationStrategy.filter (·.reserve ≠ 0)

def getVaultReserves : List Pubkey := v.occupied.map VaultAllocation.reserve

def overview (allocation : VaultAllocation) : ReserveAllocationOverview where
  targetWeight := (allocation.targetAllocationWeight : ℕ)
  tokenAllocationCap := (allocation.tokenAllocationCap : ℕ)
  ctokenAllocation := (allocation.ctokenAllocation : ℕ)

def getVaultAllocations : PubkeyHashMap ReserveAllocationOverview :=
  v.occupied.foldl (fun vaultAllocations allocation ↦
    vaultAllocations.set allocation.reserve (overview allocation)) []

theorem getVaultAllocations_eq :
    v.getVaultAllocations = v.occupied.map fun a ↦ (a.reserve, overview a) := by
  have hfold := @PubkeyHashMap.foldl_set _ []
    (v.occupied.map fun a ↦ (a.reserve, overview a))
    (by rw [List.nil_append, List.map_map]; exact v.reserves_nodup)
  rw [List.foldl_map, List.nil_append] at hfold
  exact hfold

theorem getVaultReserves_eq : v.getVaultReserves = v.getVaultAllocations.map Prod.fst := by
  rw [getVaultAllocations_eq, List.map_map]
  rfl

end VaultState

end Klend.Sdk
