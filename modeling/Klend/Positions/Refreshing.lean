import Klend.Accounting.Evolution
import Klend.Lending.InstructionSpecs
import Klend.Lending.RefreshReplay
import Klend.Lending.RepayAndWithdraw

/-! # Refreshing reserves again

A reserve that was refreshed in this slot is settled: another refresh with the price that
it holds changes nothing. Refreshing a list of reserves therefore comes down to refreshing
those that are not.
-/

namespace Klend

variable {r r' : Reserve} {clock : Clock} {bps : U16}

/-- Refreshed in this slot. -/
structure Reserve.Settled (clock : Clock) (r : Reserve) : Prop where
  fresh : r.lastUpdate.stale = false
  slot : r.lastUpdate.slot = clock.slot

/-- What an oracle gives whose price the reserve holds already. -/
def Reserve.savedPrice (r : Reserve) : GetPriceResult where
  price := r.liquidity.marketPriceSf
  status := r.lastUpdate.priceStatus
  timestamp := r.liquidity.marketPriceLastUpdatedTs

theorem Reserve.accrueInterest_fresh (h : r.lastUpdate.slot = clock.slot) :
    r.accrueInterest clock.slot bps = .ok r := by
  have helapsed : r.lastUpdate.slotsElapsed clock.slot = .ok 0 := by
    rw [LastUpdate.slotsElapsed_eq_ok, h]
    exact Nat.zero_add _
  rw [accrueInterest, helapsed]
  rfl

theorem refreshReserve_savedPrice :
    refreshReserve r clock (some r.savedPrice) bps = (do
      let r₁ ← r.accrueInterest clock.slot bps
      pure { r₁ with lastUpdate := r₁.lastUpdate.updateSlot clock.slot .none }) := by
  rw [refreshReserve]
  cases hr₁ : r.accrueInterest clock.slot bps with
  | error e => rfl
  | ok r₁ =>
    obtain ⟨-, hupdate, hts, hprice⟩ := Reserve.accrueInterest_keepsPrice hr₁
    rw [ok_bind, ok_bind, Reserve.savedPrice, ← hupdate, ← hts, ← hprice]
    rfl

/-- A price that is not too old is kept by a refresh without a price. -/
theorem refreshReserve_of_priceAgeValid (hage : isSavedPriceAgeValid r clock = .ok true) :
    refreshReserve r clock none bps = refreshReserve r clock (some r.savedPrice) bps := by
  rw [refreshReserve_savedPrice, refreshReserve]
  cases hr₁ : r.accrueInterest clock.slot bps with
  | error e => rfl
  | ok r₁ =>
    obtain ⟨hconfig, -, hts, -⟩ := Reserve.accrueInterest_keepsPrice hr₁
    have hage₁ : isSavedPriceAgeValid r₁ clock = .ok true := by
      rw [← hage, isSavedPriceAgeValid, isSavedPriceAgeValid, hconfig, hts]
    rw [ok_bind, ok_bind, hage₁]
    rfl

/-- The checks are not passed any more if the price is too old. -/
theorem priceAgeValid_of_refresh (h : refreshReserve r clock none bps = .ok r')
    (hstatus : r'.lastUpdate.priceStatus.contains .allChecks) :
    isSavedPriceAgeValid r clock = .ok true := by
  simp only [refreshReserve, bind_eq_ok, pure_eq_ok] at h
  obtain ⟨r₁, hr₁, valid, hvalid, rfl⟩ := h
  obtain ⟨hconfig, -, hts, -⟩ := Reserve.accrueInterest_keepsPrice hr₁
  cases valid with
  | true => rw [← hvalid, isSavedPriceAgeValid, isSavedPriceAgeValid, hconfig, hts]
  | false => exact absurd hstatus (show ¬ PriceStatusFlags.none.contains .allChecks by decide)

theorem Reserve.Settled.refreshReserve (h : r.Settled clock) :
    refreshReserve r clock (some r.savedPrice) bps = .ok r := by
  rw [refreshReserve_savedPrice, accrueInterest_fresh h.slot, ok_bind, LastUpdate.updateSlot,
    ← h.slot, ← h.fresh]
  rfl

theorem refreshReserve_settled {price : Option GetPriceResult}
    (h : refreshReserve r clock price bps = .ok r') :
    r'.Settled clock ∧ r'.lendingMarket = r.lendingMarket := by
  have hmarket : ∀ r₁, r.accrueInterest clock.slot bps = .ok r₁ →
      r₁.lendingMarket = r.lendingMarket := by
    intro r₁ hr₁
    obtain ⟨-, ⟨-, rfl⟩ | ⟨n, rate, l, -, -, -, -, rfl⟩⟩ :=
      Reserve.accrueInterest_cases hr₁ <;> rfl
  cases price with
  | none =>
    simp only [refreshReserve, bind_eq_ok, pure_eq_ok] at h
    obtain ⟨r₁, hr₁, valid, -, rfl⟩ := h
    exact ⟨⟨rfl, rfl⟩, hmarket r₁ hr₁⟩
  | some p =>
    simp only [refreshReserve, bind_eq_ok, pure_eq_ok] at h
    obtain ⟨r₁, hr₁, rfl⟩ := h
    exact ⟨⟨rfl, rfl⟩, hmarket r₁ hr₁⟩

theorem Reserve.Settled.rebooked (h : r.Settled clock) (hr : r.Rebooked r') :
    r'.Settled clock ∧ r'.lendingMarket = r.lendingMarket := by
  obtain ⟨_, _, _, _, _, rfl⟩ := hr
  exact ⟨⟨h.fresh, h.slot⟩, rfl⟩

namespace World

variable {w w' : World} {j k : Pubkey} {ks : List Pubkey}

/-- The reserve at the key can be loaded, and refreshing it changes nothing. -/
def SettledAt (w : World) (clock : Clock) (k : Pubkey) : Prop :=
  ∃ r, w.loadReserve k = .ok r ∧ r.Settled clock

/-- `refresh_reserve` on a reserve account, with the price that it holds: asked again in the slot, the
oracle gives the same. -/
def refreshSavedAt (w : World) (clock : Clock) (key : Pubkey) : Result World := do
  let reserve ← w.loadReserve key
  let reserve ← Klend.refreshReserve reserve clock (some reserve.savedPrice)
    w.lendingMarket.referralFeeBps
  pure (w.storeReserve key reserve)

theorem refreshReserveAt_spec (h : w.refreshReserveAt clock k = .ok w') :
    ∃ r r', w.loadReserve k = .ok r ∧
      Klend.refreshReserve r clock none w.lendingMarket.referralFeeBps = .ok r' ∧
      w' = w.storeReserve k r' := by
  simp only [refreshReserveAt, bind_eq_ok, pure_eq_ok] at h
  obtain ⟨r, hr, r', hr', rfl⟩ := h
  exact ⟨r, r', hr, hr', rfl⟩

theorem refreshSavedAt_spec (h : w.refreshSavedAt clock k = .ok w') :
    ∃ r r', w.loadReserve k = .ok r ∧ Klend.refreshReserve r clock (some r.savedPrice)
      w.lendingMarket.referralFeeBps = .ok r' ∧ w' = w.storeReserve k r' := by
  simp only [refreshSavedAt, bind_eq_ok, pure_eq_ok] at h
  obtain ⟨r, hr, r', hr', rfl⟩ := h
  exact ⟨r, r', hr, hr', rfl⟩

theorem SettledAt.refreshSavedAt (h : w.SettledAt clock k) :
    w.refreshSavedAt clock k = .ok w := by
  rcases h with ⟨r, hr, hsettled⟩
  simp only [World.refreshSavedAt, bind_eq_ok, pure_eq_ok]
  refine ⟨r, hr, r, hsettled.refreshReserve, ?_⟩
  rw [storeReserve, Reserves.store_eq_self (loadReserve_eq_ok.1 hr).2.1]

/-- With a price that is not too old it is no matter whether the refresh gets it again. -/
theorem refreshReserveAt_eq {r : Reserve} (hr : w.loadReserve k = .ok r)
    (hage : isSavedPriceAgeValid r clock = .ok true) :
    w.refreshReserveAt clock k = w.refreshSavedAt clock k := by
  rw [refreshReserveAt, World.refreshSavedAt, hr, ok_bind, ok_bind,
    refreshReserve_of_priceAgeValid hage]

/-- A reserve stays settled as long as only its trackers and fees change. -/
theorem SettledAt.of_rebooked (h : w.SettledAt clock k)
    (hr : ∀ r, w.reserves k = some r → ∃ r', w'.reserves k = some r' ∧ r.Rebooked r')
    (hpk : w'.lendingMarketPk = w.lendingMarketPk) : w'.SettledAt clock k := by
  rcases h with ⟨r, hload, hsettled⟩
  obtain ⟨hk, hr₀, hm⟩ := loadReserve_eq_ok.1 hload
  rcases hr r hr₀ with ⟨r', hr', hbook⟩
  obtain ⟨hsettled', hm'⟩ := hsettled.rebooked hbook
  exact ⟨r', loadReserve_eq_ok.2 ⟨hk, hr', by rw [hm', hm, hpk]⟩, hsettled'⟩

theorem refreshSavedAt_settledAt (h : w.refreshSavedAt clock j = .ok w') :
    w'.SettledAt clock j ∧ ∀ k, w.SettledAt clock k → w'.SettledAt clock k := by
  obtain ⟨r, r', hload, hr', rfl⟩ := refreshSavedAt_spec h
  obtain ⟨hk, -, hm⟩ := loadReserve_eq_ok.1 hload
  obtain ⟨hsettled, hm'⟩ := refreshReserve_settled hr'
  have hat : (w.storeReserve j r').SettledAt clock j :=
    ⟨r', loadReserve_eq_ok.2 ⟨hk, Reserves.store_same _ _ _, by rw [hm', hm]; rfl⟩, hsettled⟩
  refine ⟨hat, fun k hkept ↦ ?_⟩
  by_cases hjk : k = j
  · exact hjk ▸ hat
  · refine hkept.of_rebooked (fun r hr ↦ ⟨r, ?_, .refl r⟩) rfl
    exact (Reserves.store_other hjk).trans hr

def refreshReserves (w : World) (clock : Clock) : List Pubkey → Result World
  | [] => pure w
  | k :: ks => do
    let w ← w.refreshSavedAt clock k
    w.refreshReserves clock ks

theorem refreshReserves_settledAt (h : w.refreshReserves clock ks = .ok w') :
    (∀ k ∈ ks, w'.SettledAt clock k) ∧ ∀ k, w.SettledAt clock k → w'.SettledAt clock k := by
  induction ks generalizing w with
  | nil =>
    obtain rfl := pure_eq_ok.1 h
    exact ⟨fun k hk ↦ absurd hk List.not_mem_nil, fun k hk ↦ hk⟩
  | cons j ks ih =>
    obtain ⟨w₁, hstep, hrest⟩ := bind_eq_ok.1 h
    obtain ⟨hat, hkept⟩ := refreshSavedAt_settledAt hstep
    obtain ⟨hall, hkept'⟩ := ih hrest
    refine ⟨fun k hk ↦ ?_, fun k hk ↦ hkept' k (hkept k hk)⟩
    rcases List.mem_cons.1 hk with rfl | hk
    · exact hkept' k hat
    · exact hall k hk

theorem refreshReserves_of_settledAt (h : ∀ k ∈ ks, w.SettledAt clock k) :
    w.refreshReserves clock ks = .ok w := by
  induction ks with
  | nil => rfl
  | cons k ks ih =>
    rw [refreshReserves, (h k List.mem_cons_self).refreshSavedAt]
    exact ih fun k hk ↦ h k (List.mem_cons_of_mem _ hk)

/-- If only one reserve may be unsettled, it is the only one that a refresh changes. -/
theorem refreshReserves_eq (h : ∀ k ∈ ks, k ≠ j → w.SettledAt clock k) :
    w.refreshReserves clock ks = if j ∈ ks then w.refreshSavedAt clock j else .ok w := by
  induction ks with
  | nil => rfl
  | cons k ks ih =>
    have hrest : ∀ k ∈ ks, k ≠ j → w.SettledAt clock k :=
      fun k hk ↦ h k (List.mem_cons_of_mem _ hk)
    by_cases hkj : k = j
    · subst hkj
      rw [if_pos List.mem_cons_self, refreshReserves]
      cases hstep : w.refreshSavedAt clock k with
      | error e => rfl
      | ok w₁ =>
        obtain ⟨hat, hkept⟩ := refreshSavedAt_settledAt hstep
        refine refreshReserves_of_settledAt fun l hl ↦ ?_
        by_cases hlk : l = k
        · exact hlk ▸ hat
        · exact hkept l (hrest l hl hlk)
    · have hmem : j ∈ k :: ks ↔ j ∈ ks :=
        List.mem_cons.trans (or_iff_right (Ne.symm hkj))
      rw [refreshReserves, (h k List.mem_cons_self hkj).refreshSavedAt]
      simp only [hmem]
      exact ih hrest

end World

end Klend
