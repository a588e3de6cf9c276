import Klend.Lending.RefreshSpecs

/-! # Refreshing twice in one slot

A refresh writes differences into trackers and fee accounts that it shares with
other obligations. When it runs again in its slot every difference is zero: each
step of the second run finds the state that the whole first run left and stores
it back.
-/

namespace Klend

section Loops

variable {σ S : Type} {occupied : σ → Bool} {body : ℕ → S → σ → Pubkey → Result (S × σ)}
  {i : ℕ} {s s' : S} {xs ys : List σ} {ks : List Pubkey}

/-- A second loop over the slots that the first one left. The step at a slot may use what the rest
of the first loop did after that slot. -/
theorem forOccupied_replay (body' : ℕ → S → σ → Pubkey → Result (S × σ)) (echo : S → S)
    (hbody : ∀ j s x k s₁ x₁ ks₁ xs₁, xs[j]? = some x → occupied x = true →
      body (i + j) s x k = .ok (s₁, x₁) →
      forOccupied occupied body (i + j + 1) s₁ (xs.drop (j + 1)) ks₁ = .ok (s', xs₁) →
      occupied x₁ = true ∧ body' (i + j) (echo s) x₁ k = .ok (echo s₁, x₁))
    (h : forOccupied occupied body i s xs ks = .ok (s', ys)) :
    forOccupied occupied body' i (echo s) ys ks = .ok (echo s', ys) := by
  induction xs generalizing i s ks ys with
  | nil =>
    obtain ⟨rfl, rfl⟩ := forOccupied_nil_eq_ok.1 h
    exact forOccupied_nil_eq_ok.2 ⟨rfl, rfl⟩
  | cons x xs ih =>
    have htail : ∀ j s x k s₁ x₁ ks₁ xs₁, xs[j]? = some x → occupied x = true →
        body (i + 1 + j) s x k = .ok (s₁, x₁) →
        forOccupied occupied body (i + 1 + j + 1) s₁ (xs.drop (j + 1)) ks₁ = .ok (s', xs₁) →
        occupied x₁ = true ∧ body' (i + 1 + j) (echo s) x₁ k = .ok (echo s₁, x₁) := by
      intro j s x k s₁ x₁ ks₁ xs₁ hx hocc hb hl
      have hstep := hbody (j + 1) s x k s₁ x₁ ks₁ xs₁ hx hocc
      rw [Nat.add_right_comm i 1 j] at hb hl ⊢
      exact hstep hb hl
    rcases forOccupied_cons_eq_ok.1 h with ⟨hx, k, ks₁, s₁, x₁, xs₁, rfl, hb, hl, rfl⟩ |
      ⟨hx, xs₁, hl, rfl⟩
    · obtain ⟨hx₁, hb'⟩ := hbody 0 s x k s₁ x₁ ks₁ xs₁ rfl hx hb hl
      exact forOccupied_cons_eq_ok.2
        (.inl ⟨hx₁, k, ks₁, echo s₁, x₁, xs₁, rfl, hb', ih htail hl, rfl⟩)
    · exact forOccupied_cons_eq_ok.2 (.inr ⟨hx, xs₁, ih htail hl, rfl⟩)

end Loops

/-- Nothing of a reserve changes but its debt trackers of elevation groups. -/
def Reserve.Regrouped (r r' : Reserve) : Prop :=
  ∃ groups, r' = { r with borrowedAmountsAgainstThisReserveInElevationGroups := groups }

theorem Reserve.Regrouped.refl (r : Reserve) : r.Regrouped r := ⟨_, rfl⟩

theorem Reserve.Regrouped.trans {a b c : Reserve} (h : a.Regrouped b) (h' : b.Regrouped c) :
    a.Regrouped c := by
  obtain ⟨g₁, rfl⟩ := h
  obtain ⟨g₂, rfl⟩ := h'
  exact ⟨g₂, rfl⟩

theorem Reserves.store_eq_self {rs : Reserves} {k : Pubkey} {r : Reserve} (h : rs k = some r) :
    rs.store k r = rs := by
  rw [Reserves.store, ← h, Function.update_eq_self]

/-- The states are still there, for the same referrers and mints. -/
def ReferrerTokenStates.Persist (states states' : ReferrerTokenStates) : Prop :=
  ∀ k st, states k = some st →
    ∃ st', states' k = some st' ∧ st'.referrer = st.referrer ∧ st'.mint = st.mint

theorem ReferrerTokenStates.Persist.refl (states : ReferrerTokenStates) : states.Persist states :=
  fun _ st hst ↦ ⟨st, hst, rfl, rfl⟩

theorem ReferrerTokenStates.Persist.trans {a b c : ReferrerTokenStates} (h : a.Persist b)
    (h' : b.Persist c) : a.Persist c := by
  intro k st hst
  obtain ⟨st₁, hst₁, href₁, hmint₁⟩ := h k st hst
  obtain ⟨st₂, hst₂, href₂, hmint₂⟩ := h' k st₁ hst₁
  exact ⟨st₂, hst₂, href₂.trans href₁, hmint₂.trans hmint₁⟩

theorem approximateCompoundedInterest_zero (rate : Fraction) :
    approximateCompoundedInterest rate 0 = .ok Fraction.one := by
  simp only [approximateCompoundedInterest, if_true, bind_eq_ok, Fraction.divInt_eq_ok, pure_eq_ok]
  exact ⟨⟨rate.bits / slotsPerYear, (Nat.div_le_self _ _).trans_lt rate.isLt⟩,
    ⟨by decide, rfl⟩, trivial⟩

variable {o o' : Obligation} {r r' : Reserve} {rs rs' : Reserves} {market : LendingMarket}
  {slot n : U64} {key : Pubkey} {group : Option ElevationGroup} {iter : List Pubkey}
  {states states' : ReferrerTokenStates} {stateKeys : List ReferrerTokenStateKey}

section Fees

variable {ref : Pubkey} {bps : U16} {slots : U64} {debt prev : Fraction} {hasRef : Bool}
  {it' : List ReferrerTokenStateKey}

theorem accumulateReferrerFees_persist
    (h : accumulateReferrerFees key r ref bps slots debt prev hasRef states stateKeys =
      .ok (r', states', it')) : states.Persist states' := by
  obtain ⟨-, rfl, -⟩ | ⟨fee, pending, -, ⟨k, st, c, u, p, -, hst, -, -, -, -, rfl, -⟩ |
    ⟨p, -, rfl, -, -⟩⟩ := accumulateReferrerFees_spec h
  · exact .refl _
  · intro j st' hst'
    by_cases hj : j = k
    · subst hj
      obtain rfl := Option.some.inj (hst.symm.trans hst')
      exact ⟨_, Function.update_self .., rfl, rfl⟩
    · exact ⟨st', by rwa [Function.update_of_ne hj], rfl, rfl⟩
  · exact .refl _

theorem accumulateReferrerFees_frame
    (h : accumulateReferrerFees key r ref bps slots debt prev hasRef states stateKeys =
      .ok (r', states', it')) :
    ∃ protocolFees referrerFees pendingFees, r' = { r with liquidity := { r.liquidity with
      accumulatedProtocolFeesSf := protocolFees
      accumulatedReferrerFeesSf := referrerFees
      pendingReferrerFeesSf := pendingFees } } := by
  obtain ⟨rfl, -⟩ | ⟨fee, pending, -, ⟨k, st, c, u, p, -, -, -, -, -, -, -, rfl⟩ |
    ⟨p, -, -, -, rfl⟩⟩ := accumulateReferrerFees_spec h
  · exact ⟨_, _, _, rfl⟩
  · exact ⟨_, _, _, rfl⟩
  · exact ⟨_, _, _, rfl⟩

/-- A debt that has not grown since its last refresh earns no fee. -/
theorem accumulateReferrerFees_replay {rF : Reserve}
    (h : accumulateReferrerFees key r ref bps slots debt prev hasRef states stateKeys =
      .ok (r', states', it'))
    (hr : r'.Regrouped rF) {statesF : ReferrerTokenStates} (hstates : states'.Persist statesF) :
    accumulateReferrerFees key rF ref bps 0 debt debt hasRef statesF stateKeys =
      .ok (rF, statesF, it') := by
  obtain ⟨groups, rfl⟩ := hr
  unfold accumulateReferrerFees at h
  dsimp only at h
  split at h
  · next hzero =>
    simp only [pure_eq_ok, Prod.mk.injEq] at h
    obtain ⟨rfl, -, rfl⟩ := h
    simp only [accumulateReferrerFees, if_pos hzero]
    rfl
  · next hne =>
    simp only [bind_eq_ok, Fraction.sub_eq_ok] at h
    obtain ⟨-, -, -, -, -, -, -, -, -, -, -, -, fee, -, pending, -, h⟩ := h
    split at h
    · next href =>
      cases stateKeys with
      | nil => simp at h
      | cons k rest =>
        simp only [addReferrerFee, bind_eq_ok, pure_eq_ok, unwrap_eq_ok, Prod.exists,
          Prod.mk.injEq] at h
        obtain ⟨st, hst, u, hvalid, -, -, ⟨c, -, n, -, p, -, rfl, rfl⟩, rfl, rfl, rfl⟩ := h
        obtain ⟨stF, hstF, hrefF, hmintF⟩ := hstates k _ (Function.update_self ..)
        have hvalidF : validateReferrerTokenState stF k r.liquidity.mintPubkey ref key = .ok () := by
          unfold validateReferrerTokenState at hvalid ⊢
          rw [hrefF, hmintF]
          exact hvalid
        have hsame : Function.update statesF k (some stF) = statesF := by
          rw [← hstF, Function.update_eq_self]
        have hreq : ∀ e, require (Fraction.zero ≤ Fraction.zero) e = .ok () :=
          fun e ↦ require_eq_ok.2 le_rfl
        simp only [accumulateReferrerFees, addReferrerFee, if_neg hne,
          approximateCompoundedInterest_zero, ok_bind, Fraction.sub_self, Fraction.mul_one,
          Fraction.zero_mul, Fraction.zero_min, Fraction.sub_zero, Fraction.add_zero, if_pos href,
          hstF, unwrap, hvalidF, pure_bind, hsame, hreq]
        rfl
    · next href =>
      simp only [bind_eq_ok, pure_eq_ok, Prod.mk.injEq] at h
      obtain ⟨p, -, rfl, rfl, rfl⟩ := h
      have hreq : ∀ e, require (Fraction.zero ≤ Fraction.zero) e = .ok () :=
        fun e ↦ require_eq_ok.2 le_rfl
      simp only [accumulateReferrerFees, if_neg hne,
        approximateCompoundedInterest_zero, ok_bind, Fraction.sub_self, Fraction.mul_one,
        Fraction.zero_mul, Fraction.zero_min, Fraction.sub_zero, Fraction.add_zero, if_neg href,
        hreq]
      rfl

end Fees

section Borrows

theorem trackRefreshedBorrow_replay {b b' bF : ObligationLiquidity} {rF : Reserve}
    (h : trackRefreshedBorrow group key r b n = .ok (r', b'))
    (hconfig : rF.config = r.config)
    (houtside : rF.borrowedAmountOutsideElevationGroup = r'.borrowedAmountOutsideElevationGroup)
    (hslot : bF.borrowedAmountOutsideElevationGroups = b'.borrowedAmountOutsideElevationGroups) :
    trackRefreshedBorrow group key rF bF n = .ok (rF, bF) := by
  obtain ⟨g, rfl, hg, hkey, -, -⟩ | ⟨m, rfl, hm, rfl, rfl⟩ := trackRefreshedBorrow_spec h
  · simp only [trackRefreshedBorrow, bind_eq_ok, require_eq_ok, pure_eq_ok]
    exact ⟨(), hconfig ▸ hg, (), hkey, trivial⟩
  · have hm' : rF.borrowedAmountOutsideElevationGroup = m := houtside
    have hn' : bF.borrowedAmountOutsideElevationGroups = n := hslot
    have hreserve : rF.setDebtOutside m = rF := by rw [← hm']; rfl
    have hborrow : bF.setDebtOutside n = bF := by rw [← hn']; rfl
    simp only [trackRefreshedBorrow, bind_eq_ok, Word.add_eq_ok, Word.saturatingSub_val, pure_eq_ok]
    refine ⟨m, ?_, by rw [hreserve, hborrow]⟩
    rw [hm', hn']
    omega

/-- A debt at its reserve's rate does not grow. -/
theorem accrueInterest_replay {b : ObligationLiquidity} {rate : BigFraction}
    (h : b.cumulativeBorrowRateBsf = rate) : b.accrueInterest rate = .ok b := by
  simp only [ObligationLiquidity.accrueInterest, h, lt_irrefl, if_false, if_true]
  rfl

/-- The state of the loop over the debts, with its shared accounts as a later run finds them. -/
def BorrowsPass.inState (s : BorrowsPass) (rs : Reserves) (states : ReferrerTokenStates)
    (tiers : List U8) (hasDebt : U8) : BorrowsPass :=
  { s with
    reserves := rs, referrerTokenStates := states, borrowsAssetTiers := tiers, hasDebt }

theorem refreshBorrow_replay {index : ℕ} {s s' : BorrowsPass} {b b' : ObligationLiquidity}
    {statesF : ReferrerTokenStates} {tiersF : List U8}
    (h : refreshBorrow o market slot group index s b key = .ok (s', b'))
    (hslot : o'.lastUpdate.slot = slot) (href : o'.referrer = o.referrer)
    (hr : ∀ r, s'.reserves key = some r → ∃ rF, rs' key = some rF ∧ r.Regrouped rF)
    (hstates : s'.referrerTokenStates.Persist statesF)
    (htiers : ∀ r, s'.reserves key = some r → tiersF.set index r.config.assetTier = tiersF) :
    refreshBorrow o' market slot group index (s.inState rs' statesF tiersF 1) b' key =
      .ok (s'.inState rs' statesF tiersF 1, b') := by
  simp only [refreshBorrow, checkObligationLiquidityBorrowReserve, checkObligationReserve,
    bind_eq_ok, require_eq_ok, LastUpdate.requireFresh_eq_ok, pure_eq_ok,
    Reserves.loadRemaining_eq_ok, Prod.exists, Prod.mk.injEq] at h
  obtain ⟨r, ⟨hkey, hr₀⟩, -, ⟨-, hb, -, hfresh, hver⟩, b₁, hb₁, n, hn, acc, hacc, r₁, b₂, htrack,
    slots, hslots, r₂, st₂, it₂, hfees, mv, hmv, bav, hbav, bfmv, hbfmv, bfd, hbfd, _, hd₁, _, hd₂,
    _, hd₃, rfl, rfl⟩ := h
  dsimp only at hr hstates htiers
  obtain ⟨rF, hrF, hregrouped⟩ := hr r₂ (Reserves.store_same ..)
  obtain ⟨groups, hrF₂⟩ := id hregrouped
  have htiers' := htiers r₂ (Reserves.store_same ..)
  obtain ⟨outside, trackers, hr₁⟩ := trackRefreshedBorrow_retracked htrack
  obtain ⟨pf, rf, qf, hr₂⟩ := accumulateReferrerFees_frame hfees
  have hrate : b₁.cumulativeBorrowRateBsf = r.liquidity.cumulativeBorrowRateBsf :=
    (accrueInterest_spec hb₁).1
  have hkey₁ : b₁.borrowReserve = b.borrowReserve := by
    rw [(accrueInterest_spec hb₁).2.2.2]
  have hb₂ : b₂ = b₁.setDebtOutside b₂.borrowedAmountOutsideElevationGroups := by
    obtain ⟨g, -, -, -, -, rfl⟩ | ⟨x, -, -, -, rfl⟩ := trackRefreshedBorrow_spec htrack
    · rfl
    · rfl
  have hfees' := accumulateReferrerFees_replay hfees hregrouped hstates
  simp only [refreshBorrow, checkObligationLiquidityBorrowReserve, checkObligationReserve,
    bind_eq_ok, require_eq_ok, LastUpdate.requireFresh_eq_ok, pure_eq_ok,
    Reserves.loadRemaining_eq_ok, Prod.exists, Prod.mk.injEq]
  refine ⟨rF, ⟨hkey, hrF⟩, (), ⟨(), ?key, (), ?fresh, ?version⟩, _, accrueInterest_replay ?rate, n,
    ?ceil, acc, hacc, rF, _, trackRefreshedBorrow_replay htrack ?config ?outside rfl, 0, ?slots, rF,
    statesF, it₂, ?fees, mv, ?value, bav, hbav, bfmv, ?factor, bfd, hbfd, (), hd₁, (), hd₂, (), hd₃,
    ?pass, rfl⟩
  case key => rw [hb₂]; exact hkey₁.trans hb
  case fresh => rw [hrF₂, hr₂, hr₁]; exact hfresh
  case version => rw [hrF₂, hr₂, hr₁]; exact hver
  case rate => rw [hb₂, hrF₂, hr₂, hr₁]; exact hrate
  case ceil => rw [hb₂]; exact hn
  case config => rw [hrF₂, hr₂, hr₁]
  case outside => rw [hrF₂, hr₂]
  case slots =>
    rw [LastUpdate.slotsElapsed_eq_ok, hslot]
    exact Nat.zero_add _
  case fees =>
    have hamount : b₂.borrowedAmountSf = b₁.borrowedAmountSf := by rw [hb₂]; rfl
    have hreferrer : o'.hasReferrer = o.hasReferrer := by
      rw [Obligation.hasReferrer, href, Obligation.hasReferrer]
    simp only [BorrowsPass.inState, hreferrer, href, hamount]
    exact hfees'
  case value => rw [hrF₂]; exact hmv
  case factor => rw [hrF₂]; exact hbfmv
  case pass =>
    have hstore : rs'.store key rF = rs' := Reserves.store_eq_self hrF
    have htier : rF.config.assetTier = r₂.config.assetTier := by rw [hrF₂]
    have hstatus : rF.lastUpdate.priceStatus = r₂.lastUpdate.priceStatus := by rw [hrF₂]
    have hfactor : rF.borrowFactorF group.isSome = r₂.borrowFactorF group.isSome := by
      rw [hrF₂]; rfl
    simp only [BorrowsPass.inState, hstore, htier, htiers', hstatus, hfactor]

/-- What the steps after a slot leave in place of what its own step wrote. -/
structure BorrowsPass.Keeps (key : Pubkey) (index : ℕ) (s s' : BorrowsPass) : Prop where
  reserve : s'.reserves key = s.reserves key
  states : s.referrerTokenStates.Persist s'.referrerTokenStates
  tier : ∀ t, s.borrowsAssetTiers.set index t = s.borrowsAssetTiers →
    s'.borrowsAssetTiers.set index t = s'.borrowsAssetTiers
  hasDebt : s'.hasDebt = 1

theorem BorrowsPass.Keeps.step {k : Pubkey} {i index : ℕ} {s₀ s s' : BorrowsPass}
    {b b' : ObligationLiquidity} (hs : Keeps k i s₀ s) (hkey : key ≠ k) (hindex : index ≠ i)
    (h : refreshBorrow o market slot group index s b key = .ok (s', b')) : Keeps k i s₀ s' := by
  obtain ⟨r, b₁, m, r₁, b₂, slots, r₂, mv, bfmv, -, -, -, -, -, -, -, -, -, -, hfees, -, -, -, -, hstore,
    -, -, htiers, hdebt, -⟩ := refreshBorrow_spec h
  refine ⟨?_, hs.states.trans (accumulateReferrerFees_persist hfees), fun t ht ↦ ?_, hdebt⟩
  · rw [hstore, Reserves.store_other hkey.symm]
    exact hs.reserve
  · rw [htiers, List.set_comm _ _ hindex, hs.tier t ht]

variable {borrows : RefreshObligationBorrowsResult} {o₁ : Obligation} {rs₁ : Reserves}

/-- No two debts are of one reserve. -/
def Obligation.BorrowsDistinct (o : Obligation) : Prop :=
  ∀ (i j : ℕ) (b c : ObligationLiquidity), o.borrows[i]? = some b → o.borrows[j]? = some c →
    b.borrowReserve ≠ 0 → b.borrowReserve = c.borrowReserve → i = j

/-- The debts of an obligation refreshed again, over the reserves that the collaterals' refresh
left. -/
theorem refreshObligationBorrows_replay
    (h : refreshObligationBorrows o market slot group rs iter states stateKeys =
      .ok (o₁, rs₁, states', borrows))
    (hdistinct : o.BorrowsDistinct)
    (hrs : ∀ k r, rs₁ k = some r → ∃ rF, rs' k = some rF ∧ r.Regrouped rF)
    (hborrows : o'.borrows = o₁.borrows) (htiers : o'.borrowsAssetTiers = o₁.borrowsAssetTiers)
    (hdebt : o'.hasDebt = o₁.hasDebt) (hslot : o'.lastUpdate.slot = slot)
    (href : o'.referrer = o.referrer) :
    refreshObligationBorrows o' market slot group rs' iter states' stateKeys =
      .ok (o', rs', states', borrows) := by
  simp only [refreshObligationBorrows, bind_eq_ok, require_eq_ok, pure_eq_ok, unwrap_eq_ok,
    Prod.exists, Prod.mk.injEq] at h
  obtain ⟨s, slots, hloop, -, hcount, f, hf, pct, hpct, rfl, rfl, rfl, rfl⟩ := h
  -- the second loop runs over the accounts that the whole first refresh leaves
  let echo := fun p : BorrowsPass ↦
    p.inState rs' s.referrerTokenStates s.borrowsAssetTiers s.hasDebt
  have hloop' := forOccupied_replay (refreshBorrow o' market slot group) echo ?step hloop
  · simp only [refreshObligationBorrows, bind_eq_ok, require_eq_ok, pure_eq_ok, unwrap_eq_ok,
      Prod.exists, Prod.mk.injEq, hborrows, htiers, hdebt]
    have hsame : { o' with
        borrows := slots, borrowsAssetTiers := s.borrowsAssetTiers, hasDebt := s.hasDebt } = o' := by
      rw [← show o'.borrows = slots from hborrows,
        ← show o'.borrowsAssetTiers = s.borrowsAssetTiers from htiers,
        ← show o'.hasDebt = s.hasDebt from hdebt]
    exact ⟨echo s, slots, hloop', (), hcount, f, hf, pct, hpct, hsame, rfl, rfl, rfl⟩
  case step =>
    intro j p b k p₁ b₁ ks₁ bs₁ hb hocc hbody hrest
    obtain ⟨r, r', hbk, hk, -, -, hstore, -, hkey, -, -, -, -, hset, hdebt'⟩ :=
      refreshBorrow_slot hbody
    have hkeeps : BorrowsPass.Keeps k (0 + j) p₁ p₁ := ⟨rfl, .refl _, fun _ ht ↦ ht, hdebt'⟩
    have hfinal := (forOccupied_invariant (P := BorrowsPass.Keeps k (0 + j) p₁)
      (Q := fun _ _ ↦ True) (fun _ _ _ ↦ trivial) ?rest hkeeps hrest).1
    · have hp₁ : p₁.reserves k = some r' := by rw [hstore, Reserves.store_same]
      have htier : ∀ r₂, p₁.reserves k = some r₂ →
          s.borrowsAssetTiers.set (0 + j) r₂.config.assetTier = s.borrowsAssetTiers := by
        intro r₂ hr₂
        obtain rfl := Option.some.inj (hp₁.symm.trans hr₂)
        exact hfinal.tier _ (by rw [hset, List.set_set])
      have hreplay := refreshBorrow_replay hbody hslot href
        (fun r₂ hr₂ ↦ hrs k r₂ (hfinal.reserve.trans hr₂)) hfinal.states htier
      rw [← hfinal.hasDebt] at hreplay
      exact ⟨by simpa [ObligationLiquidity.occupied, hkey] using hk, hreplay⟩
    case rest =>
      intro m p₂ c k₂ p₃ c' hc _ hkeeps hstep
      obtain ⟨-, -, hck, -⟩ := refreshBorrow_slot hstep
      rw [List.getElem?_drop] at hc
      refine ⟨hkeeps.step (fun hkk ↦ ?_) (by omega) hstep, trivial⟩
      -- another slot of the same reserve would be a second debt of it
      have := hdistinct j (j + 1 + m) b c hb hc (hbk ▸ hk) (hbk.trans (hkk ▸ hck.symm))
      omega

end Borrows

section Deposits

variable {withDebt : Option (ElevationGroup × U64)}

/-- The reserve's tracker of the group holds at least the group's debt. -/
def Reserve.TracksDebt (withDebt : Option (ElevationGroup × U64)) (r : Reserve) : Prop :=
  ∀ g debt i, withDebt = some (g, debt) → g.getIndex = .ok i → debt ≤ r.debtInGroup i

theorem trackRefreshedDeposit_regrouped {d d' : ObligationCollateral}
    (h : trackRefreshedDeposit withDebt key r d = .ok (r', d')) :
    r.Regrouped r' ∧ r'.TracksDebt withDebt := by
  obtain ⟨rfl, rfl, -⟩ | ⟨g, debt, i, m, rfl, hi, -, -, hm, rfl, -⟩ := trackRefreshedDeposit_spec h
  · exact ⟨.refl _, fun g debt i hnone ↦ by cases hnone⟩
  · refine ⟨⟨_, rfl⟩, fun g₁ debt₁ i₁ hsome hi₁ ↦ ?_⟩
    cases hsome
    obtain rfl : i = i₁ := Except.ok.inj (hi.symm.trans hi₁)
    have hset : (r.setDebtInGroup i m).debtInGroup i = m := Function.update_self ..
    rw [hset, Fin.le_def, hm]
    exact Nat.le_add_left _ _

theorem trackRefreshedDeposit_replay {d d' dF : ObligationCollateral} {rF : Reserve}
    (h : trackRefreshedDeposit withDebt key r d = .ok (r', d')) (hconfig : rF.config = r.config)
    (htracked : rF.TracksDebt withDebt)
    (hslot : dF.borrowedAmountAgainstThisCollateralInElevationGroup =
      d'.borrowedAmountAgainstThisCollateralInElevationGroup) :
    trackRefreshedDeposit withDebt key rF dF = .ok (rF, dF) := by
  obtain ⟨rfl, -, -⟩ | ⟨g, debt, i, m, rfl, hi, hg, hkey, -, -, rfl⟩ := trackRefreshedDeposit_spec h
  · rfl
  · have hle : debt ≤ rF.debtInGroup i := htracked g debt i rfl hi
    have hd : dF.borrowedAmountAgainstThisCollateralInElevationGroup = debt := hslot
    have hreserve : rF.setDebtInGroup i (rF.debtInGroup i) = rF := by
      rw [Reserve.setDebtInGroup, Reserve.debtInGroup, Function.update_eq_self]
    have hdeposit : dF.setDebtInGroup debt = dF := by rw [← hd]; rfl
    simp only [trackRefreshedDeposit, bind_eq_ok, require_eq_ok, Word.add_eq_ok,
      Word.saturatingSub_val, pure_eq_ok]
    refine ⟨i, hi, (), hconfig ▸ hg, (), hkey, rF.debtInGroup i, ?_, by rw [hreserve, hdeposit]⟩
    rw [hd]
    exact (Nat.sub_add_cancel (Fin.le_def.1 hle)).symm

/-- The state of the loop over the collaterals, with its shared accounts as a later run finds
them. -/
def DepositsPass.inState (s : DepositsPass) (rs : Reserves) (tiers : List U8) : DepositsPass :=
  { s with reserves := rs, depositsAssetTiers := tiers }

theorem refreshDeposit_replay {index : ℕ} {s s' : DepositsPass} {d d' : ObligationCollateral}
    {tiersF : List U8}
    (h : refreshDeposit market slot group withDebt index s d key = .ok (s', d'))
    (hr : ∀ r, s'.reserves key = some r →
      ∃ rF, rs' key = some rF ∧ r.Regrouped rF ∧ rF.TracksDebt withDebt)
    (htiers : ∀ r, s'.reserves key = some r → tiersF.set index r.config.assetTier = tiersF) :
    refreshDeposit market slot group withDebt index (s.inState rs' tiersF) d' key =
      .ok (s'.inState rs' tiersF, d') := by
  simp only [refreshDeposit, checkObligationCollateralDepositReserve, checkObligationReserve,
    bind_of_ite, bind_eq_ok, require_eq_ok, LastUpdate.requireFresh_eq_ok, pure_eq_ok,
    Reserves.loadRemaining_eq_ok, Prod.exists, Prod.mk.injEq] at h
  obtain ⟨r, ⟨hkey, hr₀⟩, status, hstatus, obsolete, hobsolete, _, ⟨_, hd, _, hfresh, hver⟩, r₁, d₁,
    htrack, mv, hmv, dv, hdv, al, hal, abv, habv, un, hun, ubv, hubv, rate, hrate, amount, hamount, _,
    hd₁, _, hd₂, rfl, rfl⟩ := h
  dsimp only at hr htiers
  obtain ⟨rF, hrF, hregrouped, htracked⟩ := hr r₁ (Reserves.store_same ..)
  obtain ⟨groups, hrF₂⟩ := hregrouped
  have htiers' := htiers r₁ (Reserves.store_same ..)
  obtain ⟨trackers, hr₁⟩ := (trackRefreshedDeposit_regrouped htrack).1
  have hd₁' : d₁ =
      d.setDebtInGroup d₁.borrowedAmountAgainstThisCollateralInElevationGroup := by
    obtain ⟨-, -, rfl⟩ | ⟨g, debt, i, m, -, -, -, -, -, -, rfl⟩ := trackRefreshedDeposit_spec htrack
    · rfl
    · rfl
  have hrF₃ : rF = { r with borrowedAmountsAgainstThisReserveInElevationGroups := groups } := by
    rw [hrF₂, hr₁]
  simp only [refreshDeposit, checkObligationCollateralDepositReserve, checkObligationReserve,
    bind_of_ite, bind_eq_ok, require_eq_ok, LastUpdate.requireFresh_eq_ok, pure_eq_ok,
    Reserves.loadRemaining_eq_ok, Prod.exists, Prod.mk.injEq]
  refine ⟨rF, ⟨hkey, hrF⟩, status, ?status, obsolete, ?obsolete, (), ⟨(), ?key, (), ?fresh, ?version⟩,
    rF, _, trackRefreshedDeposit_replay htrack ?config htracked rfl, mv, ?value, dv, ?sum, al, ?al, abv,
    habv, un, ?un, ubv, hubv, rate, ?rate, amount, ?amount, (), hd₁, (), hd₂, ?pass, rfl⟩
  case status => rw [hrF₃]; exact hstatus
  case obsolete => exact hobsolete
  case key => rw [hd₁']; exact hd
  case fresh => rw [hrF₃]; exact hfresh
  case version => rw [hrF₃]; exact hver
  case config => rw [hrF₃]
  case value => rw [hrF₂]; exact hmv
  case sum => exact hdv
  case al => rw [hrF₂]; exact hal
  case un => rw [hrF₂]; exact hun
  case rate => rw [hrF₂]; exact hrate
  case amount => exact hamount
  case pass =>
    have hstore : rs'.store key rF = rs' := Reserves.store_eq_self hrF
    have hconfig : rF.config = r₁.config := by rw [hrF₂]
    have hstatus : rF.lastUpdate.priceStatus = r₁.lastUpdate.priceStatus := by rw [hrF₂]
    have hltv : getMaxLtvAndLiquidationThreshold rF group =
        getMaxLtvAndLiquidationThreshold r₁ group := by rw [hrF₂]; rfl
    have hdisabled : r.config = r₁.config := by rw [hr₁]
    have hdeposited : d₁.depositedAmount = d.depositedAmount := by rw [hd₁']; rfl
    simp only [DepositsPass.inState, hstore, hconfig, htiers', hstatus, hltv, hdisabled, hdeposited]

/-- What the steps after a slot leave in place of what its own step wrote; another slot of the same
reserve may rebase the tracker once more. -/
structure DepositsPass.Keeps (withDebt : Option (ElevationGroup × U64)) (key : Pubkey) (index : ℕ)
    (s s' : DepositsPass) : Prop where
  reserve : ∀ r, s.reserves key = some r →
    ∃ r', s'.reserves key = some r' ∧ r.Regrouped r' ∧ r'.TracksDebt withDebt
  tier : ∀ t, s.depositsAssetTiers.set index t = s.depositsAssetTiers →
    s'.depositsAssetTiers.set index t = s'.depositsAssetTiers

theorem DepositsPass.Keeps.step {k : Pubkey} {i index : ℕ} {s₀ s s' : DepositsPass}
    {d d' : ObligationCollateral} (hs : Keeps withDebt k i s₀ s) (hindex : index ≠ i)
    (h : refreshDeposit market slot group withDebt index s d key = .ok (s', d')) :
    Keeps withDebt k i s₀ s' := by
  obtain ⟨r, r₁, d₁, mv, al, un, -, hr, -, -, -, htrack, -, -, -, -, -, -, hstore, -, htiers,
    -⟩ := refreshDeposit_spec h
  refine ⟨fun r₀ hr₀ ↦ ?_, fun t ht ↦ ?_⟩
  · obtain ⟨r₂, hr₂, hregrouped, htracked⟩ := hs.reserve r₀ hr₀
    rw [hstore]
    by_cases hk : k = key
    · subst hk
      obtain rfl := Option.some.inj (hr.symm.trans hr₂)
      obtain ⟨hregrouped', htracked'⟩ := trackRefreshedDeposit_regrouped htrack
      exact ⟨r₁, Reserves.store_same .., hregrouped.trans hregrouped', htracked'⟩
    · exact ⟨r₂, by rwa [Reserves.store_other hk], hregrouped, htracked⟩
  · rw [htiers, List.set_comm _ _ hindex, hs.tier t ht]

variable {check : MaxReservesAsCollateralCheck} {debt : Option U64} {o₁ : Obligation}
  {rs₁ : Reserves} {deposits : RefreshObligationDepositsResult}

/-- The collaterals' refresh changes nothing of a reserve but its trackers of elevation groups. -/
theorem refreshObligationDeposits_regrouped
    (h : refreshObligationDeposits o market slot check group rs iter debt = .ok (o₁, rs₁, deposits))
    (hr : rs key = some r) : ∃ r', rs₁ key = some r' ∧ r.Regrouped r' := by
  obtain ⟨-, s, slots, hloop, -, rfl, -⟩ := refreshObligationDeposits_spec h
  refine (forOccupied_invariant (Q := fun _ _ ↦ True)
    (P := fun s : DepositsPass ↦ ∃ r', s.reserves key = some r' ∧ r.Regrouped r')
    (fun _ _ _ ↦ trivial) ?step ⟨r, hr, .refl r⟩ hloop).1
  intro _ p d k p' d' _ _ hP hbody
  obtain ⟨r', hr', hregrouped⟩ := hP
  obtain ⟨r₂, r₃, d₁, mv, al, un, -, hr₂, -, -, -, htrack, -, -, -, -, -, -, hstore, -⟩ :=
    refreshDeposit_spec hbody
  refine ⟨?_, trivial⟩
  rw [hstore]
  by_cases hk : key = k
  · subst hk
    obtain rfl := Option.some.inj (hr₂.symm.trans hr')
    exact ⟨r₃, Reserves.store_same .., hregrouped.trans (trackRefreshedDeposit_regrouped htrack).1⟩
  · exact ⟨r', by rwa [Reserves.store_other hk], hregrouped⟩

theorem refreshDeposits_loop_replay {s₀ s : DepositsPass} {ds slots : List ObligationCollateral}
    (hloop : forOccupied ObligationCollateral.occupied
      (refreshDeposit market slot group withDebt) 0 s₀ ds iter = .ok (s, slots)) :
    forOccupied ObligationCollateral.occupied (refreshDeposit market slot group withDebt) 0
      (s₀.inState s.reserves s.depositsAssetTiers) slots iter = .ok (s, slots) := by
  refine forOccupied_replay (refreshDeposit market slot group withDebt)
    (fun p ↦ p.inState s.reserves s.depositsAssetTiers) ?_ hloop
  intro j p d k p₁ d₁ ks₁ ds₁ hd hocc hbody hrest
  obtain ⟨-, -, -, hk, -, -, -, hkey, -⟩ := refreshDeposit_slot hbody
  obtain ⟨r, r₁, d₂, mv, al, un, -, -, -, -, -, htrack, -, -, -, -, -, -, hstore, -, hset, -⟩ :=
    refreshDeposit_spec hbody
  have hp₁ : p₁.reserves k = some r₁ := by rw [hstore, Reserves.store_same]
  have hkeeps : DepositsPass.Keeps withDebt k (0 + j) p₁ p₁ := by
    refine ⟨fun r₂ hr₂ ↦ ?_, fun _ ht ↦ ht⟩
    obtain rfl := Option.some.inj (hp₁.symm.trans hr₂)
    exact ⟨r₁, hp₁, .refl _, (trackRefreshedDeposit_regrouped htrack).2⟩
  have hfinal := (forOccupied_invariant (P := DepositsPass.Keeps withDebt k (0 + j) p₁)
    (Q := fun _ _ ↦ True) (fun _ _ _ ↦ trivial)
    (fun m _ _ _ _ _ _ _ hkeeps hstep ↦ ⟨hkeeps.step (by omega) hstep, trivial⟩) hkeeps hrest).1
  have htier : ∀ r₂, p₁.reserves k = some r₂ →
      s.depositsAssetTiers.set (0 + j) r₂.config.assetTier = s.depositsAssetTiers := by
    intro r₂ hr₂
    obtain rfl := Option.some.inj (hp₁.symm.trans hr₂)
    exact hfinal.tier _ (by rw [hset, List.set_set])
  exact ⟨by simpa [ObligationCollateral.occupied, hkey] using hk,
    refreshDeposit_replay hbody hfinal.reserve htier⟩

theorem refreshObligationDeposits_replay
    (h : refreshObligationDeposits o market slot check group rs iter debt = .ok (o₁, rs₁, deposits))
    (hdeposits : o'.deposits = o₁.deposits)
    (htiers : o'.depositsAssetTiers = o₁.depositsAssetTiers) :
    refreshObligationDeposits o' market slot check group rs₁ iter debt =
      .ok (o', rs₁, deposits) := by
  have hsame : { o' with
      deposits := o₁.deposits, depositsAssetTiers := o₁.depositsAssetTiers } = o' := by
    rw [← hdeposits, ← htiers]
  unfold refreshObligationDeposits at h ⊢
  cases group with
  | none =>
    cases debt with
    | some n => simp at h
    | none =>
      simp only [bind_eq_ok, pure_eq_ok, Prod.exists, Prod.mk.injEq] at h ⊢
      obtain ⟨w, hw, s, slots, hloop, rfl, rfl, rfl⟩ := h
      rw [hdeposits, htiers]
      exact ⟨w, hw, s, slots, refreshDeposits_loop_replay hloop, hsame, rfl, rfl⟩
  | some g =>
    cases debt with
    | none => simp at h
    | some n =>
      simp only [bind_eq_ok, require_eq_ok, pure_eq_ok, Prod.exists, Prod.mk.injEq] at h ⊢
      obtain ⟨w, hw, s, slots, hloop, _, hcount, rfl, rfl, rfl⟩ := h
      rw [hdeposits, htiers]
      exact ⟨w, hw, s, slots, refreshDeposits_loop_replay hloop, (), hcount, hsame, rfl, rfl⟩

end Deposits

theorem refreshObligation_replay {check : MaxReservesAsCollateralCheck} {iter' : List Pubkey}
    (hdistinct : o.BorrowsDistinct)
    (h : refreshObligation o market slot check rs iter iter' states stateKeys =
      .ok (o', rs', states')) :
    refreshObligation o' market slot check rs' iter iter' states' stateKeys =
      .ok (o', rs', states') := by
  obtain ⟨group, o₁, rs₁, borrows, o₂, deposits, hgroup, hb, hd, rfl⟩ := refreshObligation_spec h
  have hframe₁ := (refreshObligationBorrows_frame hb).2.2
  have hframe₂ := (refreshObligationDeposits_frame hd).2.2
  simp only [refreshObligation, bind_eq_ok, pure_eq_ok, Prod.exists, Prod.mk.injEq]
  refine ⟨group, ?group, _, rs', states', borrows,
    refreshObligationBorrows_replay hb hdistinct
      (fun _ _ hr ↦ refreshObligationDeposits_regrouped hd hr) ?borrows ?tiers ?debt rfl ?referrer,
    _, rs', deposits, refreshObligationDeposits_replay hd rfl rfl, rfl, rfl, rfl⟩
  case group =>
    have hsame : o₂.elevationGroup = o.elevationGroup := by rw [hframe₂, hframe₁]
    rw [← hsame] at hgroup
    exact hgroup
  case borrows => rw [hframe₂]
  case tiers => rw [hframe₂]
  case debt => rw [hframe₂]
  case referrer => rw [hframe₂, hframe₁]

/-- A refresh keeps what decides which accounts it needs. -/
theorem refreshObligation_slots {check : MaxReservesAsCollateralCheck} {iter' : List Pubkey}
    (h : refreshObligation o market slot check rs iter iter' states stateKeys =
      .ok (o', rs', states')) :
    o'.lendingMarket = o.lendingMarket ∧ o'.referrer = o.referrer ∧
      o'.depositsCount = o.depositsCount ∧ o'.borrowsCount = o.borrowsCount := by
  obtain ⟨group, o₁, rs₁, borrows, o₂, deposits, -, hb, hd, rfl⟩ := refreshObligation_spec h
  obtain ⟨-, hborrows, hframe₁⟩ := refreshObligationBorrows_frame hb
  obtain ⟨-, hdeposits, hframe₂⟩ := refreshObligationDeposits_frame hd
  have ho₁ : o₁.deposits = o.deposits := by rw [hframe₁]
  have ho₂ : o₂.borrows = o₁.borrows := by rw [hframe₂]
  refine ⟨by rw [hframe₂, hframe₁], by rw [hframe₂, hframe₁], ?_, ?_⟩
  · show o₂.deposits.countP _ = o.deposits.countP _
    rw [← ho₁]
    exact SlotTable.countP_eq_of_forall₂ (hdeposits.imp fun d d' hd ↦ by rw [hd.key_eq])
  · show o₂.borrows.countP _ = o.borrows.countP _
    rw [ho₂]
    exact SlotTable.countP_eq_of_forall₂ (hborrows.imp fun b b' hb ↦ by rw [hb.key_eq])

end Klend
