import Klend.Library.FixedWindow
import Klend.State.WithdrawalCaps

/-! # What a withdrawal cap lets out

The counter of a cap is the net amount since its last reset. Once additions start
from a counter that is not negative, no window lets out more than twice the
capacity.
-/

namespace Klend

structure CapOperation where
  action : WithdrawalCapAction
  amount : U64
  timestamp : U64

namespace CapOperation

def signed (op : CapOperation) : ℤ :=
  match op.action with
  | .add => (op.amount : ℕ)
  | .remove => -(op.amount : ℕ)

def net (ops : List CapOperation) : ℤ := (ops.map signed).sum

def event (op : CapOperation) : FixedWindow.Event := ⟨op.timestamp, op.amount⟩

end CapOperation

namespace WithdrawalCaps

def execute (caps : WithdrawalCaps) (op : CapOperation) : Result WithdrawalCaps :=
  match op.action with
  | .add => caps.addToWithdrawalAccum op.amount op.timestamp
  | .remove => caps.subFromWithdrawalAccum op.amount op.timestamp

/-- The operations succeed one after the other. -/
def Runs (caps : WithdrawalCaps) : List CapOperation → WithdrawalCaps → Prop
  | [], caps' => caps' = caps
  | op :: ops, caps' => ∃ mid, caps.execute op = .ok mid ∧ mid.Runs ops caps'

/-- The interval of the cap has passed when the operation comes. -/
def Elapsed (caps : WithdrawalCaps) (op : CapOperation) : Prop :=
  caps.lastIntervalStartTimestamp + (caps.configIntervalLengthSeconds : ℕ) ≤ op.timestamp

instance (caps : WithdrawalCaps) (op : CapOperation) : Decidable (caps.Elapsed op) :=
  inferInstanceAs (Decidable (_ ≤ _))

/-- The configuration of the cap. -/
def SameConfig (caps caps' : WithdrawalCaps) : Prop :=
  caps'.configCapacity = caps.configCapacity ∧
    caps'.configIntervalLengthSeconds = caps.configIntervalLengthSeconds

variable {caps caps' mid : WithdrawalCaps} {op : CapOperation} {ops : List CapOperation}

theorem updateCounter_spec {action : WithdrawalCapAction} {n : U64}
    (h : caps.updateCounter n action .errorOnOverflow = .ok caps') :
    ∃ total : I64, caps' = { caps with currentTotal := total } ∧
      total.val = caps.currentTotal.val + CapOperation.signed ⟨action, n, 0⟩ := by
  simp only [updateCounter, bind_eq_ok, okOr_eq_ok, I64.checkedFit_eq_some, pure_eq_ok] at h
  obtain ⟨requested, hrequested, total, htotal, rfl⟩ := h
  refine ⟨total, rfl, ?_⟩
  rw [htotal]
  cases action with
  | add => rw [signedAmount, hrequested, CapOperation.signed]
  | remove => rw [signedAmount, hrequested, CapOperation.signed]

theorem checkCapacity_spec {n : U64} {u : Unit}
    (h : caps.checkCapacityAllowsWithdrawals n = .ok u) :
    caps.currentTotal.val + (n : ℕ) ≤ caps.configCapacity.val := by
  simp only [checkCapacityAllowsWithdrawals, bind_eq_ok, require_eq_ok, okOr_eq_ok,
    I64.checkedFit_eq_some] at h
  obtain ⟨-, -, requested, hrequested, total, htotal, hle⟩ := h
  rwa [htotal, hrequested] at hle

/-- The cap an operation counts in: cleared when the interval has passed. -/
def current (caps : WithdrawalCaps) (op : CapOperation) : WithdrawalCaps :=
  if caps.Elapsed op then caps.resetCurrentIntervalAndCounter op.timestamp else caps

theorem current_sameConfig (caps : WithdrawalCaps) (op : CapOperation) :
    caps.SameConfig (caps.current op) := by
  unfold current
  split
  · exact ⟨rfl, rfl⟩
  · exact ⟨rfl, rfl⟩

theorem execute_spec (hlen : caps.configIntervalLengthSeconds ≠ 0)
    (h : caps.execute op = .ok caps') :
    (caps.lastIntervalStartTimestamp : ℕ) ≤ op.timestamp ∧
    ∃ total : I64, caps' = { caps.current op with currentTotal := total } ∧
      total.val = (caps.current op).currentTotal.val + op.signed ∧
      (op.action = .add → total.val ≤ caps.configCapacity.val) := by
  obtain ⟨action, amount, timestamp⟩ := op
  have h' : caps.checkAndUpdateWithdrawalCaps amount timestamp action = .ok caps' := by
    cases action <;> exact h
  unfold checkAndUpdateWithdrawalCaps at h'
  rw [if_pos hlen] at h'
  simp only [checkLastIntervalElapsed, bind_eq_ok, require_eq_ok, pure_eq_ok] at h'
  obtain ⟨elapsed, ⟨-, hstart, helapsed⟩, h'⟩ := h'
  have hstart' : (caps.lastIntervalStartTimestamp : ℕ) ≤ timestamp := hstart
  have helapsed' : elapsed = true ↔ caps.Elapsed ⟨action, amount, timestamp⟩ := by
    rw [← helapsed, decide_eq_true_eq, Fin.le_def, Word.saturatingSub_val, Elapsed]
    constructor
    · exact (Nat.le_sub_iff_add_le' hstart').1
    · exact (Nat.le_sub_iff_add_le' hstart').2
  have hcurrent : (if elapsed = true then caps.resetCurrentIntervalAndCounter timestamp else caps) =
      caps.current ⟨action, amount, timestamp⟩ := by
    unfold current
    simp only [helapsed']
  rw [hcurrent] at h'
  refine ⟨hstart', ?_⟩
  cases action with
  | add =>
    rw [if_pos rfl, bind_eq_ok] at h'
    obtain ⟨u, hcheck, hupdate⟩ := h'
    obtain ⟨total, rfl, htotal⟩ := updateCounter_spec hupdate
    have hcap := checkCapacity_spec hcheck
    rw [(current_sameConfig caps _).1] at hcap
    exact ⟨total, rfl, htotal, fun _ ↦ htotal.trans_le hcap⟩
  | remove =>
    rw [if_neg (by decide)] at h'
    obtain ⟨total, rfl, htotal⟩ := updateCounter_spec h'
    exact ⟨total, rfl, htotal, fun hadd ↦ by cases hadd⟩

theorem execute_sameConfig (hlen : caps.configIntervalLengthSeconds ≠ 0)
    (h : caps.execute op = .ok caps') : caps.SameConfig caps' := by
  obtain ⟨-, total, rfl, -⟩ := execute_spec hlen h
  exact current_sameConfig caps op

theorem Runs.concat : caps.Runs (ops ++ [op]) caps' ↔
    ∃ mid, caps.Runs ops mid ∧ mid.execute op = .ok caps' := by
  induction ops generalizing caps with
  | nil => simp [Runs, eq_comm]
  | cons first ops ih =>
    simp only [List.cons_append, Runs, ih]
    constructor
    · rintro ⟨mid, hfirst, last, hruns, hlast⟩
      exact ⟨last, ⟨mid, hfirst, hruns⟩, hlast⟩
    · rintro ⟨last, ⟨mid, hfirst, hruns⟩, hlast⟩
      exact ⟨mid, hfirst, last, hruns, hlast⟩

theorem Runs.sameConfig (hlen : caps.configIntervalLengthSeconds ≠ 0) (h : caps.Runs ops caps') :
    caps.SameConfig caps' := by
  induction ops using List.reverseRecOn generalizing caps' with
  | nil => exact h ▸ ⟨rfl, rfl⟩
  | append_singleton ops op ih =>
    obtain ⟨mid, hruns, hop⟩ := Runs.concat.1 h
    have hmid := ih hruns
    have hlast := execute_sameConfig (hmid.2 ▸ hlen) hop
    exact ⟨hlast.1.trans hmid.1, hlast.2.trans hmid.2⟩

/-- After `ops` the counter holds the net amount of the operations since the last reset, or of all
of them on top of what it held when there was none. -/
def CountsSinceReset (caps : WithdrawalCaps) (ops : List CapOperation) (caps' : WithdrawalCaps) :
    Prop :=
  (caps'.lastIntervalStartTimestamp = caps.lastIntervalStartTimestamp ∧
    caps'.currentTotal.val = caps.currentTotal.val + CapOperation.net ops ∧
    ∀ op ∈ ops, ¬ caps.Elapsed op) ∨
  ∃ before first since mid, ops = before ++ first :: since ∧ caps.Runs before mid ∧
    mid.Elapsed first ∧
    caps'.lastIntervalStartTimestamp = first.timestamp ∧
    caps'.currentTotal.val = CapOperation.net (first :: since) ∧
    ∀ op ∈ since, ¬ caps'.Elapsed op

theorem Elapsed.congr (hstart : caps'.lastIntervalStartTimestamp = caps.lastIntervalStartTimestamp)
    (hsame : caps.SameConfig caps') (op : CapOperation) : caps'.Elapsed op ↔ caps.Elapsed op := by
  unfold Elapsed
  rw [hstart, hsame.2]

theorem net_concat : CapOperation.net (ops ++ [op]) = CapOperation.net ops + op.signed := by
  simp [CapOperation.net]

theorem Runs.countsSinceReset (hlen : caps.configIntervalLengthSeconds ≠ 0)
    (h : caps.Runs ops caps') : caps.CountsSinceReset ops caps' := by
  induction ops using List.reverseRecOn generalizing caps' with
  | nil =>
    obtain rfl : caps' = caps := h
    exact .inl ⟨rfl, by simp [CapOperation.net], by simp⟩
  | append_singleton ops op ih =>
    obtain ⟨mid, hruns, hop⟩ := Runs.concat.1 h
    have hmid := Runs.sameConfig hlen hruns
    have hconfig := execute_sameConfig (hmid.2 ▸ hlen) hop
    obtain ⟨hstart, total, rfl, htotal, -⟩ := execute_spec (hmid.2 ▸ hlen) hop
    by_cases hel : mid.Elapsed op
    · refine .inr ⟨ops, op, [], mid, rfl, hruns, hel, ?_, ?_, by simp⟩
      · rw [current, if_pos hel]
        rfl
      · rw [current, if_pos hel] at htotal
        rw [htotal]
        simp [CapOperation.net, resetCurrentIntervalAndCounter, default]
    · rw [current, if_neg hel] at htotal hconfig ⊢
      rcases ih hruns with ⟨hsame, hnet, hnone⟩ |
        ⟨before, first, since, mid₀, rfl, hbefore, hfirst, hsame, hnet, hnone⟩
      · refine .inl ⟨hsame, ?_, ?_⟩
        · rw [htotal, hnet, net_concat, add_assoc]
        · intro op' hop'
          rcases List.mem_append.1 hop' with hop' | hop'
          · exact hnone op' hop'
          · rw [List.mem_singleton.1 hop', ← Elapsed.congr hsame hmid]
            exact hel
      · refine .inr ⟨before, first, since ++ [op], mid₀, by simp, hbefore, hfirst, hsame, ?_, ?_⟩
        · rw [htotal, hnet, ← List.cons_append, net_concat]
        · intro op' hop'
          change ¬ mid.Elapsed op'
          rcases List.mem_append.1 hop' with hop' | hop'
          · exact hnone op' hop'
          · rw [List.mem_singleton.1 hop']
            exact hel

/-- Additions from a counter that is not negative are those of a fixed-window counter. -/
theorem Runs.admits (hlen : caps.configIntervalLengthSeconds ≠ 0) (h : caps.Runs ops caps')
    (hadd : ∀ op ∈ ops, op.action = .add) (htotal : 0 ≤ caps.currentTotal.val) :
    FixedWindow.Admits caps.configIntervalLengthSeconds caps.configCapacity.val.toNat
      ⟨caps.lastIntervalStartTimestamp, caps.currentTotal.val.toNat⟩
      (ops.map CapOperation.event) := by
  induction ops generalizing caps with
  | nil => trivial
  | cons op ops ih =>
    obtain ⟨mid, hop, hruns⟩ := h
    have hadd' := hadd op List.mem_cons_self
    have hconfig := execute_sameConfig hlen hop
    obtain ⟨hstart, total, rfl, hsum, hcap⟩ := execute_spec hlen hop
    have hsigned : op.signed = (op.amount : ℕ) := by
      unfold CapOperation.signed
      rw [hadd']
    have hle := hcap hadd'
    rw [hsigned] at hsum
    have hcount : FixedWindow.Counter.count caps.configIntervalLengthSeconds
        ⟨caps.lastIntervalStartTimestamp, caps.currentTotal.val.toNat⟩ op.event =
        ⟨(caps.current op).lastIntervalStartTimestamp, total.val.toNat⟩ := by
      unfold FixedWindow.Counter.count CapOperation.event
      unfold current at hsum ⊢
      dsimp only
      by_cases hel : caps.Elapsed op
      · rw [if_pos hel] at hsum ⊢
        rw [if_pos (show _ ≤ _ from hel)]
        have hzero : (caps.resetCurrentIntervalAndCounter op.timestamp).currentTotal.val = 0 := rfl
        have hval : total.val.toNat = op.amount := by omega
        rw [hval]
        rfl
      · rw [if_neg hel] at hsum ⊢
        rw [if_neg (show ¬ _ ≤ _ from hel)]
        have hval : total.val.toNat = caps.currentTotal.val.toNat + op.amount := by omega
        rw [hval]
    refine ⟨hstart, ?_, ?_⟩
    · rw [hcount]
      dsimp only
      omega
    · rw [hcount]
      have hnonneg : 0 ≤ total.val := by
        rw [hsum]
        unfold current
        split
        · have hzero : (caps.resetCurrentIntervalAndCounter op.timestamp).currentTotal.val = 0 := rfl
          omega
        · omega
      have hrest := ih (hconfig.2 ▸ hlen) hruns (fun op' hop' ↦ hadd op' (.tail _ hop')) hnonneg
      rwa [hconfig.1, hconfig.2] at hrest

section Room

/-- The most that the cap lets out at a time. -/
def room (caps : WithdrawalCaps) (currTimestamp : U64) : ℤ :=
  if caps.configIntervalLengthSeconds = 0 then 2 ^ 63 - 1
  else if (currTimestamp : ℕ) < caps.lastIntervalStartTimestamp ∨ caps.configCapacity.val < 0 then 0
  else
    let counted := if caps.configIntervalLengthSeconds ≤
        Word.saturatingSub currTimestamp caps.lastIntervalStartTimestamp then 0
      else caps.currentTotal.val
    min (2 ^ 63 - 1) (caps.configCapacity.val - counted)

theorem exists_updateCounter_saturating {n : U64} :
    (∃ caps', caps.updateCounter n .add .saturatingOverflow = .ok caps') ↔
      ((n : ℕ) : ℤ) < 2 ^ 63 := by
  simp only [updateCounter, bind_eq_ok, okOr_eq_ok, I64.checkedFit_eq_some, pure_eq_ok]
  constructor
  · rintro ⟨-, requested, hrequested, -⟩
    have := requested.2.2
    omega
  · intro h
    exact ⟨_, ⟨(n : ℕ), by omega, h⟩, rfl, rfl⟩

theorem exists_updateCounter_checked {n : U64} :
    (∃ u caps', caps.checkCapacityAllowsWithdrawals n = .ok u ∧
        caps.updateCounter n .add .errorOnOverflow = .ok caps') ↔
      0 ≤ caps.configCapacity.val ∧ ((n : ℕ) : ℤ) < 2 ^ 63 ∧
        caps.currentTotal.val + (n : ℕ) ≤ caps.configCapacity.val := by
  constructor
  · rintro ⟨u, caps', hcheck, hcounter⟩
    have hle := checkCapacity_spec hcheck
    simp only [checkCapacityAllowsWithdrawals, bind_eq_ok, require_eq_ok, okOr_eq_ok,
      I64.checkedFit_eq_some] at hcheck
    obtain ⟨-, hcapacity, requested, hrequested, -⟩ := hcheck
    have := requested.2.2
    exact ⟨hcapacity, by omega, hle⟩
  · rintro ⟨hcapacity, hlt, hle⟩
    have hrange := caps.currentTotal.2
    have hcapacityLt := caps.configCapacity.2.2
    obtain ⟨requested, hrequested⟩ : ∃ requested : I64, requested.val = (n : ℕ) :=
      ⟨⟨(n : ℕ), by omega, hlt⟩, rfl⟩
    obtain ⟨total, htotal⟩ :
        ∃ total : I64, total.val = caps.currentTotal.val + requested.val :=
      ⟨⟨caps.currentTotal.val + requested.val, by omega, by omega⟩, rfl⟩
    refine ⟨(), { caps with currentTotal := total }, ?_, ?_⟩
    · simp only [checkCapacityAllowsWithdrawals, bind_eq_ok, require_eq_ok, okOr_eq_ok,
        I64.checkedFit_eq_some]
      exact ⟨(), hcapacity, requested, hrequested, total, htotal, by omega⟩
    · simp only [updateCounter, signedAmount, bind_eq_ok, okOr_eq_ok, I64.checkedFit_eq_some,
        pure_eq_ok]
      exact ⟨requested, hrequested, total, htotal, rfl⟩

/-- The counter can go down by the amount, at a time that is not before its interval. -/
structure TakesBack (caps : WithdrawalCaps) (n timestamp : U64) : Prop where
  signed : (n : ℕ) < 2 ^ 63
  started : caps.configIntervalLengthSeconds ≠ 0 → caps.lastIntervalStartTimestamp ≤ timestamp
  counter : caps.configIntervalLengthSeconds ≠ 0 →
    Word.saturatingSub timestamp caps.lastIntervalStartTimestamp <
      caps.configIntervalLengthSeconds → -2 ^ 63 ≤ caps.currentTotal.val - (n : ℕ)

theorem exists_updateCounter_remove {n : U64} :
    (∃ caps', caps.updateCounter n .remove .errorOnOverflow = .ok caps') ↔
      (n : ℕ) < 2 ^ 63 ∧ -2 ^ 63 ≤ caps.currentTotal.val - (n : ℕ) := by
  simp only [updateCounter, signedAmount, bind_eq_ok, okOr_eq_ok, I64.checkedFit_eq_some,
    pure_eq_ok]
  constructor
  · rintro ⟨-, requested, hrequested, total, htotal, -⟩
    have hlt := requested.2.2
    have hle := total.2.1
    omega
  · rintro ⟨hlt, hle⟩
    have hcurrent := caps.currentTotal.2.2
    exact ⟨_, ⟨(n : ℕ), by omega, by omega⟩, rfl,
      ⟨caps.currentTotal.val + -((n : ℕ) : ℤ), by omega, by omega⟩, rfl, rfl⟩

theorem exists_subFromWithdrawalAccum_iff {n timestamp : U64} :
    (∃ caps', caps.subFromWithdrawalAccum n timestamp = .ok caps') ↔
      caps.TakesBack n timestamp := by
  unfold subFromWithdrawalAccum checkAndUpdateWithdrawalCaps
  by_cases hlen : caps.configIntervalLengthSeconds = 0
  · rw [if_neg (not_not.2 hlen)]
    simp only [updateCounter, bind_eq_ok, okOr_eq_ok, I64.checkedFit_eq_some, pure_eq_ok]
    constructor
    · rintro ⟨-, requested, hrequested, -⟩
      have hlt := requested.2.2
      exact ⟨by omega, fun hne ↦ absurd hlen hne, fun hne ↦ absurd hlen hne⟩
    · intro h
      have hlt := h.signed
      exact ⟨_, ⟨(n : ℕ), by omega, by omega⟩, rfl, rfl⟩
  · rw [if_pos hlen]
    simp only [bind_eq_ok, checkLastIntervalElapsed, require_eq_ok, pure_eq_ok, reduceCtorEq,
      if_false]
    by_cases helapsed : caps.configIntervalLengthSeconds ≤
        Word.saturatingSub timestamp caps.lastIntervalStartTimestamp
    · have hcounter := @exists_updateCounter_remove
        (caps.resetCurrentIntervalAndCounter timestamp) n
      constructor
      · rintro ⟨caps', elapsed, ⟨-, hstarted, rfl⟩, h⟩
        rw [decide_eq_true helapsed] at h
        exact ⟨(hcounter.1 ⟨caps', h⟩).1, fun _ ↦ hstarted,
          fun _ hlt ↦ absurd helapsed (not_le.2 hlt)⟩
      · intro h
        obtain ⟨caps', h'⟩ := hcounter.2 ⟨h.signed, by
          have := h.signed
          show -2 ^ 63 ≤ (0 : ℤ) - (n : ℕ)
          omega⟩
        exact ⟨caps', _, ⟨(), h.started hlen, decide_eq_true helapsed⟩, h'⟩
    · constructor
      · rintro ⟨caps', elapsed, ⟨-, hstarted, rfl⟩, h⟩
        rw [decide_eq_false helapsed] at h
        obtain ⟨hlt, hle⟩ := exists_updateCounter_remove.1 ⟨caps', h⟩
        exact ⟨hlt, fun _ ↦ hstarted, fun _ _ ↦ hle⟩
      · intro h
        obtain ⟨caps', h'⟩ := exists_updateCounter_remove.2
          ⟨h.signed, h.counter hlen (not_le.1 helapsed)⟩
        exact ⟨caps', _, ⟨(), h.started hlen, decide_eq_false helapsed⟩, h'⟩

end Room

/-- The amount added at times from `t` on, less than an interval later. -/
def addedInWindow (caps : WithdrawalCaps) (ops : List CapOperation) (t : ℕ) : ℕ :=
  FixedWindow.amountIn (fun u ↦ t ≤ u ∧ u < t + caps.configIntervalLengthSeconds)
    (ops.map CapOperation.event)

/-- Over every run of a cap with an interval: the counter is the net amount since the last reset,
every addition ends within the capacity, and additions alone, from a counter that is not negative,
never exceed twice the capacity in one window. -/
theorem runs_bounded (hcap : 0 ≤ caps.configCapacity.val)
    (hlen : caps.configIntervalLengthSeconds ≠ 0)
    (hsorted : ops.Pairwise fun a b ↦ a.timestamp ≤ b.timestamp) (h : caps.Runs ops caps') :
    caps.CountsSinceReset ops caps' ∧
    (∀ before op, ops = before ++ [op] → op.action = .add →
      caps'.currentTotal.val ≤ caps.configCapacity.val) ∧
    ((∀ op ∈ ops, op.action = .add) → 0 ≤ caps.currentTotal.val →
      ∀ t, (caps.addedInWindow ops t : ℤ) ≤ 2 * caps.configCapacity.val) := by
  refine ⟨h.countsSinceReset hlen, ?_, ?_⟩
  · rintro before op rfl hadd
    obtain ⟨mid, hruns, hop⟩ := Runs.concat.1 h
    have hmid := Runs.sameConfig hlen hruns
    obtain ⟨-, total, rfl, -, hle⟩ := execute_spec (hmid.2 ▸ hlen) hop
    exact hmid.1 ▸ hle hadd
  · intro hadd htotal t
    have hbound := FixedWindow.window_le (h.admits hlen hadd htotal) (List.pairwise_map.2 hsorted) t
    have hcast : ((caps.configCapacity.val.toNat : ℕ) : ℤ) = caps.configCapacity.val :=
      Int.toNat_of_nonneg hcap
    unfold addedInWindow
    omega

/-- A cap of ten for every hundred seconds. -/
def tenPerHundred (total : I64) (start : U64) : WithdrawalCaps where
  configCapacity := ⟨10, by decide⟩
  currentTotal := total
  lastIntervalStartTimestamp := start
  configIntervalLengthSeconds := 100

theorem runs_bounded_tenPerHundred :
    ((tenPerHundred default 1000).addedInWindow [⟨.add, 10, 1099⟩, ⟨.add, 10, 1100⟩] 1050 : ℤ) ≤
      20 := by
  have hruns : (tenPerHundred default 1000).Runs [⟨.add, 10, 1099⟩, ⟨.add, 10, 1100⟩]
      (tenPerHundred ⟨10, by decide⟩ 1100) :=
    ⟨tenPerHundred ⟨10, by decide⟩ 1000, by decide, tenPerHundred ⟨10, by decide⟩ 1100,
      by decide, rfl⟩
  exact (runs_bounded (by decide) (by decide) (by decide) hruns).2.2 (by decide) (by decide) 1050

/-- Subtractions before the run let additions alone pass twice the capacity. -/
theorem additions_pass_twice_capacity :
    ∃ (caps caps' : WithdrawalCaps) (ops : List CapOperation) (t : ℕ),
      0 ≤ caps.configCapacity.val ∧ caps.configIntervalLengthSeconds ≠ 0 ∧
      ops.Pairwise (fun a b ↦ a.timestamp ≤ b.timestamp) ∧ caps.Runs ops caps' ∧
      (∀ op ∈ ops, op.action = .add) ∧
      2 * caps.configCapacity.val < caps.addedInWindow ops t :=
  ⟨tenPerHundred ⟨-100, by decide⟩ 1000, tenPerHundred ⟨10, by decide⟩ 1000, [⟨.add, 110, 1050⟩],
    1050, by decide, by decide, by decide, ⟨_, by decide, rfl⟩, by decide,
    by decide⟩

end WithdrawalCaps

end Klend
