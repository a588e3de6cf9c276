import Klend.Lending.RefreshReplay
import Klend.Results.ObligationSlots
import Klend.Results.ReferralFees

/-! # Refreshing an obligation twice in one slot

The second refresh succeeds whenever the first did, and every account is as the
first one left it: no tracker and no fee account can be moved by repetition.
-/

namespace Klend

namespace World

variable {w₀ w w' : World} {clock : Clock} {index : ℕ} {remaining : List Pubkey}
  {stateKeys : List ReferrerTokenStateKey}

theorem borrowsDistinct (h : w₀.Genesis) (hrun : Run Anything w₀ w) {o : Obligation}
    (ho : o ∈ w.obligations) : o.BorrowsDistinct :=
  ((hrun.wellFormed h.wellFormed).obligations o ho).borrows.distinct

theorem refreshObligation_again (hdistinct : ∀ o ∈ w.obligations, o.BorrowsDistinct)
    (hproc : w.refreshObligation clock index remaining stateKeys = .ok w') :
    w'.refreshObligation clock index remaining stateKeys = .ok w' := by
  simp only [refreshObligation, bind_eq_ok, pure_eq_ok, loadObligation_eq_ok, Prod.exists] at hproc
  obtain ⟨_, hmode, o, ⟨ho, hmarket⟩, ds, bs, hsplit, o', rs', states', hrefresh, rfl⟩ := hproc
  have hagain := refreshObligation_replay (hdistinct o (List.mem_of_getElem? ho)) hrefresh
  obtain ⟨hmarket', href, hdeposits, hborrows⟩ := refreshObligation_slots hrefresh
  have hsplit' : splitRemaining o' remaining stateKeys = .ok (ds, bs) := by
    unfold splitRemaining at hsplit ⊢
    rw [Obligation.hasReferrer, href, hdeposits, hborrows]
    exact hsplit
  have hlt : index < w.obligations.length := (List.getElem?_eq_some_iff.1 ho).1
  simp only [refreshObligation, bind_eq_ok, pure_eq_ok, loadObligation_eq_ok, Prod.exists]
  refine ⟨(), hmode, o', ⟨?_, hmarket'.trans hmarket⟩, ds, bs, hsplit', o', rs', states', hagain, ?_⟩
  · exact List.getElem?_set_self hlt
  · simp only [storeObligation, List.set_set]

/-- Refreshing an obligation a second time in its slot succeeds and changes nothing, when it has no
two debts of one reserve. No reachable obligation has: a borrow looks for the reserve's slot before
it takes a free one. -/
theorem refreshObligation_idempotent (h : w₀.Genesis) (hrun : Run Anything w₀ w) :
    (∀ o market slot check rs iter iter' states stateKeys o' rs' states',
      Obligation.BorrowsDistinct o →
      Klend.refreshObligation o market slot check rs iter iter' states stateKeys =
        .ok (o', rs', states') →
      Klend.refreshObligation o' market slot check rs' iter iter' states' stateKeys =
        .ok (o', rs', states')) ∧
    (∀ o ∈ w.obligations, o.BorrowsDistinct) ∧
    ∀ clock index remaining stateKeys w',
      w.process clock (.refreshObligation index remaining stateKeys) = .ok w' →
      w'.process clock (.refreshObligation index remaining stateKeys) = .ok w' := by
  have hdistinct : ∀ o ∈ w.obligations, o.BorrowsDistinct := fun o ↦ borrowsDistinct h hrun
  refine ⟨?_, hdistinct, ?_⟩
  · intro o market slot check rs iter iter' states stateKeys o' rs' states' hdist hrefresh
    exact refreshObligation_replay hdist hrefresh
  · intro clock index remaining stateKeys w' hproc
    exact refreshObligation_again hdistinct hproc

/-- The market of a referred loan, its reserves refreshed one slot later. -/
def refreshableLoan : World :=
  referralMarket.after (referredLoan ++
    [(⟨3, 10⟩, .refreshReserve 5 unitPrice), (⟨3, 10⟩, .refreshReserve 6 unitPrice)])

theorem refreshObligation_idempotent_refreshableLoan :
    ∃ o o' rs' states', refreshableLoan.obligations = [o] ∧
      Klend.refreshObligation o refreshableLoan.lendingMarket 3 .perform refreshableLoan.reserves
        [6] [5] refreshableLoan.referrerTokenStates [(8, 5)] = .ok (o', rs', states') ∧
      Klend.refreshObligation o' refreshableLoan.lendingMarket 3 .perform rs' [6] [5] states'
        [(8, 5)] = .ok (o', rs', states') := by
  have hlen : refreshableLoan.obligations.length = 1 := by decide
  obtain ⟨o, ho⟩ := List.length_eq_one_iff.1 hlen
  have hrefresh : ∀ o ∈ refreshableLoan.obligations,
      ((Klend.refreshObligation o refreshableLoan.lendingMarket 3 .perform refreshableLoan.reserves
        [6] [5] refreshableLoan.referrerTokenStates [(8, 5)]).toOption.any fun _ ↦ true) = true := by
    decide
  have hmem : o ∈ refreshableLoan.obligations := ho ▸ List.mem_singleton_self o
  have hrun : Run Anything referralMarket refreshableLoan := run_after _ _ fun _ _ _ ↦ trivial
  obtain ⟨⟨o', rs', states'⟩, hresult, -⟩ := exists_eq_ok (hrefresh o hmem)
  obtain ⟨hagain, hdistinct, -⟩ := refreshObligation_idempotent referralMarket_genesis hrun
  exact ⟨o, o', rs', states', ho, hresult,
    hagain _ _ _ _ _ _ _ _ _ _ _ _ (hdistinct o hmem) hresult⟩

end World

end Klend
