import Klend.Positions.Freshness
import Klend.Results.ObligationSlots

/-! # The totals of reachable obligations

An obligation that is not stale has the totals of its slots, and no operation uses
totals that an earlier one has overtaken.
-/

namespace Klend.World

variable {w₀ w : World}

theorem Genesis.upToDate (h : w.Genesis) : w.UpToDate where
  toWellFormed := h.wellFormed
  upToDate := by simp [h.obligations]

theorem Run.upToDate {Admitted : World → Clock → Instruction → Prop} (h : Run Admitted w₀ w)
    (hw : w₀.UpToDate) : w.UpToDate :=
  Transition.Preserves.run (P := UpToDate)
    (fun _ _ hw ⟨_, _, _, hproc⟩ ↦ process_upToDate hproc hw) hw h

/-- In every reachable state the totals of an obligation that is not stale are those of its slots.
An instruction that changes amounts runs on such totals and leaves the obligation stale, and no
other instruction but a refresh changes an amount without doing so. -/
theorem obligations_upToDate (h : w₀.Genesis) (hrun : Run Anything w₀ w) :
    (∀ o ∈ w.obligations, o.lastUpdate.stale = false →
      o.ValuesSummed ∧ o.RatesCurrent w.reserves) ∧
    ∀ clock ix w', w.process clock ix = .ok w' →
      (∀ i, ix.changesAmountsOf = some i → ∃ o o', w.obligations[i]? = some o ∧
        w'.obligations[i]? = some o' ∧
        (o.lastUpdate.stale = false ∧ o.lastUpdate.slot = clock.slot ∧ o.ValuesSummed) ∧
        o'.lastUpdate.stale = true) ∧
      ∀ i o o', w.obligations[i]? = some o → w'.obligations[i]? = some o' →
        (o'.depositedAmounts ≠ o.depositedAmounts ∨ o'.borrowedAmounts ≠ o.borrowedAmounts) →
        o'.lastUpdate.stale = true ∨
          ∃ remaining states, ix = .refreshObligation i remaining states := by
  have hinv := hrun.upToDate h.upToDate
  refine ⟨fun o ho hfresh ↦ ?_, fun clock ix w' hproc ↦ ⟨fun i hix ↦ ?_, ?_⟩⟩
  · obtain ⟨hsums, hrates, -⟩ := hinv.upToDate o ho hfresh
    exact ⟨hsums, hrates⟩
  · obtain ⟨o, o', ho, ho', ⟨hstale, hslot⟩, hstale'⟩ := process_marksStale hproc hix
    have hsums := (hinv.upToDate o (List.mem_of_getElem? ho) hstale).1
    exact ⟨o, o', ho, ho', ⟨hstale, hslot, hsums⟩, hstale'⟩
  · exact fun i o o' ho ho' hne ↦ process_amounts hproc ho ho' hne

/-- The refreshed obligation of the loan has collateral and a debt with a value. -/
theorem obligations_upToDate_plainLoan :
    ∃ o, refreshedLoan.obligations = [o] ∧ o.lastUpdate.stale = false ∧
      o.depositedValueSf = Fraction.fromNum 1000000 ∧
      Fraction.fromNum 500000 ≤ o.borrowedAssetsMarketValueSf ∧
      o.ValuesSummed ∧ o.RatesCurrent refreshedLoan.reserves := by
  have hlen : refreshedLoan.obligations.length = 1 := by decide
  obtain ⟨o, ho⟩ := List.length_eq_one_iff.1 hlen
  have hfresh : ∀ o ∈ refreshedLoan.obligations, o.lastUpdate.stale = false ∧
      o.depositedValueSf = Fraction.fromNum 1000000 ∧
      Fraction.fromNum 500000 ≤ o.borrowedAssetsMarketValueSf := by
    decide
  have hmem : o ∈ refreshedLoan.obligations := ho ▸ List.mem_singleton_self o
  obtain ⟨hstale, hdeposited, hborrowed⟩ := hfresh o hmem
  exact ⟨o, ho, hstale, hdeposited, hborrowed, (obligations_upToDate plainMarket_genesis
    (run_after _ _ fun _ _ _ ↦ trivial)).1 o hmem hstale⟩

end Klend.World
