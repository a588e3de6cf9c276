import Klend.Library.Transition
import Mathlib.Data.List.Nodup

/-! # Transactions of nested calls

A transaction runs its instructions one after the other. While an instruction
runs it may invoke further ones, to any depth and of its own choice. Every call
is admitted when it is made, and the transaction succeeds when all its
instructions have returned.
-/

namespace CallStack

open Relation (ReflTransGen)

variable {I : Type*}

/-- An instruction as it ran: below which instruction of the transaction, and how deep. -/
structure Call (I : Type*) where
  index : ℕ
  stackHeight : ℕ
  instruction : I
deriving DecidableEq, Repr

/-- The instructions running have the innermost first. -/
structure State (I : Type*) where
  started : ℕ
  running : List I
  log : List (Call I)

variable (ixs : List I) (Admits : Call I → Prop)

inductive Step : State I → State I → Prop
  | start {s : State I} {ix : I} (hidle : s.running = []) (hix : ixs[s.started]? = some ix)
      (hadm : Admits ⟨s.started, 1, ix⟩) :
      Step s ⟨s.started + 1, [ix], s.log ++ [⟨s.started, 1, ix⟩]⟩
  | invoke {s : State I} (ix : I) (hrunning : s.running ≠ [])
      (hadm : Admits ⟨s.started - 1, s.running.length + 1, ix⟩) :
      Step s ⟨s.started, ix :: s.running,
        s.log ++ [⟨s.started - 1, s.running.length + 1, ix⟩]⟩
  | finish {s : State I} {ix : I} {rest : List I} (hrunning : s.running = ix :: rest) :
      Step s ⟨s.started, rest, s.log⟩

/-- The transaction succeeds, with these calls. -/
def Succeeds (log : List (Call I)) : Prop :=
  ReflTransGen (Step ixs Admits) ⟨0, [], []⟩ ⟨ixs.length, [], log⟩

variable {ixs} {Admits}

/-- The calls of the transaction's own instructions. -/
def topCalls (ixs : List I) : List (Call I) := ixs.zipIdx.map fun p ↦ ⟨p.2, 1, p.1⟩

theorem mem_topCalls {c : Call I} :
    c ∈ topCalls ixs ↔ c.stackHeight = 1 ∧ ixs[c.index]? = some c.instruction := by
  simp only [topCalls, List.mem_map, Prod.exists, List.mem_zipIdx_iff_getElem?]
  constructor
  · rintro ⟨ix, i, hix, rfl⟩
    exact ⟨rfl, hix⟩
  · rintro ⟨hheight, hix⟩
    exact ⟨c.instruction, c.index, hix, by rw [← hheight]⟩

theorem topCalls_concat (ix : I) :
    topCalls (ixs ++ [ix]) = topCalls ixs ++ [⟨ixs.length, 1, ix⟩] := by
  simp only [topCalls, List.zipIdx_append, List.map_append, List.zipIdx_cons, List.zipIdx_nil,
    List.map_cons, List.map_nil, Nat.zero_add]

theorem nodup_topCalls (ixs : List I) : (topCalls ixs).Nodup := by
  refine List.Nodup.of_map Call.index ?_
  rw [topCalls, List.map_map]
  show (ixs.zipIdx.map Prod.snd).Nodup
  rw [List.zipIdx_map_snd]
  exact List.nodup_range'

/-- The one instruction of the transaction with a property. -/
theorem filter_topCalls {p : Call I → Bool} {i : ℕ} {ix : I} (hix : ixs[i]? = some ix)
    (hp : p ⟨i, 1, ix⟩ = true)
    (huniq : ∀ j jx, ixs[j]? = some jx → p ⟨j, 1, jx⟩ = true → j = i) :
    (topCalls ixs).filter p = [⟨i, 1, ix⟩] := by
  rw [← List.perm_singleton, List.perm_ext_iff_of_nodup ((nodup_topCalls ixs).filter p) (by simp)]
  intro c
  rw [List.mem_filter, mem_topCalls, List.mem_singleton]
  constructor
  · rintro ⟨⟨hheight, hc⟩, hpc⟩
    obtain ⟨j, h, jx⟩ := c
    obtain rfl : h = 1 := hheight
    obtain rfl := huniq j jx hc hpc
    obtain rfl := Option.some.inj (hc.symm.trans hix)
    rfl
  · rintro rfl
    exact ⟨⟨rfl, hix⟩, hp⟩

/-- What holds of the calls made so far. -/
structure Sound (ixs : List I) (Admits : Call I → Prop) (s : State I) : Prop where
  admitted : ∀ c ∈ s.log, Admits c
  height_pos : ∀ c ∈ s.log, 1 ≤ c.stackHeight
  topLevel : s.log.filter (·.stackHeight = 1) = topCalls (ixs.take s.started)

theorem sound_preserved : Transition.Preserves (Step ixs Admits) (Sound ixs Admits) := by
  intro s t hs hstep
  cases hstep with
  | @start ix hidle hix hadm =>
    refine ⟨fun c hc ↦ ?_, fun c hc ↦ ?_, ?_⟩
    · rcases List.mem_append.1 hc with hc | hc
      · exact hs.admitted c hc
      · rwa [List.mem_singleton.1 hc]
    · rcases List.mem_append.1 hc with hc | hc
      · exact hs.height_pos c hc
      · exact (List.mem_singleton.1 hc) ▸ Nat.le_refl 1
    · have hlt : s.started < ixs.length := (List.getElem?_eq_some_iff.1 hix).1
      have htake : ixs.take (s.started + 1) = ixs.take s.started ++ [ix] := by
        rw [List.take_add_one, hix, Option.toList_some]
      have hlen : (ixs.take s.started).length = s.started := by
        rw [List.length_take, Nat.min_eq_left (Nat.le_of_lt hlt)]
      rw [List.filter_append, hs.topLevel, htake, topCalls_concat, hlen]
      rfl
  | invoke ix hrunning hadm =>
    refine ⟨fun c hc ↦ ?_, fun c hc ↦ ?_, ?_⟩
    · rcases List.mem_append.1 hc with hc | hc
      · exact hs.admitted c hc
      · rwa [List.mem_singleton.1 hc]
    · rcases List.mem_append.1 hc with hc | hc
      · exact hs.height_pos c hc
      · rw [List.mem_singleton.1 hc]
        exact Nat.le_add_left _ _
    · rw [List.filter_append, hs.topLevel]
      simp [hrunning]
  | finish hrunning => exact ⟨hs.admitted, hs.height_pos, hs.topLevel⟩

namespace Succeeds

variable {log : List (Call I)} (h : Succeeds ixs Admits log)
include h

theorem sound : Sound ixs Admits ⟨ixs.length, [], log⟩ :=
  sound_preserved.run ⟨by simp, by simp, by simp [topCalls]⟩ h

theorem admits {c : Call I} (hc : c ∈ log) : Admits c := h.sound.admitted c hc

theorem mem_log {i : ℕ} {ix : I} (hix : ixs[i]? = some ix) : ⟨i, 1, ix⟩ ∈ log := by
  have htop := h.sound.topLevel
  rw [List.take_length] at htop
  have hmem : (⟨i, 1, ix⟩ : Call I) ∈ log.filter (·.stackHeight = 1) := by
    rw [htop]
    exact mem_topCalls.2 ⟨rfl, hix⟩
  exact (List.mem_filter.1 hmem).1

/-- Calls that are only admitted at the top level are among the transaction's own instructions. -/
theorem filter_log {p : Call I → Bool}
    (hp : ∀ c, Admits c → p c = true → c.stackHeight ≤ 1) :
    log.filter p = (topCalls ixs).filter p := by
  have htop := h.sound.topLevel
  rw [List.take_length] at htop
  rw [← htop, List.filter_filter]
  refine List.filter_congr fun c hc ↦ ?_
  have hpos := h.sound.height_pos c hc
  cases hpc : p c with
  | false => rfl
  | true =>
    have hheight : c.stackHeight = 1 := Nat.le_antisymm (hp c (h.admits hc) hpc) hpos
    simp [hheight]

end Succeeds

end CallStack
