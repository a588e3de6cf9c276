import Klend.Library.Segments
import Klend.State.Reserve

/-! # The borrow rate curve

A validated curve gives a rate at every utilization. The rate grows with the utilization,
stays between the rates of the first and the last point, and is that of a point at the
point itself.
-/

namespace Klend

variable {u v r s : Fraction} {p q : CurvePoint} {k : U32}

namespace BorrowRateCurve

variable {c : BorrowRateCurve}

/-- Sorted by utilization, with rates that never fall. -/
def Rising (points : List CurvePoint) : Prop :=
  Segments.Rising CurvePoint.utilizationRateBps CurvePoint.borrowRateBps points

theorem validatePoints_cons {pts : List CurvePoint} :
    validatePoints p (q :: pts) = .ok () ↔
      (if p.utilizationRateBps = maxUtilizationRateBps then
          q.utilizationRateBps = maxUtilizationRateBps
        else p.utilizationRateBps < q.utilizationRateBps) ∧
      p.borrowRateBps ≤ q.borrowRateBps ∧ validatePoints q pts = .ok () := by
  rw [validatePoints]
  by_cases hmax : p.utilizationRateBps = maxUtilizationRateBps
  · simp [hmax]
  · simp [hmax]

theorem validatePoints_rising {pts : List CurvePoint} (h : validatePoints p pts = .ok ()) :
    Rising (p :: pts) := by
  induction pts generalizing p with
  | nil => exact List.pairwise_singleton _ _
  | cons q pts ih =>
    obtain ⟨hkeys, hrate, hrest⟩ := validatePoints_cons.1 h
    have hstep : p.utilizationRateBps ≤ q.utilizationRateBps := by
      split at hkeys
      · next hmax => exact (hmax.trans hkeys.symm).le
      · exact hkeys.le
    have hpts := ih hrest
    refine List.pairwise_cons.2 ⟨fun a ha ↦ ?_, hpts⟩
    rcases List.mem_cons.1 ha with rfl | ha
    · exact ⟨hstep, hrate⟩
    · obtain ⟨hkey, hval⟩ := (List.pairwise_cons.1 hpts).1 a ha
      exact ⟨hstep.trans hkey, hrate.trans hval⟩

/-- Only the full utilization comes more than once. -/
theorem validatePoints_strict {pts : List CurvePoint} (h : validatePoints p pts = .ok ()) :
    (p :: pts).Pairwise fun p q ↦ p.utilizationRateBps ≠ maxUtilizationRateBps →
      p.utilizationRateBps < q.utilizationRateBps := by
  induction pts generalizing p with
  | nil => exact List.pairwise_singleton _ _
  | cons q pts ih =>
    obtain ⟨hkeys, -, hrest⟩ := validatePoints_cons.1 h
    refine List.pairwise_cons.2 ⟨fun a ha hne ↦ ?_, ih hrest⟩
    rw [if_neg hne] at hkeys
    rcases List.mem_cons.1 ha with rfl | ha
    · exact hkeys
    · exact hkeys.trans_le ((List.pairwise_cons.1 (validatePoints_rising hrest)).1 a ha).1

theorem validate_spec (h : c.validate = .ok ()) : ∃ first pts,
    c.points = first :: pts ∧ first.utilizationRateBps = 0 ∧ Rising c.points ∧
      ∃ last ∈ pts, last.utilizationRateBps = maxUtilizationRateBps := by
  simp only [validate, bind_eq_ok, unwrap_eq_ok, require_eq_ok] at h
  obtain ⟨first, hfirst, -, hzero, last, hlast, -, hmax, hpts⟩ := h
  cases hc : c.points with
  | nil => rw [hc] at hfirst; cases hfirst
  | cons a pts =>
    rw [hc] at hfirst hlast hpts
    obtain rfl := Option.some.inj hfirst
    exact ⟨a, pts, rfl, hzero, validatePoints_rising hpts, last, List.mem_of_getElem? hlast, hmax⟩

/-- The utilization in basis points, rounded to the nearest. -/
def roundedBps (u : Fraction) : ℕ := ((min u Fraction.one).bits * 10000 + 2 ^ 59) / 2 ^ 60

theorem roundedBps_le : roundedBps u ≤ 10000 := by
  have h : (min u Fraction.one).bits ≤ 2 ^ 60 := by
    rw [Fraction.bits_min]
    exact Nat.min_le_right _ _
  unfold roundedBps
  omega

theorem roundedBps_mono (h : u ≤ v) : roundedBps u ≤ roundedBps v := by
  have hmin : (min u Fraction.one).bits ≤ (min v Fraction.one).bits :=
    Fraction.le_iff.1 (min_le_min_right _ h)
  unfold roundedBps
  omega

theorem toBps_eq (hu : u ≤ Fraction.one) (hk : (k : ℕ) = (u.bits * 10000 + 2 ^ 59) / 2 ^ 60) :
    u.toBps 32 = .ok (some k) := by
  have hbits : u.bits ≤ 2 ^ 60 := Fraction.le_iff.1 hu
  simp only [Fraction.toBps, Fraction.toRatio, Fraction.round, bind_eq_ok, Fraction.mulInt_eq_ok,
    Fraction.ofBits_eq_ok, pure_eq_ok, Word.checkedFit_eq_some]
  refine ⟨⟨u.bits * 10000, by omega⟩, rfl,
    ⟨(u.bits * 10000 + 2 ^ 59) / 2 ^ 60 * 2 ^ 60, by omega⟩, rfl, ?_⟩
  rw [hk, Nat.mul_div_cancel _ (by norm_num)]

end BorrowRateCurve

namespace CurveSegment

/-- The rate between two points does not exceed that of the second one. -/
theorem interpolated_le {x start stop rate rise n : ℕ} (hn : n = (x * 10000 + 2 ^ 59) / 2 ^ 60)
    (hstop : n < stop) (hlt : start < stop) :
    (x - start * 2 ^ 60 / 10000) * rise / (stop - start) + rate * 2 ^ 60 / 10000 ≤
      (rate + rise) * 2 ^ 60 / 10000 := by
  obtain ⟨d, rfl⟩ := Nat.exists_eq_add_of_lt hlt
  rw [show start + d + 1 - start = d + 1 by omega]
  have hcoef : (x - start * 2 ^ 60 / 10000) * 10000 ≤ (d + 1) * 2 ^ 60 := by omega
  generalize x - start * 2 ^ 60 / 10000 = coef at hcoef ⊢
  have hbase : coef * rise / (d + 1) * 10000 ≤ rise * 2 ^ 60 := by
    have hle : coef * rise / (d + 1) * (d + 1) ≤ coef * rise := Nat.div_mul_le_self _ _
    refine Nat.le_of_mul_le_mul_right (?_ : _ * (d + 1) ≤ _) d.succ_pos
    calc coef * rise / (d + 1) * 10000 * (d + 1)
        = coef * rise / (d + 1) * (d + 1) * 10000 := by ring
      _ ≤ coef * rise * 10000 := Nat.mul_le_mul_right _ hle
      _ = coef * 10000 * rise := by ring
      _ ≤ (d + 1) * 2 ^ 60 * rise := Nat.mul_le_mul_right _ hcoef
      _ = rise * 2 ^ 60 * (d + 1) := by ring
  rw [add_mul]
  omega

theorem getBorrowRate_between (hrate : p.borrowRateBps ≤ q.borrowRateBps)
    (hu : u ≤ Fraction.one) (hk : (k : ℕ) = (u.bits * 10000 + 2 ^ 59) / 2 ^ 60)
    (hp : p.utilizationRateBps < k) (hq : k < q.utilizationRateBps) :
    ∃ r, (do let segment ← fromPoints p q
             segment.getBorrowRate u) = .ok r ∧
      r.bits = (u.bits - p.utilizationRateBps * 2 ^ 60 / 10000) *
        (q.borrowRateBps - p.borrowRateBps) / (q.utilizationRateBps - p.utilizationRateBps) +
        p.borrowRateBps * 2 ^ 60 / 10000 ∧
      r.bits ≤ (q.borrowRateBps : ℕ) * 2 ^ 60 / 10000 := by
  rw [Fin.le_def] at hrate
  rw [Fin.lt_def] at hp hq
  have hbits : u.bits ≤ 2 ^ 60 := Fraction.le_iff.1 hu
  have hle : (u.bits - p.utilizationRateBps * 2 ^ 60 / 10000) *
      (q.borrowRateBps - p.borrowRateBps : ℕ) / (q.utilizationRateBps - p.utilizationRateBps) +
        p.borrowRateBps * 2 ^ 60 / 10000 ≤
      (p.borrowRateBps + (q.borrowRateBps - p.borrowRateBps : ℕ)) * 2 ^ 60 / 10000 :=
    interpolated_le hk hq (hp.trans hq)
  rw [Nat.add_sub_cancel' hrate] at hle
  have hstart : p.utilizationRateBps * 2 ^ 60 / 10000 ≤ u.bits := by omega
  have hcoef : u.bits - p.utilizationRateBps * 2 ^ 60 / 10000 ≤ 2 ^ 60 := by omega
  have hrise : (q.borrowRateBps : ℕ) - p.borrowRateBps < 2 ^ 32 := by omega
  have hnom : (u.bits - p.utilizationRateBps * 2 ^ 60 / 10000) *
      (q.borrowRateBps - p.borrowRateBps) < 2 ^ 128 :=
    (Nat.mul_le_mul hcoef hrise.le).trans_lt (by norm_num)
  have hsum := hle.trans_lt (show (q.borrowRateBps : ℕ) * 2 ^ 60 / 10000 < 2 ^ 128 by omega)
  simp only [fromPoints, getBorrowRate, bind_eq_ok, okOr_eq_ok, unwrap_eq_ok, require_eq_ok,
    pure_eq_ok, Word.checkedSub_eq_some, Fraction.checkedSub_eq_some, Fraction.mulInt_eq_ok,
    Fraction.divInt_eq_ok, Fraction.add_eq_ok]
  refine ⟨⟨_, hsum⟩, ⟨⟨⟨q.borrowRateBps - p.borrowRateBps, by omega⟩,
    ⟨q.utilizationRateBps - p.utilizationRateBps, by omega⟩, p⟩, ?_, ?_⟩, rfl, hle⟩
  · refine ⟨⟨q.borrowRateBps - p.borrowRateBps, by omega⟩, ?_, (), Fin.lt_def.2 (hp.trans hq),
      ⟨q.utilizationRateBps - p.utilizationRateBps, by omega⟩, ?_, rfl⟩
    · exact Nat.sub_add_cancel hrate
    · exact Nat.sub_add_cancel (hp.trans hq).le
  · refine ⟨⟨u.bits - p.utilizationRateBps * 2 ^ 60 / 10000, by omega⟩, ?_, ⟨_, hnom⟩, rfl,
      ⟨_, (Nat.div_le_self _ _).trans_lt hnom⟩, ⟨?_, rfl⟩, rfl⟩
    · exact Nat.sub_add_cancel hstart
    · show (q.utilizationRateBps : ℕ) - p.utilizationRateBps ≠ 0
      omega

end CurveSegment

namespace BorrowRateCurve

variable {c : BorrowRateCurve}

/-- The rate at a utilization in terms of the points around it. -/
structure RateBetween (p q : CurvePoint) (u r : Fraction) : Prop where
  lower : Fraction.fromBps (Word.widen p.borrowRateBps) ≤ r
  upper : r ≤ Fraction.fromBps (Word.widen q.borrowRateBps)
  start : roundedBps u = p.utilizationRateBps → r = Fraction.fromBps (Word.widen p.borrowRateBps)
  stop : roundedBps u ≠ p.utilizationRateBps → roundedBps u = q.utilizationRateBps →
    r = Fraction.fromBps (Word.widen q.borrowRateBps)
  between : roundedBps u ≠ p.utilizationRateBps → roundedBps u ≠ q.utilizationRateBps →
    r.bits = ((min u Fraction.one).bits - p.utilizationRateBps * 2 ^ 60 / 10000) *
      (q.borrowRateBps - p.borrowRateBps) / (q.utilizationRateBps - p.utilizationRateBps) +
      p.borrowRateBps * 2 ^ 60 / 10000

theorem fromBps_mono {m n : U32} (h : m ≤ n) :
    Fraction.fromBps (Word.widen m) ≤ Fraction.fromBps (Word.widen n) :=
  Nat.div_le_div_right (Nat.mul_le_mul_right _ (Fin.le_def.1 h))

theorem exists_roundedBps (u : Fraction) : ∃ k : U32, (k : ℕ) = roundedBps u :=
  ⟨⟨roundedBps u, roundedBps_le.trans_lt (by norm_num)⟩, rfl⟩

theorem getBorrowRate_spec (hc : c.validate = .ok ()) (hk : (k : ℕ) = roundedBps u) :
    ∃ p q r, Segments.enclosing CurvePoint.utilizationRateBps k c.points = some (p, q) ∧
      c.getBorrowRate u = .ok r ∧ RateBetween p q u r := by
  obtain ⟨first, pts, hpts, hzero, hrising, last, hlast, hmax⟩ := validate_spec hc
  have hk' : k ≤ maxUtilizationRateBps := Fin.le_def.2 (hk ▸ roundedBps_le)
  obtain ⟨p, q, henc⟩ : ∃ p q,
      Segments.enclosing CurvePoint.utilizationRateBps k c.points = some (p, q) := by
    rw [hpts]
    exact Segments.exists_enclosing (hzero ▸ Fin.zero_le k) ⟨last, hlast, hmax ▸ hk'⟩
  obtain ⟨hp, hq, -, -⟩ := Segments.enclosing_spec henc
  have hrate := Segments.Rising.enclosing_val hrising henc
  have hbps := toBps_eq (min_le_right u Fraction.one) hk
  have hfind := henc
  unfold Segments.enclosing at hfind
  have heval : c.getBorrowRate u =
      if k = p.utilizationRateBps then pure (Fraction.fromBps (Word.widen p.borrowRateBps))
      else if k = q.utilizationRateBps then pure (Fraction.fromBps (Word.widen q.borrowRateBps))
      else (do let segment ← CurveSegment.fromPoints p q
               segment.getBorrowRate (min u Fraction.one)) := by
    simp only [getBorrowRate, hbps, ok_bind, unwrap, hfind]
  by_cases hstart : k = p.utilizationRateBps
  · have hstart' : roundedBps u = p.utilizationRateBps := by rw [← hk, hstart]
    refine ⟨p, q, _, henc, by rw [heval, if_pos hstart]; rfl, ?_⟩
    exact ⟨le_rfl, fromBps_mono hrate, fun _ ↦ rfl, fun h ↦ absurd hstart' h,
      fun h ↦ absurd hstart' h⟩
  have hstart' : roundedBps u ≠ p.utilizationRateBps := hk ▸ fun h ↦ hstart (Fin.ext h)
  by_cases hstop : k = q.utilizationRateBps
  · have hstop' : roundedBps u = q.utilizationRateBps := by rw [← hk, hstop]
    refine ⟨p, q, _, henc, by rw [heval, if_neg hstart, if_pos hstop]; rfl, ?_⟩
    exact ⟨fromBps_mono hrate, le_rfl, fun h ↦ absurd h hstart', fun _ _ ↦ rfl,
      fun _ h ↦ absurd hstop' h⟩
  · have hstop' : roundedBps u ≠ q.utilizationRateBps := hk ▸ fun h ↦ hstop (Fin.ext h)
    obtain ⟨r, hr, hbits, hle⟩ := CurveSegment.getBorrowRate_between hrate (min_le_right u _) hk
      (lt_of_le_of_ne hp (Ne.symm hstart)) (lt_of_le_of_ne hq hstop)
    refine ⟨p, q, r, henc, by rw [heval, if_neg hstart, if_neg hstop, hr], ?_⟩
    refine ⟨?_, hle, fun h ↦ absurd h hstart', fun _ h ↦ absurd h hstop', fun _ _ ↦ hbits⟩
    rw [Fraction.le_iff, hbits]
    exact Nat.le_add_left _ _

theorem getBorrowRate_mono (hc : c.validate = .ok ()) (huv : u ≤ v)
    (hr : c.getBorrowRate u = .ok r) (hs : c.getBorrowRate v = .ok s) : r ≤ s := by
  obtain ⟨k, hk⟩ := exists_roundedBps u
  obtain ⟨l, hl⟩ := exists_roundedBps v
  have hkl : k ≤ l := by
    rw [Fin.le_def, hk, hl]
    exact roundedBps_mono huv
  obtain ⟨p, q, r', henc, hr', hrate⟩ := getBorrowRate_spec hc hk
  obtain ⟨p', q', s', henc', hs', hrate'⟩ := getBorrowRate_spec hc hl
  obtain rfl := Except.ok.inj (hr'.symm.trans hr)
  obtain rfl := Except.ok.inj (hs'.symm.trans hs)
  obtain ⟨-, -, -, -, hrising, -⟩ := validate_spec hc
  rcases Segments.Rising.enclosing_le hrising hkl henc henc' with hsame | hval
  · -- Within one segment.
    obtain ⟨rfl, rfl⟩ := Prod.mk.inj hsame
    obtain ⟨hpk, hkq, -, -⟩ := Segments.enclosing_spec henc
    obtain ⟨hpl, hlq, -, -⟩ := Segments.enclosing_spec henc'
    rw [Fin.le_def, hk] at hpk hkq
    rw [Fin.le_def, hl] at hpl hlq
    have hmono := roundedBps_mono huv
    by_cases hstart : roundedBps u = p.utilizationRateBps
    · rw [hrate.start hstart]
      exact hrate'.lower
    by_cases hstop : roundedBps v = q.utilizationRateBps
    · rw [hrate'.stop (by omega) hstop]
      exact hrate.upper
    · rw [Fraction.le_iff, hrate.between hstart (by omega), hrate'.between (by omega) hstop]
      have hmin : (min u Fraction.one).bits ≤ (min v Fraction.one).bits :=
        Fraction.le_iff.1 (min_le_min_right _ huv)
      gcongr
  · exact hrate.upper.trans ((fromBps_mono hval).trans hrate'.lower)

theorem roundedBps_fromBps {n : U32} (h : n ≤ maxUtilizationRateBps) :
    roundedBps (Fraction.fromBps (Word.widen n)) = n := by
  have hn : (n : ℕ) ≤ 10000 := Fin.le_def.1 h
  have hbits : (min (Fraction.fromBps (Word.widen n)) Fraction.one).bits = n * 2 ^ 60 / 10000 := by
    rw [Fraction.bits_min, Fraction.bits_fromBps, Fraction.bits_one, Word.widen_val]
    omega
  rw [roundedBps, hbits]
  omega

theorem find_eq_of_ne_max (hc : c.validate = .ok ()) (hp : p ∈ c.points)
    (hne : p.utilizationRateBps ≠ maxUtilizationRateBps) :
    c.points.find? (·.utilizationRateBps = p.utilizationRateBps) = some p := by
  simp only [validate, bind_eq_ok, unwrap_eq_ok, require_eq_ok] at hc
  obtain ⟨first, hfirst, -, -, -, -, -, -, hpts⟩ := hc
  cases hc : c.points with
  | nil => rw [hc] at hp; cases hp
  | cons a pts =>
    rw [hc] at hp hfirst hpts
    obtain rfl := Option.some.inj hfirst
    have hstrict := validatePoints_strict hpts
    rw [List.tail_cons] at hstrict
    clear hpts hfirst hc
    induction pts generalizing a with
    | nil =>
      rw [List.mem_singleton.1 hp, List.find?_cons, decide_eq_true rfl]
    | cons b pts ih =>
      obtain ⟨hhead, htail⟩ := List.pairwise_cons.1 hstrict
      rcases List.mem_cons.1 hp with rfl | hp
      · rw [List.find?_cons, decide_eq_true rfl]
      · rw [List.find?_cons, decide_eq_false]
        · exact ih b hp htail
        · intro hkey
          exact absurd hkey (hhead p hp (hkey ▸ hne)).ne

theorem getBorrowRate_point (hc : c.validate = .ok ()) (hmax : p.utilizationRateBps ≤
    maxUtilizationRateBps)
    (hp : c.points.find? (·.utilizationRateBps = p.utilizationRateBps) = some p) :
    c.getBorrowRate (Fraction.fromBps (Word.widen p.utilizationRateBps)) =
      .ok (Fraction.fromBps (Word.widen p.borrowRateBps)) := by
  have hk := (roundedBps_fromBps hmax).symm
  obtain ⟨a, b, r, henc, hr, hrate⟩ := getBorrowRate_spec hc hk
  obtain ⟨-, -, -, -, hrising, -⟩ := validate_spec hc
  have hfirst := Segments.Rising.enclosing_first hrising hp henc
  rw [hr]
  split_ifs at hfirst with hstart
  · rw [hrate.start (by rw [← hk, hstart]), hfirst]
  · rw [hrate.stop (fun h ↦ hstart (Fin.ext (hk.trans h))) (by rw [← hk, hfirst]), hfirst]

/-- A validated curve is total, constant above the full utilization and monotone, stays between the
rates of its first and its last point, and meets its points; of several points at the full
utilization it meets the first. -/
theorem getBorrowRate_correct {first last : CurvePoint} (hc : c.validate = .ok ())
    (hlen : c.points.length = 11) (hfirst : c.points.head? = some first)
    (hlast : c.points.getLast? = some last) :
    (∀ u, ∃ r, c.getBorrowRate u = .ok r ∧
      Fraction.fromBps (Word.widen first.borrowRateBps) ≤ r ∧
      r ≤ Fraction.fromBps (Word.widen last.borrowRateBps)) ∧
    (∀ u, Fraction.one ≤ u → c.getBorrowRate u = c.getBorrowRate Fraction.one) ∧
    (∀ u v r s, u ≤ v → c.getBorrowRate u = .ok r → c.getBorrowRate v = .ok s → r ≤ s) ∧
    ∀ p ∈ c.points, p.utilizationRateBps ≠ maxUtilizationRateBps ∨
        c.points.find? (·.utilizationRateBps = maxUtilizationRateBps) = some p →
      c.getBorrowRate (Fraction.fromBps (Word.widen p.utilizationRateBps)) =
        .ok (Fraction.fromBps (Word.widen p.borrowRateBps)) := by
  obtain ⟨-, -, -, -, hrising, -⟩ := validate_spec hc
  have hkeys : Segments.Rising CurvePoint.utilizationRateBps CurvePoint.utilizationRateBps
      c.points := hrising.imp fun h ↦ ⟨h.1, h.1⟩
  have hfull : last.utilizationRateBps = maxUtilizationRateBps := by
    simp only [validate, bind_eq_ok, unwrap_eq_ok, require_eq_ok] at hc
    obtain ⟨-, -, -, -, last', hlast', -, hmax, -⟩ := hc
    rw [List.getLast?_eq_getElem?, hlen] at hlast
    obtain rfl := Option.some.inj (hlast'.symm.trans hlast)
    exact hmax
  refine ⟨fun u ↦ ?_, fun u hu ↦ ?_, fun u v r s huv hr hs ↦ getBorrowRate_mono hc huv hr hs,
    fun p hp hwhich ↦ ?_⟩
  · obtain ⟨k, hk⟩ := exists_roundedBps u
    obtain ⟨p, q, r, henc, hr, hrate⟩ := getBorrowRate_spec hc hk
    obtain ⟨-, -, hp, hq⟩ := Segments.enclosing_spec henc
    have hp' := Segments.Rising.val_le hrising hp hfirst hlast
    have hq' := Segments.Rising.val_le hrising hq hfirst hlast
    exact ⟨r, hr, (fromBps_mono hp'.1).trans hrate.lower, hrate.upper.trans (fromBps_mono hq'.2)⟩
  · rw [getBorrowRate, getBorrowRate, min_eq_right hu, min_self]
  · have hmax : p.utilizationRateBps ≤ maxUtilizationRateBps :=
      hfull ▸ (hkeys.val_le hp hfirst hlast).2
    apply getBorrowRate_point hc hmax
    rcases hwhich with hne | hfind
    · exact find_eq_of_ne_max hc hp hne
    · have hkey : p.utilizationRateBps = maxUtilizationRateBps := by
        simpa using List.find?_some hfind
      rw [hkey]
      exact hfind

/-- A curve with a kink at 80% utilization. -/
def kinked : BorrowRateCurve where
  points := ⟨0, 100⟩ :: ⟨8000, 2000⟩ :: List.replicate 9 ⟨10000, 15000⟩

theorem getBorrowRate_kinked : kinked.getBorrowRate (Fraction.fromBps (Word.widen (8000 : U32))) =
    .ok (Fraction.fromBps (Word.widen (2000 : U32))) :=
  (getBorrowRate_correct (c := kinked) (by decide) rfl rfl rfl).2.2.2 ⟨8000, 2000⟩
    (.tail _ (.head _)) (.inl (by decide))

/-- The validator accepts two rates at the full utilization, and the second one is never reached. -/
def forked : BorrowRateCurve where
  points := ⟨0, 0⟩ :: ⟨10000, 100⟩ :: List.replicate 9 ⟨10000, 200⟩

theorem forked_missesPoint : forked.validate = .ok () ∧ forked.points.length = 11 ∧
    ∃ p ∈ forked.points, forked.getBorrowRate (Fraction.fromBps (Word.widen p.utilizationRateBps)) ≠
      .ok (Fraction.fromBps (Word.widen p.borrowRateBps)) := by
  refine ⟨by decide, rfl, ⟨10000, 200⟩, .tail _ (.tail _ (.head _)), ?_⟩
  decide

end BorrowRateCurve

end Klend
