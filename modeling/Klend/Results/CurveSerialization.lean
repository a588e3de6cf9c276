import Klend.Results.BorrowRates

/-! # Curves outside the program

A curve is written without the points behind its first one at full utilization. Read back,
that point fills the places of the others, and every rate is what it was.
-/

namespace Klend.BorrowRateCurve

/-- The points that the serializer takes, with its flag for the end of the curve. -/
def takePoints (endReached : Bool) : List CurvePoint → List CurvePoint
  | [] => []
  | p :: rest =>
    if endReached then []
    else p :: takePoints (p.utilizationRateBps = maxUtilizationRateBps) rest

def serializePoints (c : BorrowRateCurve) : List CurvePoint := takePoints false c.points

def fromPoints (pts : List CurvePoint) : Result BorrowRateCurve := do
  require (2 ≤ pts.length) .invalidBorrowRateCurvePoint
  require (pts.length ≤ 11) .invalidBorrowRateCurvePoint
  let last ← unwrap pts.getLast?
  require (last.utilizationRateBps = maxUtilizationRateBps) .invalidBorrowRateCurvePoint
  let curve : BorrowRateCurve := { points := pts ++ List.replicate (11 - pts.length) last }
  curve.validate
  pure curve

variable {c d : BorrowRateCurve} {p m : CurvePoint} {pts rest : List CurvePoint} {u : Fraction}

theorem takePoints_eq (h : ∃ p ∈ pts, p.utilizationRateBps = maxUtilizationRateBps) :
    ∃ front m back, pts = front ++ m :: back ∧ takePoints false pts = front ++ [m] ∧
      m.utilizationRateBps = maxUtilizationRateBps ∧
      ∀ p ∈ front, p.utilizationRateBps ≠ maxUtilizationRateBps := by
  induction pts with
  | nil =>
    obtain ⟨p, hp, -⟩ := h
    cases hp
  | cons a pts ih =>
    rw [takePoints, if_neg Bool.false_ne_true]
    by_cases ha : a.utilizationRateBps = maxUtilizationRateBps
    · refine ⟨[], a, pts, rfl, ?_, ha, fun p hp ↦ absurd hp List.not_mem_nil⟩
      cases pts with
      | nil => rfl
      | cons b pts => rw [takePoints, if_pos (decide_eq_true ha), List.nil_append]
    · obtain ⟨p, hp, hmax⟩ := h
      have hpts : p ∈ pts := by
        rcases List.mem_cons.1 hp with rfl | hp
        · exact absurd hmax ha
        · exact hp
      obtain ⟨front, m, back, rfl, htake, hm, hfront⟩ := ih ⟨p, hpts, hmax⟩
      refine ⟨a :: front, m, back, rfl, ?_, hm, List.forall_mem_cons.2 ⟨ha, hfront⟩⟩
      rw [decide_eq_false ha, htake]
      rfl

theorem validatePoints_append :
    validatePoints p (pts ++ m :: rest) = .ok () ↔
      validatePoints p (pts ++ [m]) = .ok () ∧ validatePoints m rest = .ok () := by
  have hone {p : CurvePoint} {rest : List CurvePoint} :
      validatePoints p (m :: rest) = .ok () ↔
        validatePoints p [m] = .ok () ∧ validatePoints m rest = .ok () := by
    rw [validatePoints, validatePoints]
    split <;> simp [validatePoints, and_assoc]
  induction pts generalizing p with
  | nil => exact hone
  | cons q pts ih =>
    rw [List.cons_append, List.cons_append, validatePoints, validatePoints]
    split <;> simp [ih, and_assoc]

theorem validatePoints_replicate (hm : m.utilizationRateBps = maxUtilizationRateBps) (n : ℕ) :
    validatePoints m (List.replicate n m) = .ok () := by
  induction n with
  | zero => rfl
  | succ n ih =>
    rw [List.replicate_succ, validatePoints, if_pos hm]
    simp [hm, ih]

theorem serializePoints_spec (hc : c.validate = .ok ()) : ∃ first front m back,
    c.points = first :: front ++ m :: back ∧ c.serializePoints = first :: front ++ [m] ∧
      first.utilizationRateBps = 0 ∧ m.utilizationRateBps = maxUtilizationRateBps ∧
      front.length ≤ 9 ∧ validatePoints first (front ++ [m]) = .ok () := by
  simp only [validate, bind_eq_ok, unwrap_eq_ok, require_eq_ok] at hc
  obtain ⟨first, hfirst, -, hzero, last, hlast, -, hmax, hpts⟩ := hc
  obtain ⟨front, m, back, hpoints, htake, hm, hfront⟩ :=
    takePoints_eq ⟨last, List.mem_of_getElem? hlast, hmax⟩
  -- the last place holds a point at full utilization, so the first such point is not behind it
  have hlength : front.length ≤ 10 := by
    by_contra hlong
    rw [hpoints, List.getElem?_append_left (by omega)] at hlast
    exact hfront last (List.mem_of_getElem? hlast) hmax
  cases front with
  | nil =>
    rw [hpoints] at hfirst
    obtain rfl : m = first := Option.some.inj hfirst
    rw [hm] at hzero
    cases hzero
  | cons a front =>
    rw [hpoints] at hfirst hpts
    obtain rfl : a = first := Option.some.inj hfirst
    refine ⟨a, front, m, back, hpoints, htake, hzero, hm, Nat.le_of_succ_le_succ hlength, ?_⟩
    exact (validatePoints_append.1 hpts).1

theorem getBorrowRate_congr (h : ∀ k : U32, (k : ℕ) = roundedBps u →
    Segments.enclosing CurvePoint.utilizationRateBps k c.points =
      Segments.enclosing CurvePoint.utilizationRateBps k d.points) :
    c.getBorrowRate u = d.getBorrowRate u := by
  obtain ⟨k, hk⟩ := exists_roundedBps u
  have hbps := toBps_eq (min_le_right u Fraction.one) hk
  have henc := h k hk
  unfold Segments.enclosing at henc
  simp only [getBorrowRate, hbps, ok_bind, unwrap, henc]

theorem getBorrowRate_front {first : CurvePoint} {front back back' : List CurvePoint}
    (hc : c.points = first :: front ++ m :: back) (hd : d.points = first :: front ++ m :: back')
    (hzero : first.utilizationRateBps = 0) (hm : m.utilizationRateBps = maxUtilizationRateBps) :
    c.getBorrowRate u = d.getBorrowRate u := by
  apply getBorrowRate_congr
  intro k hk
  have hle : k ≤ maxUtilizationRateBps := Fin.le_def.2 (hk ▸ roundedBps_le)
  obtain ⟨p, q, henc⟩ : ∃ p q,
      Segments.enclosing CurvePoint.utilizationRateBps k (first :: (front ++ [m])) = some (p, q) :=
    Segments.exists_enclosing (hzero ▸ Fin.zero_le k) ⟨m, by simp, hm ▸ hle⟩
  have hback := Segments.enclosing_append henc back
  have hback' := Segments.enclosing_append henc back'
  simp only [List.cons_append, List.append_assoc, List.nil_append] at hback hback'
  rw [hc, hd, List.cons_append, List.cons_append, hback, hback']

/-- A validated curve survives the serializer: what is read back is validated, and has the same rate
at every utilization. -/
theorem fromPoints_serializePoints (hc : c.validate = .ok ()) :
    ∃ d, fromPoints c.serializePoints = .ok d ∧ d.validate = .ok () ∧
      ∀ u, d.getBorrowRate u = c.getBorrowRate u := by
  obtain ⟨first, front, m, back, hpoints, htake, hzero, hm, hlength, hvalid⟩ :=
    serializePoints_spec hc
  have hcount : (first :: front ++ [m]).length = front.length + 2 := by simp
  let d : BorrowRateCurve :=
    { points := first :: front ++ m :: List.replicate (11 - (front.length + 2)) m }
  have hvalidate : d.validate = .ok () := by
    have hlast : d.points[10]? = some m := by
      change (first :: front ++ m :: List.replicate (11 - (front.length + 2)) m)[10]? = some m
      rw [← List.replicate_succ, List.getElem?_append_right (by simp; omega),
        List.getElem?_replicate, if_pos (by simp)]
    simp only [validate, bind_eq_ok, unwrap_eq_ok, require_eq_ok]
    exact ⟨first, rfl, (), hzero, m, hlast, (), hm,
      validatePoints_append.2 ⟨hvalid, validatePoints_replicate hm _⟩⟩
  refine ⟨d, ?_, hvalidate, fun u ↦ getBorrowRate_front rfl hpoints hzero hm⟩
  have hlast : (first :: front ++ [m]).getLast? = some m := List.getLast?_concat
  have hd : (⟨first :: front ++ [m] ++ List.replicate (11 - (front.length + 2)) m⟩ :
      BorrowRateCurve) = d := by
    simp [d]
  simp only [htake, fromPoints, bind_eq_ok, require_eq_ok, unwrap_eq_ok, pure_eq_ok, hcount]
  exact ⟨(), by omega, (), by omega, m, hlast, (), hm, (), by rw [hd]; exact hvalidate, hd⟩

theorem fromPoints_forked : ∃ d, fromPoints forked.serializePoints = .ok d ∧
    d.validate = .ok () ∧ ∀ u, d.getBorrowRate u = forked.getBorrowRate u :=
  fromPoints_serializePoints (by decide)

end Klend.BorrowRateCurve
