import Klend.Machine.Fraction

/-! # Borrow rate curve

A piecewise linear map from the utilization of a reserve to its yearly variable
borrow rate, given by eleven points in basis points.
-/

namespace Klend

@[ext] structure CurvePoint where
  utilizationRateBps : U32
  borrowRateBps : U32
deriving DecidableEq, Repr, Inhabited

structure CurveSegment where
  slopeNom : U32
  slopeDenom : U32
  startPoint : CurvePoint
deriving DecidableEq, Repr

namespace CurveSegment

def fromPoints (start fin : CurvePoint) : Result CurveSegment := do
  let slopeNom ← okOr (Word.checkedSub fin.borrowRateBps start.borrowRateBps)
    .invalidBorrowRateCurvePoint
  require (start.utilizationRateBps < fin.utilizationRateBps) .invalidBorrowRateCurvePoint
  let slopeDenom ← unwrap (Word.checkedSub fin.utilizationRateBps start.utilizationRateBps)
  pure { slopeNom, slopeDenom, startPoint := start }

def getBorrowRate (s : CurveSegment) (utilizationRate : Fraction) : Result Fraction := do
  let startUtilizationRate := Fraction.fromBps (Word.widen s.startPoint.utilizationRateBps)
  let coef ← okOr (utilizationRate.checkedSub startUtilizationRate) .invalidUtilizationRate
  let nom ← coef.mulInt s.slopeNom
  let baseRate ← nom.divInt s.slopeDenom
  baseRate.add (Fraction.fromBps (Word.widen s.startPoint.borrowRateBps))

end CurveSegment

/-- The curve's points, eleven of them in a stored account. -/
structure BorrowRateCurve where
  points : List CurvePoint
deriving DecidableEq, Repr, Inhabited

namespace BorrowRateCurve

def maxUtilizationRateBps : U32 := 10000

/-- The loop of `validate`, from the point after `lastPt` on. -/
def validatePoints (lastPt : CurvePoint) : List CurvePoint → Result Unit
  | [] => pure ()
  | pt :: rest => do
    if lastPt.utilizationRateBps = maxUtilizationRateBps then
      require (pt.utilizationRateBps = maxUtilizationRateBps) .invalidBorrowRateCurvePoint
    else
      require (lastPt.utilizationRateBps < pt.utilizationRateBps) .invalidBorrowRateCurvePoint
    require (lastPt.borrowRateBps ≤ pt.borrowRateBps) .invalidBorrowRateCurvePoint
    validatePoints pt rest

def validate (c : BorrowRateCurve) : Result Unit := do
  let first ← unwrap c.points[0]?
  require (first.utilizationRateBps = 0) .invalidBorrowRateCurvePoint
  let last ← unwrap c.points[10]?
  require (last.utilizationRateBps = maxUtilizationRateBps) .invalidBorrowRateCurvePoint
  validatePoints first c.points.tail

def newFlat (borrowRateBps : U32) : BorrowRateCurve where
  points := ⟨0, borrowRateBps⟩ :: List.replicate 10 ⟨maxUtilizationRateBps, borrowRateBps⟩

def getBorrowRate (c : BorrowRateCurve) (utilizationRate : Fraction) : Result Fraction := do
  let utilizationRate := min utilizationRate Fraction.one
  let bps ← utilizationRate.toBps 32
  let utilizationRateBps ← unwrap bps
  let (startPt, endPt) ← unwrap <| (c.points.zip c.points.tail).find? fun (first, second) ↦
    first.utilizationRateBps ≤ utilizationRateBps ∧ utilizationRateBps ≤ second.utilizationRateBps
  if utilizationRateBps = startPt.utilizationRateBps then
    pure (Fraction.fromBps (Word.widen startPt.borrowRateBps))
  else if utilizationRateBps = endPt.utilizationRateBps then
    pure (Fraction.fromBps (Word.widen endPt.borrowRateBps))
  else do
    let segment ← CurveSegment.fromPoints startPt endPt
    segment.getBorrowRate utilizationRate

end BorrowRateCurve

example : (BorrowRateCurve.newFlat 500).validate = .ok () := by decide

end Klend
