import BlockStage.Binary64

/-!
The length of a vector in double precision. The square root of the sum of squares is corrected
by its own rounding error, so the result is within one unit in the last place of the exact
length; vectors so long or so short that a square would leave the range of doubles are scaled
by a power of two first. The order of the operations is part of the definition: another order
may change the last bit, and with it on which side of a threshold a length falls.
-/

namespace BlockStage.Plane

/-- The corrected root for `0 ≤ ay ≤ ax`, with no square out of range. -/
def correctedRoot (ax ay : Float) : Float :=
  let h := (ax * ax + ay * ay).sqrt
  if h ≤ 2 * ay then
    let delta := h - ay
    let t1 := ax * (2 * delta - ax)
    let t2 := (delta - 2 * (ax - ay)) * delta
    h - (t1 + t2) / (2 * h)
  else
    let delta := h - ax
    let t1 := 2 * delta * (ax - 2 * ay)
    let t2 := (4 * delta - ay) * ay + delta * delta
    h - (t1 + t2) / (2 * h)

/-- The length for `0 ≤ ay ≤ ax`. A side that cannot reach the last place of the other is just
added, for the sake of the rounding alone. -/
def sortedLength (ax ay : Float) : Float :=
  let scale := Binary64.powerOfTwo (-600)
  let negligible := Binary64.powerOfTwo (-54)
  if Binary64.powerOfTwo 511 < ax then
    if ay ≤ ax * negligible then ax + ay
    else correctedRoot (ax * scale) (ay * scale) / scale
  else if ay < Binary64.powerOfTwo (-459) then
    if ay / negligible ≤ ax then ax + ay
    else correctedRoot (ax / scale) (ay / scale) * scale
  else if ay ≤ ax * negligible then ax + ay
  else correctedRoot ax ay

/-- The length of the vector `(x, y)`. An infinite side makes it infinite, whatever the other
side is; otherwise a side that is not a number makes it not a number. -/
def length (x y : Float) : Float :=
  if x.isInf || y.isInf then 1 / 0
  else if x.isNaN || y.isNaN then 0 / 0
  else
    let ax := x.abs
    let ay := y.abs
    if ax < ay then sortedLength ay ax else sortedLength ax ay

end BlockStage.Plane
