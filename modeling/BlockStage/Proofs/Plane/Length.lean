import BlockStage.Plane.Hypotenuse
import BlockStage.Proofs.Binary64.Arithmetic
import BlockStage.Proofs.Binary64.Constants

/-!
# Lengths are numbers

A vector whose sides are not too long has a length (`Plane.not_isNaN_length`).  The length divides
by the root of a sum of squares; sides so short that their squares would vanish are scaled first,
so this root is positive, and no product on the way is too large.
-/

namespace BlockStage.Plane

open Float.Model Float.Model.UnpackedFloat Binary64

variable {x y ax ay : Float} {a : Nat} {l : Int}

/-- The corrected root of two sides of middling size is a number. -/
theorem not_isNaN_correctedRoot (long : Between l a ax) (short : Between l a ay) (low : -536 ≤ l)
    (high : a ≤ 500) : (correctedRoot ax ay).isNaN = false := by
  have squares := (long.mul long (by omega) (by omega)).add (short.mul short (by omega) (by omega))
    (by omega) (by omega)
  have root : Between l (a + 3) (ax * ax + ay * ay).sqrt :=
    (squares.sqrt (by omega) (by omega)).mono (by omega) (by omega)
  have two : Below 2 2 := between_two.below (by omega)
  have four : Below 3 4 := between_four.below (by omega)
  have longBelow : Below a ax := long.below (by omega)
  have shortBelow : Below a ay := short.below (by omega)
  rw [correctedRoot]
  generalize (ax * ax + ay * ay).sqrt = h at root
  have rootBelow : Below (a + 3) h := root.below (by omega)
  have double : Between (l + 1) (a + 6) (2 * h) :=
    (between_two.mul root (by omega) (by omega)).mono (by omega) (by omega)
  -- the correction is finite, so its quotient by the doubled root is a number
  have corrected {t1 t2 : Float} (left : Below (2 * a + 20) t1) (right : Below (2 * a + 20) t2) :
      (h - (t1 + t2) / (2 * h)).isNaN = false :=
    rootBelow.not_isNaN_sub
      (double.not_isNaN_div (left.add right (by omega)).not_isNaN)
  dsimp only
  split
  · have delta : Below (a + 5) (h - ay) :=
      rootBelow.sub (shortBelow.mono (by omega)) (by omega)
    have twice : Below (a + 8) (2 * (h - ay)) := (two.mul delta (by omega)).mono (by omega)
    have first : Below (a + 10) (2 * (h - ay) - ax) :=
      twice.sub (longBelow.mono (by omega)) (by omega)
    have sides : Below (a + 2) (ax - ay) := longBelow.sub shortBelow (by omega)
    have second : Below (a + 7) (h - ay - 2 * (ax - ay)) :=
      delta.sub ((two.mul sides (by omega)).mono (by omega)) (by omega)
    exact corrected ((longBelow.mul first (by omega)).mono (by omega))
      ((second.mul delta (by omega)).mono (by omega))
  · have delta : Below (a + 5) (h - ax) :=
      rootBelow.sub (longBelow.mono (by omega)) (by omega)
    have twice : Below (a + 8) (2 * (h - ax)) := (two.mul delta (by omega)).mono (by omega)
    have doubled : Below (a + 3) (2 * ay) := (two.mul shortBelow (by omega)).mono (by omega)
    have first : Below (a + 5) (ax - 2 * ay) :=
      (longBelow.mono (by omega)).sub doubled (by omega)
    have fourfold : Below (a + 9) (4 * (h - ax)) := (four.mul delta (by omega)).mono (by omega)
    have second : Below (a + 11) (4 * (h - ax) - ay) :=
      fourfold.sub (shortBelow.mono (by omega)) (by omega)
    have product : Below (2 * a + 18) ((4 * (h - ax) - ay) * ay) :=
      (second.mul shortBelow (by omega)).mono (by omega)
    have square : Below (2 * a + 18) ((h - ax) * (h - ax)) :=
      (delta.mul delta (by omega)).mono (by omega)
    exact corrected ((twice.mul first (by omega)).mono (by omega)) (product.add square (by omega))

/-- Of two sides that are not too long, the shorter one first, no square leaves the range of
doubles once they are scaled. -/
theorem not_isNaN_sortedLength (long : Below a ax) (short : Below a ay) (nonneg : 0 ≤ ay)
    (sorted : ay ≤ ax) (high : a ≤ 198) : (sortedLength ax ay).isNaN = false := by
  have sum : (ax + ay).isNaN = false := long.not_isNaN_add short.not_isNaN
  rw [sortedLength]
  split
  · next huge =>
    have bound := (between_powerOfTwo (k := 511) (by decide) (by decide)).of_le long (le_of_lt huge)
    obtain ⟨m, e, pos, -, above, below⟩ := bound
    omega
  split
  · next tiny =>
    have least : Between (-458) (-458) (powerOfTwo (-459)) :=
      between_powerOfTwo (by decide) (by decide)
    have part : Between (-53) (-53) (powerOfTwo (-54)) :=
      between_powerOfTwo (by decide) (by decide)
    have scale : Between (-599) (-599) (powerOfTwo (-600)) :=
      between_powerOfTwo (by decide) (by decide)
    split
    · exact sum
    · next close =>
      rcases short.zero_or_between nonneg with zero | short'
      · exact absurd (part.div_le_of_zero zero sorted) close
      -- the long side is not much longer than the short one, or the two would just be added
      have long' := short'.of_le long sorted
      have short'' := short'.of_ge least (le_of_lt tiny)
      have quotient : Between (-1020) (-403) (ay / powerOfTwo (-54)) :=
        short''.div part (by decide) (by decide)
      have long'' := long'.of_ge quotient
        (le_of_not_le quotient.not_isNaN long.not_isNaN close)
      have sides := not_isNaN_correctedRoot (a := 198) (l := -474)
        ((long''.div scale (by decide) (by decide)).mono (by decide) (by decide))
        ((short''.div scale (by decide) (by decide)).mono (by decide) (by decide))
        (by decide) (by decide)
      exact scale.not_isNaN_mul sides
  · next enough =>
    have least := between_powerOfTwo (k := -459) (by decide) (by decide)
    have short' := least.of_le short (le_of_not_lt short.not_isNaN least.not_isNaN enough)
    split
    · exact sum
    · exact not_isNaN_correctedRoot (short'.of_le long sorted) short' (by decide) (by omega)

/-- **A vector with sides that are not too long has a length.** -/
theorem not_isNaN_length (left : Below a x) (right : Below a y) (high : a ≤ 198) :
    (length x y).isNaN = false := by
  rw [length, left.not_isInf, right.not_isInf, left.not_isNaN, right.not_isNaN]
  rw [if_neg (by decide), if_neg (by decide)]
  dsimp only
  split
  · next sorted =>
    exact not_isNaN_sortedLength right.abs left.abs (abs_nonneg left.not_isNaN) (le_of_lt sorted)
      high
  · next sorted =>
    exact not_isNaN_sortedLength left.abs right.abs (abs_nonneg right.not_isNaN)
      (le_of_not_lt left.abs.not_isNaN right.abs.not_isNaN sorted) high

end BlockStage.Plane
