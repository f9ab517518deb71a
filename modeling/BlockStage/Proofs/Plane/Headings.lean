import BlockStage.Plane.Direction
import BlockStage.Proofs.Binary64.Finiteness
import BlockStage.Proofs.Plane.Clamping

/-!
# Where headings point

A heading of any size is brought into one turn, which is far from the largest double, so every
finite heading points somewhere: both parts of its direction are finite
(`Plane.isFinite_direction`).  A heading that is not finite points nowhere
(`Plane.direction_of_not_isFinite`).
-/

namespace BlockStage

variable {heading angle : Float}

namespace Plane

/-! ## Remainders -/

/-- The remainder by a whole turn is not much larger than a turn, however large the heading is. -/
theorem below_remainder (finite : heading.isFinite = true) :
    Binary64.Below 13 (remainder heading 360) := by
  obtain ⟨negative, mantissa, exponent, parts⟩ := Binary64.isFinite_iff_exact.mp finite
  have whole : pow2 (min exponent 0) = 1 := by
    rw [pow2, Nat.pow_eq, Int.toNat_of_nonpos (by omega), Nat.pow_zero]
  have places : pow2 (-min exponent 0) = pow2 (-exponent) := by
    rw [pow2, pow2]
    congr 1
    omega
  have positive : 0 < pow2 (-exponent) := Nat.pow_pos Nat.two_pos
  have less : mantissa * pow2 exponent % (360 * pow2 (-exponent)) < 2 ^ 9 * pow2 (-exponent) :=
    (Nat.mod_lt _ (by omega)).trans_le (Nat.mul_le_mul_right _ (by decide))
  rw [remainder, parts]
  dsimp only
  rw [Binary64.ofScaled, whole, places, Nat.mul_one]
  exact Binary64.below_ofRatio negative positive less (by decide)

theorem remainder_of_not_isFinite (infinite : heading.isFinite = false) (modulus : Nat) :
    remainder heading modulus = 0 / 0 := by
  rw [remainder]
  split
  · next parts =>
    have finite := Binary64.isFinite_iff_exact.mpr ⟨_, _, _, parts⟩
    exact absurd (infinite.symm.trans finite) Bool.false_ne_true
  · rfl

/-! ## Angles -/

theorem below_turn : Binary64.Below 13 360 := .inr ⟨_, _, _, by decide, rfl, by decide⟩

theorem below_radiansPerDegree : Binary64.Below 1 radiansPerDegree :=
  .inr ⟨_, _, _, by decide, rfl, by decide⟩

theorem below_withinTurn (finite : heading.isFinite = true) :
    Binary64.Below 15 (withinTurn heading) := by
  have within := below_remainder finite
  rw [withinTurn]
  split
  · exact within.add below_turn (by decide)
  · exact within.mono (by decide)

theorem withinTurn_of_not_isFinite (infinite : heading.isFinite = false) :
    withinTurn heading = 0 / 0 := by
  rw [withinTurn, remainder_of_not_isFinite infinite]
  rfl

/-! ## Directions -/

/-- A circular function has a finite value at every finite angle. -/
theorem isFinite_circular (computed : Float → Float) (finite : angle.isFinite = true) :
    (circular computed angle).isFinite = true := by
  rw [circular, if_pos finite]
  dsimp only
  split
  · next bounds => exact Binary64.isFinite_of_le rfl rfl bounds.1 bounds.2
  · rfl

/-- **Every finite heading has a direction.** -/
theorem isFinite_direction (finite : heading.isFinite = true) :
    (direction heading).1.isFinite = true ∧ (direction heading).2.isFinite = true := by
  have angle : (withinTurn heading * radiansPerDegree).isFinite = true :=
    ((below_withinTurn finite).mul below_radiansPerDegree (by decide)).isFinite
  exact ⟨isFinite_circular Float.cos angle, isFinite_circular Float.sin angle⟩

/-- **A heading that is not finite has none.** -/
theorem direction_of_not_isFinite (infinite : heading.isFinite = false) :
    direction heading = (0 / 0, 0 / 0) := by
  have angle : (withinTurn heading * radiansPerDegree).isFinite = false := by
    rw [withinTurn_of_not_isFinite infinite]
    rfl
  have nowhere : ¬ (withinTurn heading * radiansPerDegree).isFinite = true := by
    rw [angle]
    exact Bool.false_ne_true
  rw [direction, cosine, sine, circular, circular, if_neg nowhere, if_neg nowhere]

end Plane

end BlockStage
