import BlockStage.Plane.Position
import BlockStage.Proofs.Plane.Length

/-!
# Places on the stage

Whatever a coordinate is, a clamped one is a number between the edges of the stage, and one that
lies there already is not moved (`clampCoordinate_of_withinExtent`).  The sides between two places
on the stage are short, so their distance is a number (`Position.not_isNaN_distance`).
-/

namespace BlockStage

open Float.Model Float.Model.UnpackedFloat

variable {x y : Float} {p q : Position}

/-- Whether a coordinate is a number between the edges of the stage. -/
structure WithinExtent (x : Float) : Prop where
  number : x.isNaN = false
  nonneg : 0 ≤ x
  le_extent : x ≤ stageExtent

/-- Whether both coordinates of a place are. -/
structure Position.OnStage (p : Position) : Prop where
  x : WithinExtent p.x
  y : WithinExtent p.y

theorem withinExtent_zero : WithinExtent 0 :=
  ⟨rfl, by decide, by decide⟩

theorem withinExtent_extent : WithinExtent stageExtent := ⟨rfl, by decide, by decide⟩

/-- **Whatever a coordinate is, it is brought onto the stage.** -/
theorem withinExtent_clampCoordinate (x : Float) : WithinExtent (clampCoordinate x) := by
  rw [clampCoordinate]
  split
  · exact withinExtent_zero
  · next number =>
    replace number : x.isNaN = false := Bool.eq_false_iff.mpr number
    split
    · exact withinExtent_zero
    · next low =>
      split
      · exact withinExtent_extent
      · next high =>
        exact ⟨number, Binary64.le_of_not_lt number rfl low, Binary64.le_of_not_lt rfl number high⟩

/-- A coordinate on the stage is not moved. -/
theorem clampCoordinate_of_withinExtent (h : WithinExtent x) : clampCoordinate x = x := by
  rw [clampCoordinate, h.number, if_neg Bool.false_ne_true,
    if_neg (Binary64.not_lt_of_le h.nonneg), if_neg (Binary64.not_lt_of_le h.le_extent)]

theorem Position.onStage_clamped (p : Position) : p.clamped.OnStage :=
  ⟨withinExtent_clampCoordinate p.x, withinExtent_clampCoordinate p.y⟩

theorem Position.clamped_of_onStage (h : p.OnStage) : p.clamped = p := by
  rw [clamped, clampCoordinate_of_withinExtent h.x, clampCoordinate_of_withinExtent h.y]

/-! ## Distances -/

/-- The stage is less than 512 wide. -/
theorem WithinExtent.below (h : WithinExtent x) : Binary64.Below 9 x := by
  have low := Binary64.kind_le_of_le h.nonneg
  have high := Binary64.kind_le_of_le h.le_extent
  rcases Binary64.number_cases h.number with ⟨s, parts⟩ | zero | ⟨s, m, e, pos, parts⟩
  · rw [parts] at low high
    cases s with
    | negative => exact absurd low (by decide : ¬ (0 : ℤ) ≤ -2)
    | positive => exact absurd high (by decide : ¬ (2 : ℤ) ≤ 1)
  · exact .inl zero
  · rw [parts] at low
    cases s with
    | negative => exact absurd low (by decide : ¬ (0 : ℤ) ≤ -1)
    | positive =>
        have extent : stageExtent.toModel.unpack =
            .finite .positive (450 * 2 ^ 44) (-44) (by decide) := rfl
        exact .inr ⟨_, m, e, pos, parts, Binary64.totalExponent_le_of_le parts extent h.le_extent⟩

/-- **Two places on the stage have a distance.** -/
theorem Position.not_isNaN_distance (first : p.OnStage) (second : q.OnStage) :
    (p.distance q).isNaN = false :=
  Plane.not_isNaN_length (first.x.below.sub second.x.below (by decide))
    (first.y.below.sub second.y.below (by decide)) (by decide)

end BlockStage
