import BlockStage.Plane.Hypotenuse

/-!
Places on the stage. The stage is a square; every place an actor takes is moved into it.
-/

namespace BlockStage

/-- The largest coordinate on the stage; the smallest is zero. -/
def stageExtent : Float := 450

/-- Brings a coordinate onto the stage. One that is not a number goes to zero. -/
def clampCoordinate (value : Float) : Float :=
  if value.isNaN then 0
  else if value < 0 then 0
  else if stageExtent < value then stageExtent
  else value

/-- A place in the plane of the stage. -/
structure Position where
  x : Float
  y : Float

/-- The place on the stage that stands for `p`. -/
def Position.clamped (p : Position) : Position := ⟨clampCoordinate p.x, clampCoordinate p.y⟩

/-- The distance between two places. -/
def Position.distance (p q : Position) : Float := Plane.length (p.x - q.x) (p.y - q.y)

end BlockStage
