import BlockStage.Binary64

/-!
The direction a heading points in. A heading is an angle in degrees of any size; the angle that
sine and cosine see is brought into one turn first, exactly.
-/

namespace BlockStage.Plane

/-- The remainder of `x` by `modulus` with the sign of `x`, without rounding; the remainder of a
number that is not finite is not a number. -/
def remainder (x : Float) (modulus : Nat) : Float :=
  match Binary64.exact x with
  | .finite negative mantissa exponent =>
    Binary64.ofScaled negative
      (mantissa * pow2 exponent % (modulus * pow2 (-exponent)))
      (min exponent 0)
  | _ => 0 / 0

/-- The angle of a heading within one turn, in degrees. Adding the turn to a tiny negative
remainder may round up to the whole turn. -/
def withinTurn (heading : Float) : Float :=
  let r := remainder heading 360
  if r < 0 then r + 360 else r

/-- One degree in radians, as a double: `0x3F91DF46A2529D39`. -/
def radiansPerDegree : Float := Float.ofBits 0x3F91DF46A2529D39

/-- A circular function of the machine. All that is known of it without the machine is said here:
an angle that is not finite has no value, and the value of any other lies between -1 and 1. -/
def circular (computed : Float → Float) (angle : Float) : Float :=
  if angle.isFinite then
    let value := computed angle
    if -1 ≤ value ∧ value ≤ 1 then value else 0
  else 0 / 0

def cosine (angle : Float) : Float := circular Float.cos angle

def sine (angle : Float) : Float := circular Float.sin angle

/-- The unit vector of a heading in degrees. A heading that is not finite has none. -/
def direction (heading : Float) : Float × Float :=
  let angle := withinTurn heading * radiansPerDegree
  (cosine angle, sine angle)

end BlockStage.Plane
