import BlockStage.Binary64

/-!
How long a wait takes. The clock counts whole milliseconds: a wait is computed in nanoseconds
first, rounded to the nearest one, and then ends with the millisecond it reaches into.
-/

namespace BlockStage.Wait

/-- No wait takes more milliseconds than this. -/
def longest : Nat := 946080000000

/-- The milliseconds of a wait of so many seconds. A negative time counts as endless, like one
that is too large or not a number. -/
def ofSeconds (seconds : Float) : Nat :=
  match Binary64.exact seconds with
  | .finite negative mantissa exponent =>
    if negative ∧ mantissa ≠ 0 then longest
    else
      let nanoseconds := roundDiv .even (mantissa * 1000000000 * pow2 exponent)
        (pow2 (-exponent))
      min ((nanoseconds + 999999) / 1000000) longest
  | _ => longest

/-- The milliseconds of a wait of so many milliseconds. -/
def ofMillis (millis : Nat) : Nat := min millis longest

/-- The milliseconds of dialogue of so many seconds on a time scale. -/
def dialogue (scale seconds : Float) : Nat := ofSeconds (seconds * scale)

end BlockStage.Wait
