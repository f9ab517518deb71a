import BlockStage.Decimal.Shortest

/-!
How a double is written, with its shortest digits or with a fixed number of decimal places.
-/

namespace BlockStage.Decimal

/-! ### Shortest digits

A `Layout` holds the decisions that differ from one text format to the next: where the exponent
form begins, what marks a whole number, how a tie between two shortest decimals goes and what
stands for the numbers that are not finite. -/

/-- The decisions of a text format about its numbers. The point of `0.015` is at `-1`, that of
`15` at `2`. -/
structure Layout where
  /-- Which of two equally near shortest decimals is written. -/
  tie : Tie
  /-- The lowest place of the point that is written without an exponent, if there is one. -/
  pointFrom : Option Int
  /-- The highest place of the point that is written without an exponent, if there is one. -/
  pointTo : Option Int
  /-- What follows the digits of a whole number. -/
  wholeMark : String
  nan : String
  infinity : String
  negativeInfinity : String

/-- `n` zeros. -/
def zeros (n : Nat) : String := String.ofList (List.replicate n '0')

/-- Whether a point at `place` is written out rather than as an exponent. -/
def Layout.positional (layout : Layout) (place : Int) : Bool :=
  layout.pointFrom.all (· ≤ place) && layout.pointTo.all (place ≤ ·)

/-- The text of a decimal, sign aside. -/
def Layout.digits (layout : Layout) (d : Digits) : String :=
  let text := toString d.digits
  let place : Int := if d.digits = 0 then 1 else text.length + d.exponent
  if layout.positional place then
    if 0 ≤ d.exponent then text ++ zeros d.exponent.toNat ++ layout.wholeMark
    else if 0 < place then
      let (whole, rest) := text.toList.splitAt place.toNat
      String.ofList whole ++ "." ++ String.ofList rest
    else "0." ++ zeros (-place).toNat ++ text
  else
    let mantissa := match text.toList with
      | [] => ""
      | [c] => String.singleton c
      | c :: rest => String.ofList (c :: '.' :: rest)
    let power := place - 1
    mantissa ++ "e" ++ (if power < 0 then "-" else "+") ++ toString power.natAbs

def Layout.write (layout : Layout) (x : Float) : String :=
  match Binary64.exact x with
  | .nan => layout.nan
  | .infinite false => layout.infinity
  | .infinite true => layout.negativeInfinity
  | .finite negative mantissa exponent =>
    (if negative then "-" else "") ++ layout.digits (shortest layout.tie mantissa exponent)

/-- Plain text never uses an exponent and leaves whole numbers unmarked: `42`, `1.5`, `-0`. -/
def plain : Layout where
  tie := .up
  pointFrom := none
  pointTo := none
  wholeMark := ""
  nan := "NaN"
  infinity := "inf"
  negativeInfinity := "-inf"

/-! ### Fixed places

The exact binary value is rounded once, a tie to the even neighbour, and the sign stays even where
all digits are zero. -/

/-- `mantissa * 2 ^ exponent` in units of `10 ^ -places`, rounded to a whole number. -/
def fixedUnits (places mantissa : Nat) (exponent : Int) : Nat :=
  roundDiv .even (mantissa * pow10 places * pow2 exponent) (pow2 (-exponent))

/-- Writes `units` of `10 ^ -places`, for at least one place. -/
def placeUnits (places units : Nat) : String :=
  let rest := toString (units % pow10 places)
  toString (units / pow10 places) ++ "." ++ zeros (places - rest.length) ++ rest

/-- The text of a double with `places` decimal places. -/
def fixed (places : Nat) (x : Float) : String :=
  match Binary64.exact x with
  | .nan => "NaN"
  | .infinite negative => if negative then "-inf" else "inf"
  | .finite negative mantissa exponent =>
    (if negative then "-" else "") ++ placeUnits places (fixedUnits places mantissa exponent)

end BlockStage.Decimal
