/-!
Quotients of natural numbers rounded to a whole number, and the powers that scale them.
Everything that writes or reads a number in digits rounds here, so the two ways of settling a
tie are named once.
-/

namespace BlockStage

/-- Which neighbour takes a quotient that lies halfway between two whole numbers. -/
inductive Tie where
  | even
  | up
  deriving DecidableEq, Repr

/-- The whole number nearest to `num / den`; `tie` settles a quotient halfway between two. -/
def roundDiv (tie : Tie) (num den : Nat) : Nat :=
  let below := num / den
  let excess := 2 * (num % den)
  if excess < den then below
  else if den < excess then below + 1
  else match tie with
    | .even => below + below % 2
    | .up => below + 1

/-- `2 ^ e`, one when `e` is negative. A number `n * 2 ^ e` is the quotient of `n * pow2 e` by
`pow2 (-e)`. -/
def pow2 (e : Int) : Nat := Nat.pow 2 e.toNat

/-- `10 ^ e`, one when `e` is negative. -/
def pow10 (e : Int) : Nat := Nat.pow 10 e.toNat

end BlockStage
