import BlockStage.Binary64

/-!
The shortest decimal of a double: of all decimals that read back as the double, those with the
fewest digits, and of these the one nearest to it. The search goes through the decimal grids
from coarse to fine and tests, on each, the two grid points around the double; all comparisons
are between natural numbers.
-/

namespace BlockStage.Decimal

/-- The decimal `digits * 10 ^ exponent`. -/
structure Digits where
  digits : Nat
  exponent : Int
  deriving DecidableEq, Repr

/-- A positive double between the two points halfway to its neighbours, all three counted in
quarters of its last place `2 ^ exponent`. The ends belong to it when its mantissa is even. -/
structure Span where
  low : Nat
  value : Nat
  high : Nat
  exponent : Int
  closed : Bool

/-- The numbers that read back as `mantissa * 2 ^ exponent`. Below a power of two the doubles
lie twice as close, so the lower end is half as far. -/
def Span.of (mantissa : Nat) (exponent : Int) : Span where
  low := 4 * mantissa - if mantissa = Binary64.hiddenBit ∧ -1074 < exponent then 1 else 2
  value := 4 * mantissa
  high := 4 * mantissa + 2
  exponent := exponent - 2
  closed := mantissa % 2 = 0

/-- The point of the grid `10 ^ k` nearest to the double, if one reads back as the double. -/
def Span.onGrid (s : Span) (tie : Tie) (k : Int) : Option Nat :=
  let scale := pow2 s.exponent * pow10 (-k)
  let step := pow2 (-s.exponent) * pow10 k
  let inside (count : Nat) : Bool :=
    if s.closed then s.low * scale ≤ count * step && count * step ≤ s.high * scale
    else s.low * scale < count * step && count * step < s.high * scale
  let nearest := roundDiv tie (s.value * scale) step
  let below := s.value * scale / step
  if inside nearest then some nearest
  else if inside below then some below
  else if inside (below + 1) then some (below + 1)
  else none

/-- The first grid at or below `10 ^ k` that has a point in the span. -/
def Span.search (s : Span) (tie : Tie) : (grids : Nat) → (k : Int) → Digits
  | 0, _ => ⟨0, 0⟩
  | grids + 1, k =>
    match s.onGrid tie k with
    | some count => ⟨count, k⟩
    | none => s.search tie grids (k - 1)

/-- Takes zeros off the end, at most as many as there are digits. -/
def Digits.trimZeros : (fuel : Nat) → Digits → Digits
  | 0, d => d
  | fuel + 1, d =>
    if d.digits ≠ 0 ∧ d.digits % 10 = 0 then trimZeros fuel ⟨d.digits / 10, d.exponent + 1⟩ else d

/-- The shortest decimal of `mantissa * 2 ^ exponent`. The search starts at a grid coarser than
the number, and seventeen digits always suffice. -/
def shortest (tie : Tie) (mantissa : Nat) (exponent : Int) : Digits :=
  if mantissa = 0 then ⟨0, 0⟩
  else
    let binaryDigits : Int := mantissa.log2 + exponent + 1
    ((Span.of mantissa exponent).search tie 24 (binaryDigits * 30103 / 100000 + 2)).trimZeros 4

end BlockStage.Decimal
