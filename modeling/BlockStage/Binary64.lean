import BlockStage.Rounding

/-!
Doubles as exact numbers. `exact` takes a double apart into an integer multiple of a power of
two, and `ofRatio` goes back: it gives the double nearest to a quotient of natural numbers, a
tie to the even mantissa. What lies between them is integer arithmetic, so no digit depends on
a floating-point operation.
-/

namespace BlockStage.Binary64

/-- A double as the exact number it stands for: a finite one is `± mantissa * 2 ^ exponent`. -/
inductive Exact where
  | finite (negative : Bool) (mantissa : Nat) (exponent : Int)
  | infinite (negative : Bool)
  | nan
  deriving DecidableEq, Repr

/-- The bit that holds the sign. -/
def signBit : Nat := pow2 63

/-- The leading bit of the mantissa of a normal number, which is not stored. -/
def hiddenBit : Nat := pow2 52

/-- Reads sign, exponent field and fraction field out of the bits. -/
def exact (x : Float) : Exact :=
  let bits := x.toBits.toNat
  let negative := decide (signBit ≤ bits)
  let field : Nat := bits / hiddenBit % 2048
  let fraction := bits % hiddenBit
  if field = 2047 then
    if fraction = 0 then .infinite negative else .nan
  else if field = 0 then .finite negative fraction (-1074)
  else .finite negative (hiddenBit + fraction) ((field : Int) - 1075)

/-- The largest `k` with `2 ^ k ≤ num / den`, for positive `num` and `den`. -/
def floorLog2 (num den : Nat) : Int :=
  let guess : Int := (num.log2 : Int) - den.log2
  if den * pow2 guess ≤ num * pow2 (-guess) then guess else guess - 1

/-- The bits of the double nearest to `num / den`, sign aside. Counting in units of the last
place makes normal and subnormal numbers one case, and a mantissa that rounds up to the next
power of two carries into the exponent field by itself. -/
def magnitudeBits (num den : Nat) : Nat :=
  if num = 0 then 0
  else
    let unit := max (floorLog2 num den - 52) (-1074)
    let count := roundDiv .even (num * pow2 (-unit)) (den * pow2 unit)
    min ((unit + 1074).toNat * hiddenBit + count) (2047 * hiddenBit)

/-- The double nearest to `± num / den`; beyond the largest double it is infinite. -/
def ofRatio (negative : Bool) (num den : Nat) : Float :=
  Float.ofBits (UInt64.ofNat (magnitudeBits num den + if negative then signBit else 0))

/-- The double `± mantissa * 2 ^ exponent`, rounded where it has to be. -/
def ofScaled (negative : Bool) (mantissa : Nat) (exponent : Int) : Float :=
  ofRatio negative (mantissa * pow2 exponent) (pow2 (-exponent))

/-- The double `2 ^ exponent`. -/
def powerOfTwo (exponent : Int) : Float := ofScaled false 1 exponent

/-- The double nearest to an integer. -/
def ofInt (i : Int) : Float := ofRatio (decide (i < 0)) i.natAbs 1

end BlockStage.Binary64
