import BlockStage.Binary64

/-!
Numbers read from decimal text. A natural number is read exactly and has to be below a bound. A
double is read as an exact integer and a power of ten and rounded once, to the nearest one.
-/

namespace BlockStage.Decimal

/-- The value of a run of ASCII digits. -/
def digitsValue (digits : List Char) : Nat :=
  digits.foldl (fun n c => 10 * n + (c.toNat - '0'.toNat)) 0

/-- Reads one or more ASCII digits, after at most one plus sign, as a number below `bound`.
Leading zeros are allowed. -/
def readNat? (bound : Nat) (s : String) : Option Nat :=
  let digits := match s.toList with
    | '+' :: rest => rest
    | all => all
  if digits ≠ [] ∧ digits.all Char.isDigit then
    let n := digitsValue digits
    if n < bound then some n else none
  else none

/-- The double nearest to `± digits * 10 ^ exponent`. Powers far outside the range of doubles
are settled before they are computed: with `length` digits the number lies below
`10 ^ (length + exponent)`. -/
def ofDecimal (negative : Bool) (digits : Nat) (length : Nat) (exponent : Int) : Float :=
  if digits = 0 ∨ (length : Int) + exponent < -400 then Binary64.ofRatio negative 0 1
  else if 400 < exponent then Binary64.ofRatio negative (pow10 400) 1
  else Binary64.ofRatio negative (digits * pow10 exponent) (pow10 (-exponent))

/-- Splits off an optional sign; true stands for minus. -/
def splitSign : List Char → Bool × List Char
  | '-' :: rest => (true, rest)
  | '+' :: rest => (false, rest)
  | rest => (false, rest)

/-- Reads `[e|E][+|-]digits` up to the end; no text at all is the exponent zero. -/
def readExponent : List Char → Option Int
  | [] => some 0
  | c :: rest =>
    if c = 'e' ∨ c = 'E' then
      let (negative, digits) := splitSign rest
      if digits ≠ [] ∧ digits.all Char.isDigit then
        let n : Int := digitsValue digits
        some (if negative then -n else n)
      else none
    else none

/-- Reads digits with at most one point among or around them and at least one digit, then an
optional exponent. -/
def readMagnitude (negative : Bool) (text : List Char) : Option Float :=
  let whole := text.takeWhile Char.isDigit
  let afterWhole := text.dropWhile Char.isDigit
  let (fraction, rest) := match afterWhole with
    | '.' :: tail => (tail.takeWhile Char.isDigit, tail.dropWhile Char.isDigit)
    | _ => ([], afterWhole)
  let digits := whole ++ fraction
  if digits = [] then none
  else (readExponent rest).map fun exponent =>
    ofDecimal negative (digitsValue digits) digits.length (exponent - fraction.length)

/-- Reads a double: an optional sign, then `inf`, `infinity` or `nan` in any case, or a decimal.
Nothing may surround it. -/
def readFloat? (text : String) : Option Float :=
  let (negative, body) := splitSign text.toList
  let lower := body.map Char.toLower
  if lower = "inf".toList ∨ lower = "infinity".toList then
    some (Binary64.ofRatio negative (pow10 400) 1)
  else if lower = "nan".toList then some (0 / 0)
  else readMagnitude negative body

end BlockStage.Decimal
