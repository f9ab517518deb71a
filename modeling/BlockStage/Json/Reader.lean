import BlockStage.Json.Basic
import BlockStage.Decimal.Reading

/-!
Reading JSON text in one pass from left to right. A reader that wants a certain shape meets
the faults of the text in the order in which they stand there, so a wrong shape early in the
text hides a malformed rest and the other way round. Values that nobody asked for are skipped,
which tests less than reading: numbers out of range and unpaired surrogates pass there, and
nesting has no limit.
-/

namespace BlockStage.Json

/-- A reader consumes a part of the text or meets a fault. It knows a number greater than the
length of the whole text, which bounds all of its loops. -/
abbrev Reader := ReaderT Nat (StateT (List Char) (Except Fault))

namespace Reader

/-- The four characters that may stand between tokens. -/
def isSpace (c : Char) : Bool := c = ' ' || c = '\n' || c = '\t' || c = '\r'

/-- The next character after spaces, which are consumed. -/
def peek : Reader (Option Char) := do
  modify (List.dropWhile isSpace)
  return (← get).head?

def advance : Reader Unit := modify List.tail

/-- The next character after spaces; the text must not end here. -/
def peekValue : Reader Char := do
  match ← peek with
  | some c => return c
  | none => throw .cutShort

/-- Consumes exactly the characters `cs`. -/
def literal : (cs : List Char) → Reader Unit
  | [] => return
  | c :: cs => do
    match ← get with
    | [] => throw .cutShort
    | d :: rest =>
      set rest
      if c = d then literal cs else throw .malformed

/-! ### Texts -/

/-- The value of a hexadecimal digit. -/
def hexDigit? (c : Char) : Option Nat :=
  if c.isDigit then some (c.toNat - '0'.toNat)
  else if 'a' ≤ c ∧ c ≤ 'f' then some (c.toNat - 'a'.toNat + 10)
  else if 'A' ≤ c ∧ c ≤ 'F' then some (c.toNat - 'A'.toNat + 10)
  else none

/-- The four hexadecimal digits of a `\u` escape. A text of fewer than four bytes ends inside
the escape, whatever these bytes are. -/
def hexUnit : Reader Nat := do
  match ← get with
  | a :: b :: c :: d :: rest =>
    match hexDigit? a, hexDigit? b, hexDigit? c, hexDigit? d with
    | some a, some b, some c, some d =>
      set rest
      return ((a * 16 + b) * 16 + c) * 16 + d
    | _, _, _, _ => throw .malformed
  | short =>
    if (String.ofList short).utf8ByteSize < 4 then throw .cutShort else throw .malformed

/-- The next character of a text, which must not end here. -/
def textChar : Reader Char := do
  match ← get with
  | [] => throw .cutShort
  | c :: rest =>
    set rest
    return c

/-- The second half of a surrogate pair, which follows its first half as another escape. -/
def lowSurrogate : Reader Nat := do
  if (← textChar) ≠ '\\' then throw .malformed
  if (← textChar) ≠ 'u' then throw .malformed
  let low ← hexUnit
  if 0xDC00 ≤ low ∧ low ≤ 0xDFFF then return low else throw .malformed

/-- The character that an escape stands for, after its backslash. Surrogates must be paired. -/
def escape : Reader Char := do
  match ← textChar with
  | '"' => return '"'
  | '\\' => return '\\'
  | '/' => return '/'
  | 'b' => return '\x08'
  | 'f' => return '\x0c'
  | 'n' => return '\n'
  | 'r' => return '\r'
  | 't' => return '\t'
  | 'u' =>
    let unit ← hexUnit
    if 0xD800 ≤ unit ∧ unit ≤ 0xDBFF then
      let low ← lowSurrogate
      return Char.ofNat (0x10000 + (unit - 0xD800) * 0x400 + (low - 0xDC00))
    else if 0xDC00 ≤ unit ∧ unit ≤ 0xDFFF then throw .malformed
    else return Char.ofNat unit
  | _ => throw .malformed

/-- The rest of a text after its opening quote; `before` holds what was read, last character
first. -/
def textLoop : (fuel : Nat) → (before : List Char) → Reader String
  | 0, _ => throw .cutShort
  | fuel + 1, before => do
    match ← textChar with
    | '"' => return String.ofList before.reverse
    | '\\' => textLoop fuel ((← escape) :: before)
    | c => if c.toNat < 0x20 then throw .malformed else textLoop fuel (c :: before)

/-- The rest of a text after its opening quote. -/
def textBody : Reader String := do textLoop (← read) []

/-- Skips an escape after its backslash without asking what it stands for. -/
def skipEscape : Reader Unit := do
  let c ← textChar
  if c = 'u' then discard hexUnit
  else if c ∈ ['"', '\\', '/', 'b', 'f', 'n', 'r', 't'] then return
  else throw .malformed

/-- Skips the rest of a text after its opening quote. -/
def skipTextLoop : (fuel : Nat) → Reader Unit
  | 0 => throw .cutShort
  | fuel + 1 => do
    match ← textChar with
    | '"' => return
    | '\\' => skipEscape; skipTextLoop fuel
    | c => if c.toNat < 0x20 then throw .malformed else skipTextLoop fuel

/-- Skips the rest of a text after its opening quote. -/
def skipTextBody : Reader Unit := do skipTextLoop (← read)

/-! ### Numbers -/

/-- A number as it is written: its digits without sign, point and exponent, how many of them
follow the point, and the exponent. -/
structure Numeral where
  negative : Bool
  digits : List Char
  places : Nat
  exponent : Int
  whole : Bool

/-- Consumes all digits that come next. -/
def digitRun : Reader (List Char) := do
  let text ← get
  set (text.dropWhile Char.isDigit)
  return text.takeWhile Char.isDigit

/-- Consumes one or more digits. -/
def someDigits : Reader (List Char) := do
  match ← get with
  | [] => throw .cutShort
  | c :: _ => if c.isDigit then digitRun else throw .malformed

/-- The digits before the point; a zero at their front stands alone. -/
def wholeDigits : Reader (List Char) := do
  match ← someDigits with
  | '0' :: _ :: _ => throw .malformed
  | digits => return digits

/-- The exponent of a number, zero when none is written. -/
def exponentPart : Reader (Option Int) := do
  match ← get with
  | c :: rest =>
    if c = 'e' ∨ c = 'E' then
      let (negative, digits) := Decimal.splitSign rest
      set digits
      let n : Int := Decimal.digitsValue (← someDigits)
      return some (if negative then -n else n)
    else return none
  | [] => return none

/-- A number after its sign. -/
def numeralBody (negative : Bool) : Reader Numeral := do
  let whole ← wholeDigits
  let fraction ← match ← get with
    | '.' :: rest => do
      set rest
      some <$> someDigits
    | _ => pure none
  let exponent ← exponentPart
  return {
    negative
    digits := whole ++ fraction.getD []
    places := (fraction.getD []).length
    exponent := exponent.getD 0
    whole := fraction.isNone && exponent.isNone }

/-- A number as it is written. -/
def numeral : Reader Numeral := do
  match ← get with
  | '-' :: rest => set rest; numeralBody true
  | _ => numeralBody false

/-- The value of a number as it is written; beyond the range of doubles it has none. -/
def Numeral.value? (n : Numeral) : Option Number :=
  let count := Decimal.digitsValue n.digits
  let x := Decimal.ofDecimal n.negative count n.digits.length (n.exponent - n.places)
  if n.whole ∧ n.negative = false ∧ count < UInt64.size then some (.integer count)
  else if n.whole ∧ n.negative ∧ 0 < count ∧ count ≤ pow2 63 then some (.integer (-count))
  else if x.isFinite then some (.real x)
  else none

/-- A number. -/
def number : Reader Number := do
  match (← numeral).value? with
  | some n => return n
  | none => throw .malformed

/-- Skips a number; a number that is cut short counts as malformed here. -/
def skipNumber : Reader Unit := fun bound text =>
  match numeral bound text with
  | .ok (_, rest) => .ok ((), rest)
  | .error _ => .error .malformed

/-- Whether a number begins with `c`. -/
def startsNumber (c : Char) : Bool := c = '-' || c.isDigit

/-! ### Arrays and objects -/

/-- Whether an array, of which `first` says that nothing was read yet, has another element. If
so, the reader stands before the element, if not, before the closing bracket. -/
def hasElement (first : Bool) : Reader Bool := do
  match ← peek with
  | none => throw .cutShort
  | some c =>
    if c = ']' then return false
    else if first then return true
    else if c = ',' then
      advance
      if (← peekValue) = ']' then throw .malformed else return true
    else throw .malformed

/-- The end of an array of which nothing more is wanted. -/
def endArray : Reader Unit := do
  match ← peek with
  | none => throw .cutShort
  | some c => if c = ']' then advance else throw .malformed

/-- The elements of an array after its opening bracket; `before` holds those that were read,
last one first. -/
def elementLoop (element : Reader α) : (fuel : Nat) → (before : List α) → Reader (List α)
  | 0, _ => throw .cutShort
  | fuel + 1, before => do
    if ← hasElement before.isEmpty then elementLoop element fuel ((← element) :: before)
    else
      endArray
      return before.reverse

/-- The elements of an array after its opening bracket, each read by `element`. -/
def elements (element : Reader α) : Reader (List α) := do
  elementLoop element (← read) []

/-- The colon between a key and its value. -/
def colon : Reader Unit := do
  match ← peek with
  | none => throw .cutShort
  | some c => if c = ':' then advance else throw .malformed

/-- The next key of an object, none at its end, which is consumed. -/
def nextKey (first : Bool) : Reader (Option String) := do
  match ← peek with
  | none => throw .cutShort
  | some '\x7d' =>
    advance
    return none
  | some c =>
    if first = false then
      if c = ',' then advance else throw .malformed
    if (← peekValue) = '"' then
      advance
      some <$> textBody
    else throw .malformed

/-- The members of an object after its opening brace, folded into `state`. -/
def memberLoop (member : σ → String → Reader σ) :
    (fuel : Nat) → (first : Bool) → (state : σ) → Reader σ
  | 0, _, _ => throw .cutShort
  | fuel + 1, first, state => do
    match ← nextKey first with
    | none => return state
    | some key => memberLoop member fuel false (← member state key)

/-- The members of an object after its opening brace. `member` sees the key first and reads the
colon and the value itself, so that it may refuse the key before the value. -/
def members (member : σ → String → Reader σ) (state : σ) : Reader σ := do
  memberLoop member (← read) true state

/-! ### Values -/

/-- A value without brackets. -/
def scalar (c : Char) : Reader Json := do
  if c = 'n' then
    literal "null".toList
    return .null
  else if c = 't' then
    literal "true".toList
    return .bool true
  else if c = 'f' then
    literal "false".toList
    return .bool false
  else if c = '"' then
    advance
    Json.text <$> textBody
  else if startsNumber c then Json.number <$> number
  else throw .malformed

/-- A value as a tree, with at most `depth` containers in one another. -/
def value : (depth : Nat) → Reader Json
  | 0 => do scalar (← peekValue)
  | depth + 1 => do
    match ← peekValue with
    | '[' =>
      advance
      Json.array <$> elements (value depth)
    | '\x7b' =>
      advance
      let fields ← members (fun fields key => do
        colon
        return (key, ← value depth) :: fields) []
      return .object fields.reverse
    | c => scalar c

/-- A container that is being skipped. -/
inductive Bracket where
  | array
  | object
  deriving DecidableEq

/-- Skips a key and its colon. -/
def skipKey : Reader Unit := do
  match ← peek with
  | none => throw .cutShort
  | some c =>
    if c = '"' then
      advance
      skipTextBody
      colon
    else throw .malformed

/-- Skips a value without brackets of its own. -/
def skipScalar (c : Char) : Reader Unit := do
  if c = 'n' then literal "null".toList
  else if c = 't' then literal "true".toList
  else if c = 'f' then literal "false".toList
  else if c = '"' then
    advance
    skipTextBody
  else if startsNumber c then skipNumber
  else throw .malformed

/-- Skips a value and then the rest of all containers around it, innermost first; with `within`
the value is done and its surroundings come next. -/
def skipLoop : (fuel : Nat) → (within : Bool) → (brackets : List Bracket) → Reader Unit
  | 0, _, _ => throw .cutShort
  | fuel + 1, false, brackets => do
    match ← peekValue with
    | '[' =>
      advance
      match ← peek with
      | none => throw .cutShort
      | some ']' => advance; skipLoop fuel true brackets
      | some _ => skipLoop fuel false (.array :: brackets)
    | '\x7b' =>
      advance
      match ← peek with
      | none => throw .cutShort
      | some '\x7d' => advance; skipLoop fuel true brackets
      | some _ => skipKey; skipLoop fuel false (.object :: brackets)
    | c => skipScalar c; skipLoop fuel true brackets
  | _ + 1, true, [] => return
  | fuel + 1, true, bracket :: brackets => do
    match ← peek with
    | none => throw .cutShort
    | some ',' =>
      advance
      if bracket = .object then skipKey
      skipLoop fuel false (bracket :: brackets)
    | some ']' =>
      if bracket = .array then
        advance
        skipLoop fuel true brackets
      else throw .malformed
    | some '\x7d' =>
      if bracket = .object then
        advance
        skipLoop fuel true brackets
      else throw .malformed
    | some _ => throw .malformed

/-- Skips a value. -/
def skip : Reader Unit := do skipLoop (2 * (← read)) false []

/-! ### Wanted shapes -/

/-- The fault of a value that has none of the wanted shapes. A value without brackets is read
first and shows its own faults. -/
def refuse : Reader α := do
  let c ← peekValue
  if c ≠ '[' ∧ c ≠ '\x7b' then discard (scalar c)
  throw .misfit

/-- Refuses a field that was met before. -/
def once (met : Option α) : Reader Unit := if met.isSome then throw .misfit else return

/-- Refuses an array that ends before its next element. -/
def needElement (first : Bool) : Reader Unit := do
  if ← hasElement first then return else throw .misfit

/-- A text. -/
def text : Reader String := do
  if (← peekValue) = '"' then
    advance
    textBody
  else refuse

/-- A truth value. -/
def bool : Reader Bool := do
  match ← peekValue with
  | 't' => literal "true".toList; return true
  | 'f' => literal "false".toList; return false
  | _ => refuse

/-- A number as a double. -/
def float : Reader Float := do
  if startsNumber (← peekValue) then Number.toFloat <$> number else refuse

/-- A whole number of at most 64 bits, without a minus sign. -/
def nat64 : Reader Nat := do
  if startsNumber (← peekValue) then
    match ← number with
    | .integer i => if 0 ≤ i then return i.toNat else throw .misfit
    | .real _ => throw .misfit
  else refuse

/-- Null or what `some` reads. -/
def nullable (reader : Reader α) : Reader (Option α) := do
  if (← peekValue) = 'n' then
    literal "null".toList
    return none
  else some <$> reader

/-- An array whose elements are read by `element`. -/
def arrayOf (element : Reader α) : Reader (List α) := do
  if (← peekValue) = '[' then
    advance
    elements element
  else refuse

/-- How many containers may stand in one another, in all values that are read. -/
def depthLimit : Nat := 127

/-- Reads a whole text. -/
def run (reader : Reader α) (text : String) : Except Fault α := do
  let chars := text.toList
  let (result, rest) ← reader (chars.length + 1) chars
  if rest.all isSpace then return result else throw .malformed

end Reader

/-- Reads a text as a tree. -/
def parse (text : String) : Except Fault Json := Reader.run (Reader.value Reader.depthLimit) text

end BlockStage.Json
