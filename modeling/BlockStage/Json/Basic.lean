import BlockStage.Binary64

/-!
JSON values as trees. An object keeps its fields in the order they were written, repeated keys
included, because a reader may have to tell a repetition from a single field.
-/

namespace BlockStage

/-- A JSON number. One written without point and exponent that fits 64 bits stays an integer;
minus zero and all others are doubles. -/
inductive Json.Number where
  | integer (value : Int)
  | real (value : Float)

inductive Json where
  | null
  | bool (value : Bool)
  | number (value : Json.Number)
  | text (value : String)
  | array (items : List Json)
  | object (fields : List (String × Json))

namespace Json

instance : Inhabited Json := ⟨.null⟩

/-- The number as a double, an integer rounded to the nearest one. -/
def Number.toFloat : Number → Float
  | .integer i => Binary64.ofInt i
  | .real x => x

/-- A double as a JSON value; one that is not finite has no number and becomes null. -/
def real (x : Float) : Json := if x.isFinite then .number (.real x) else .null

/-- A natural number as a JSON value. -/
def nat (n : Nat) : Json := .number (.integer n)

/-- Why a text or a value is not read. -/
inductive Fault where
  /-- The text is not JSON. -/
  | malformed
  /-- The text ends inside a value. -/
  | cutShort
  /-- The text is JSON so far, but not of the wanted shape. -/
  | misfit
  deriving DecidableEq, Repr

end Json

end BlockStage
