import BlockStage.Decimal.Reading

/-!
Actor ids. An id is a number of 32 bits, written after the word `sprite`.
-/

namespace BlockStage

/-- What tells actors apart. -/
structure ActorId where
  index : UInt32
  deriving DecidableEq, Repr

namespace ActorId

/-- The written form of an id. -/
def label (id : ActorId) : String := "sprite" ++ toString id.index.toNat

/-- What precedes the number of an id. -/
def word : List Char := "sprite".toList

/-- The id of a written form. The number may have a plus sign and leading zeros. -/
def ofLabel? (text : String) : Option ActorId :=
  let chars := text.toList
  if chars.take word.length = word then
    (Decimal.readNat? UInt32.size (String.ofList (chars.drop word.length))).map fun n =>
      ⟨UInt32.ofNat n⟩
  else none

end ActorId

/-- A text that is not the written form of an actor id. -/
structure MalformedActorId where
  text : String
  deriving DecidableEq, Repr

/-- What is said about such a text. -/
def MalformedActorId.message (e : MalformedActorId) : String :=
  "malformed actor id `" ++ e.text ++ "` (expected sprite<N>)"

/-- The id of a written form, or the text as an error. -/
def ActorId.ofLabel (text : String) : Except MalformedActorId ActorId :=
  match ofLabel? text with
  | some id => .ok id
  | none => .error ⟨text⟩

end BlockStage
