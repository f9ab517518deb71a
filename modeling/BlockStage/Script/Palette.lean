import BlockStage.Script.Basic

/-!
The palette: the blocks that the stage knows how to run, with the parameters that a fresh
script of each has.
-/

namespace BlockStage

inductive Block where
  | move
  | turnLeft
  | turnRight
  | goTo
  | say
  | think
  | repetition
  deriving DecidableEq, Repr

namespace Block

/-- The palette in its order. -/
def all : List Block := [.move, .turnLeft, .turnRight, .goTo, .say, .think, .repetition]

/-- The action that runs a block. -/
def tag : Block → String
  | .move => "move"
  | .turnLeft => "turn-left"
  | .turnRight => "turn-right"
  | .goTo => "goto"
  | .say => "say"
  | .think => "think"
  | .repetition => "repeat"

/-- The block that an action runs. -/
def ofTag? (tag : String) : Option Block := all.find? (·.tag = tag)

def category : Block → Category
  | .move | .turnLeft | .turnRight | .goTo => .motion
  | .say | .think => .looks
  | .repetition => .control

/-- The parameters of a fresh script. -/
def defaults : Block → Params none
  | .move => .ofList [("steps", .number 10)]
  | .turnLeft | .turnRight => .ofList [("degrees", .number 15)]
  | .goTo => .ofList [("x", .number 0), ("y", .number 0)]
  | .say | .think => .ofList [("message", .text ""), ("duration", .number 2)]
  | .repetition => .ofList [("count", .number 10), ("scripts", .scripts [])]

/-- A script of the block with its defaults, overlaid by `overrides`. -/
def instantiate (block : Block) (id : ScriptId) (overrides : Params none) : Script where
  id := id
  category := block.category
  action := block.tag
  params := block.defaults.insertAll overrides.toList

theorem ofTag?_tag (block : Block) : ofTag? block.tag = some block := by
  cases block <;> decide

end Block

/-- An action that the palette does not have. -/
structure UnknownBlock where
  action : String
  deriving DecidableEq, Repr

/-- What is said about an action that the palette does not have. -/
def UnknownBlock.message (e : UnknownBlock) : String := "unknown block `" ++ e.action ++ "`"

/-- The block of an action, or the action as an error. -/
def Block.ofTag (tag : String) : Except UnknownBlock Block :=
  match ofTag? tag with
  | some block => .ok block
  | none => .error ⟨tag⟩

namespace Script

/-- The block a script runs. -/
def block? (s : Script) : Option Block := Block.ofTag? s.action

/-- Whether a script moves its actor forward. -/
def isMove (s : Script) : Bool := s.action = Block.move.tag

/-- The script with the sign of its steps flipped, if it is a move whose steps read as a number;
else the script as it is. -/
def reversed (s : Script) : Script :=
  if s.isMove then
    match s.number? "steps" with
    | some steps => { s with params := s.params.insert "steps" (.number (-steps)) trivial }
    | none => s
  else s

end Script

end BlockStage
