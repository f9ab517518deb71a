import BlockStage.Actor.Id
import BlockStage.Plane.Position
import BlockStage.Script.Basic

/-!
Actors: who stands where on the stage, looks in which direction, runs which program and says
what.
-/

namespace BlockStage

/-- The heading of a new actor, in degrees. -/
def defaultHeading : Float := 90

/-- Whether a bubble shows speech or a thought. -/
inductive BubbleStyle where
  | speech
  | thought
  deriving DecidableEq, Repr

/-- The written name of a style. -/
def BubbleStyle.name : BubbleStyle → String
  | .speech => "speech"
  | .thought => "thought"

/-- The style of a written name. -/
def BubbleStyle.ofName? (name : String) : Option BubbleStyle :=
  [speech, thought].find? (·.name = name)

structure Bubble where
  style : BubbleStyle
  text : String
  deriving DecidableEq, Repr

/-- The bubble that shows a message; a thought is marked. -/
def Bubble.of (style : BubbleStyle) (message : String) : Bubble where
  style := style
  text := match style with
    | .speech => message
    | .thought => "💭 " ++ message

/-- A program is run script by script. -/
abbrev Program := List Script

/-- Whether a program has a script of this id. -/
def Program.has (program : Program) (id : ScriptId) : Bool := program.any (·.id = id)

/-- An actor. While its program is traded away, `saved` holds the program it gets back. -/
structure Actor where
  id : ActorId
  name : String
  position : Position
  heading : Float
  program : Program
  saved : Option Program
  bubble : Option Bubble

namespace Actor

def fresh (id : ActorId) (position : Position) (program : Program) : Actor where
  id := id
  name := "Sprite " ++ toString id.index.toNat
  position := position.clamped
  heading := defaultHeading
  program := program
  saved := none
  bubble := none

/-- Whether the actor's program is traded away. -/
def isSwapped (a : Actor) : Bool := a.saved.isSome

/-- The scripts the actor holds, in its program and then in its saved one. -/
def held (a : Actor) : List Script := a.program ++ a.saved.getD []

end Actor

end BlockStage
