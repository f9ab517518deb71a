import BlockStage.Actor.Basic
import BlockStage.Collision
import BlockStage.Decimal.Layout
import BlockStage.Script.Palette

/-!
What happens on the stage, as entries of its event log. Every entry has a written label; labels
of one kind share a first word, and what varies comes after it.
-/

namespace BlockStage

/-- How an actor came to its place. -/
inductive Travel where
  | move
  | goTo
  | nudge
  deriving DecidableEq, Repr

def Travel.name : Travel → String
  | .move => "move"
  | .goTo => "goto"
  | .nudge => "nudge"

inductive Event where
  | created (actor : ActorId)
  | selected (actor : ActorId)
  | added (script : ScriptId)
  | removed (script : ScriptId)
  | contact (edge : Edge) (pair : ActorPair)
  | travelled (actor : ActorId) (travel : Travel) (position : Position)
  | turned (actor : ActorId) (heading : Float)
  | spoke (actor : ActorId) (style : BubbleStyle) (message : String)
  | playStarted
  | playStopped
  | passCompleted (number : Nat)
  /-- An entry that was made outside the stage. -/
  | note (text : String)

/-- The action that shows a bubble of this style. -/
def BubbleStyle.block : BubbleStyle → Block
  | .speech => .say
  | .thought => .think

namespace Event

/-- Numbers in labels have three places. -/
def written (x : Float) : String := Decimal.fixed 3 x

def label : Event → String
  | .created actor => "actor.create " ++ actor.label
  | .selected actor => "actor.select " ++ actor.label
  | .added script => "script.add " ++ script.text
  | .removed script => "script.remove " ++ script.text
  | .contact edge pair => "collision." ++ edge.name ++ " " ++ pair.label
  | .travelled actor travel position =>
    "actor." ++ actor.label ++ "." ++ travel.name ++ " " ++ written position.x ++ "," ++
      written position.y
  | .turned actor heading => "actor." ++ actor.label ++ ".heading " ++ written heading
  | .spoke actor style message =>
    "actor." ++ actor.label ++ "." ++ style.block.tag ++ " " ++ message
  | .playStarted => "playback.play"
  | .playStopped => "playback.stop"
  | .passCompleted number => "playback.pass " ++ toString number
  | .note text => text

end Event

end BlockStage
