import BlockStage.Script.Tree
import BlockStage.Stage.Basic

/-!
What others are shown of the stage: its actors and their bubbles as JSON trees.
-/

namespace BlockStage

/-- A style from its name, or from an object whose only key is its name, with the value null. -/
def BubbleStyle.ofJson? : Json → Option BubbleStyle
  | .text name => ofName? name
  | .object [(name, .null)] => ofName? name
  | _ => none

def Bubble.toJson (b : Bubble) : Json :=
  .object [("style", .text b.style.name), ("text", .text b.text)]

/-- An actor as an object. The bubble has no field while there is none, and the saved program is
not shown. -/
def Actor.toJson (a : Actor) : Json :=
  .object ([("id", .text a.id.label), ("name", .text a.name), ("x", .real a.position.x),
    ("y", .real a.position.y), ("heading", .real a.heading),
    ("program", programToJson a.program)] ++
    (a.bubble.map fun b => ("bubble", b.toJson)).toList)

def Stage.actorsToJson (s : Stage) : Json := .array (s.roster.actors.map Actor.toJson)

end BlockStage
