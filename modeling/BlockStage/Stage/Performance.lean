import BlockStage.Plane.Direction
import BlockStage.Stage.Basic

/-!
What a single script does to the stage when an actor performs it, and what is left to do
afterwards: dialogue has to be waited out, and the body of a repetition has to be run. Missing
and unreadable parameters count as zero, so no script can fail.
-/

namespace BlockStage

/-- What is left to do after a script was performed. -/
inductive Outcome where
  | done
  /-- The palette does not have the action, or nobody was there to perform it. -/
  | ignored
  /-- A bubble shows; it has to be cleared after so many seconds. -/
  | speaking (seconds : Float)
  /-- `body` has to be run so many times over. -/
  | repeating (times : Nat) (body : List Script)

def maxTimes : Nat := UInt64.size - 1

/-- How often a repetition runs: a fractional count rounds up, and a count that is not positive
is none at all. -/
def timesOf (count : Float) : Nat :=
  match Binary64.exact count with
  | .finite false mantissa exponent =>
    let whole := pow2 (-exponent)
    min ((mantissa * pow2 exponent + (whole - 1)) / whole) maxTimes
  | .infinite false => maxTimes
  | _ => 0

namespace Script

/-- How long a script speaks; never less than no time. -/
def speakingTime (s : Script) : Float :=
  let seconds := s.numberOrZero "duration"
  if 0 < seconds then seconds else 0

/-- How often a repetition runs. -/
def times (s : Script) : Nat := timesOf (s.numberOrZero "count")

def body (s : Script) : List Script := s.nested "scripts"

end Script

/-- A click in the editor moves an actor by so much. -/
def nudgeSteps : Float := 1

/-- A click in the editor turns an actor by so many degrees. -/
def nudgeDegrees : Float := 5

namespace Stage

/-- Logs where an actor is after it travelled. -/
def recordPosition (s : Stage) (id : ActorId) (travel : Travel) : Stage :=
  match s.actor? id with
  | some a => s.record (.travelled id travel a.position)
  | none => s

/-- Places an actor and logs where it is. -/
def travelTo (s : Stage) (id : ActorId) (travel : Travel) (position : Position) : Stage :=
  (s.place id position).2.recordPosition id travel

/-- Moves an actor by so many steps in the direction it looks. -/
def advance (s : Stage) (actor : Actor) (travel : Travel) (steps : Float) : Stage :=
  let (dx, dy) := Plane.direction actor.heading
  s.travelTo actor.id travel ⟨actor.position.x + steps * dx, actor.position.y + steps * dy⟩

/-- Turns an actor to a heading and logs it. -/
def turnTo (s : Stage) (id : ActorId) (heading : Float) : Stage :=
  (s.face id heading).2.record (.turned id heading)

/-- Shows dialogue beside an actor and logs it. -/
def speak (s : Stage) (id : ActorId) (style : BubbleStyle) (message : String) : Stage :=
  (s.record (.spoke id style message)).setBubble id (some (.of style message))

/-- Lets an actor perform a script, as far as that takes no time. -/
def perform (s : Stage) (id : ActorId) (script : Script) : Outcome × Stage :=
  match s.actor? id, script.block? with
  | none, _ | _, none => (.ignored, s)
  | some actor, some block =>
    match block with
    | .move => (.done, s.advance actor .move (script.numberOrZero "steps"))
    | .turnLeft => (.done, s.turnTo id (actor.heading - script.numberOrZero "degrees"))
    | .turnRight => (.done, s.turnTo id (actor.heading + script.numberOrZero "degrees"))
    | .goTo => (.done, s.travelTo id .goTo ⟨script.numberOrZero "x", script.numberOrZero "y"⟩)
    | .say => (.speaking script.speakingTime, s.speak id .speech (script.label "message"))
    | .think => (.speaking script.speakingTime, s.speak id .thought (script.label "message"))
    | .repetition => (.repeating script.times script.body, s)

/-- Clears the bubble of an actor. -/
def hush (s : Stage) (id : ActorId) : Stage := s.setBubble id none

/-- Previews a motion script on an actor: one step, or a turn by five degrees, whatever the
parameters say. Tells whether the script has a preview. -/
def nudgeActor (s : Stage) (id : ActorId) (script : Script) : Bool × Stage :=
  if script.category = .motion then
    match s.actor? id, script.block? with
    | some actor, some .move => (true, s.advance actor .nudge nudgeSteps)
    | some actor, some .turnLeft => (true, s.turnTo id (actor.heading - nudgeDegrees))
    | some actor, some .turnRight => (true, s.turnTo id (actor.heading + nudgeDegrees))
    | _, _ => (false, s)
  else (false, s)

/-- Previews a motion script on the selected actor. -/
def nudge (s : Stage) (script : Script) : Bool × Stage :=
  match s.selected with
  | some id => s.nudgeActor id script
  | none => (false, s)

end Stage

end BlockStage
