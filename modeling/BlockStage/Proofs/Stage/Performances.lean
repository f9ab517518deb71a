import BlockStage.Proofs.Stage.Records

/-!
# What a script can do

A performance does one of four things: it takes its actor to a place, turns it, shows a bubble
beside it, or does nothing (`Stage.performed_perform`).  Which of them it is can be read off the
action.
-/

namespace BlockStage

variable {s : Stage} {id : ActorId} {script : Script} {x : Actor}

/-! ## Actions -/

theorem Script.block?_eq_some_iff {block : Block} :
    script.block? = some block ↔ script.action = block.tag := by
  rw [Script.block?]
  constructor
  · intro found
    have tagged := List.find?_some found
    exact (of_decide_eq_true tagged).symm
  · intro named
    rw [named]
    exact Block.ofTag?_tag block

/-- The actions that take an actor to a place. -/
def journeyActions : List String := ["move", "goto"]

/-- The actions that turn an actor. -/
def turnActions : List String := ["turn-left", "turn-right"]

/-- The actions that show a bubble. -/
def dialogueActions : List String := ["say", "think"]

theorem not_mem_of_journey : ∀ action ∈ journeyActions,
    action ∉ turnActions ∧ action ∉ dialogueActions := by decide

theorem not_mem_of_turn : ∀ action ∈ turnActions,
    action ∉ journeyActions ∧ action ∉ dialogueActions := by decide

theorem not_mem_of_dialogue : ∀ action ∈ dialogueActions,
    action ∉ journeyActions ∧ action ∉ turnActions := by decide

/-! ## Journeys -/

/-- A journey is a placement, and then an entry of the log that tells where it ended. -/
theorem Stage.travelTo_of_mem (known : id ∈ s.roster.ids) (travel : Travel) (position : Position) :
    s.travelTo id travel position =
      (s.place id position).2.record (.travelled id travel position.clamped) := by
  obtain ⟨x, found, stands⟩ := Option.map_eq_some_iff.mp (s.position_place known position)
  rw [Stage.travelTo, Stage.recordPosition, found]
  dsimp only
  rw [stands]

/-- Going ahead is a journey. -/
theorem Stage.advance_eq (s : Stage) (x : Actor) (travel : Travel) (steps : Float) :
    s.advance x travel steps = s.travelTo x.id travel (x.ahead steps) := rfl

/-- A move goes ahead by its steps. -/
theorem Stage.perform_move (found : s.actor? id = some x)
    (move : script.action = Block.move.tag) :
    s.perform id script =
      (.done, s.travelTo id .move (x.ahead (script.numberOrZero "steps"))) := by
  obtain rfl : x.id = id := Roster.id_of_get? found
  rw [Stage.perform, found, Script.block?_eq_some_iff.mpr move]
  rfl

/-! ## Four things to do -/

/-- What a performance can make of a stage. -/
inductive Stage.Performed (s : Stage) (id : ActorId) (script : Script) : Stage → Prop
  | still : s.Performed id script s
  | travelled (journey : script.action ∈ journeyActions) {position : Position}
    (leads : s.destination? id script = some position) (known : id ∈ s.roster.ids)
    (travel : Travel) : s.Performed id script
      ((s.place id position).2.record (.travelled id travel position.clamped))
  | turned (turn : script.action ∈ turnActions) (heading : Float) :
    s.Performed id script (s.turnTo id heading)
  | spoke (dialogue : script.action ∈ dialogueActions) (style : BubbleStyle)
    (message : String) : s.Performed id script (s.speak id style message)

/-- **What performing a script does.** -/
theorem Stage.performed_perform (s : Stage) (id : ActorId) (script : Script) :
    s.Performed id script (s.perform id script).2 := by
  cases found : s.actor? id with
  | none =>
      rw [Stage.perform, found]
      exact .still
  | some x =>
      obtain rfl : x.id = id := Roster.id_of_get? found
      have known : x.id ∈ s.roster.ids := Roster.mem_ids_of_get? found
      cases block : script.block? with
      | none =>
          rw [Stage.perform, found, block]
          exact .still
      | some b =>
          have action := Script.block?_eq_some_iff.mp block
          rw [Stage.perform, found, block]
          cases b with
          | move =>
              dsimp only
              rw [Stage.advance_eq, Stage.travelTo_of_mem known]
              refine .travelled (action ▸ by decide) ?_ known _
              rw [Stage.destination?, found, block]
          | goTo =>
              dsimp only
              rw [Stage.travelTo_of_mem known]
              refine .travelled (action ▸ by decide) ?_ known _
              rw [Stage.destination?, found, block]
          | turnLeft => exact .turned (action ▸ by decide) _
          | turnRight => exact .turned (action ▸ by decide) _
          | say => exact .spoke (action ▸ by decide) _ _
          | think => exact .spoke (action ▸ by decide) _ _
          | repetition => exact .still

end BlockStage
