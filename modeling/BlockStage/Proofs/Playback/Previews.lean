import BlockStage.Proofs.Playback.Numbering
import BlockStage.Proofs.Stage.Performances

/-!
# Previews

The preview of a script is written beside its performance, not in terms of it.  The two do the same
nevertheless: on the selected actor a preview comes to the stage that performing the same block with
one step or five degrees would come to, but for the verb of one entry of the log
(`previews_are_single_steps`).
-/

namespace BlockStage

variable {s : Stage} {id : ActorId} {script : Script} {x : Actor}

/-! ## What has a preview -/

/-- The actions that have a preview, if their scripts are motion. -/
def previewed : List String := ["move", "turn-left", "turn-right"]

/-- The preview of a move goes one step ahead. -/
theorem Stage.nudgeActor_move (found : s.actor? id = some x) (motion : script.category = .motion)
    (move : script.action = Block.move.tag) :
    s.nudgeActor id script = (true, s.travelTo id .nudge (x.ahead nudgeSteps)) := by
  obtain rfl : x.id = id := Roster.id_of_get? found
  rw [Stage.nudgeActor, if_pos motion, found, Script.block?_eq_some_iff.mpr move]
  rfl

/-- The preview of a turn is what any script does that turns the same way by five degrees. -/
theorem Stage.nudgeActor_turn (found : s.actor? id = some x) (motion : script.category = .motion)
    (turns : script.action = Block.turnLeft.tag ∨ script.action = Block.turnRight.tag)
    {turn : Script} (same : turn.action = script.action)
    (five : turn.numberOrZero "degrees" = nudgeDegrees) :
    ∃ t, s.nudgeActor id script = (true, t) ∧ s.perform id turn = (.done, t) := by
  have same' : turn.block? = script.block? := congrArg Block.ofTag? same
  have block : script.block? = some .turnLeft ∨ script.block? = some .turnRight :=
    turns.imp Script.block?_eq_some_iff.mpr Script.block?_eq_some_iff.mpr
  rw [Stage.nudgeActor, if_pos motion, Stage.perform, found, same']
  rcases block with block | block
  all_goals
    rw [block]
    dsimp only
    rw [five]
    exact ⟨_, rfl, rfl⟩

/-- Nothing else has a preview. -/
theorem Stage.nudgeActor_of_other
    (other : script.category ≠ .motion ∨ script.action ∉ previewed) :
    s.nudgeActor id script = (false, s) := by
  rw [Stage.nudgeActor]
  split
  · next motion =>
    have unlisted := other.resolve_left (not_not_intro motion)
    have apart (block : Block) (listed : block.tag ∈ previewed) : script.block? ≠ some block :=
      fun found => unlisted (Script.block?_eq_some_iff.mp found ▸ listed)
    split
    · next found => exact absurd found (apart .move (by decide))
    · next found => exact absurd found (apart .turnLeft (by decide))
    · next found => exact absurd found (apart .turnRight (by decide))
    · rfl
  · rfl

/-! ## On the selected actor -/

/-- **A preview is a performance with one step or five degrees.**  It is refused if nobody is
selected, and for scripts that are not motion or have another action.  Otherwise there is an actor
to preview it on.  Whatever the parameters of the script, the preview of a move comes to the stage
that any move by one step comes to, with one entry of the log that says so instead of telling of a
move; and the preview of a turn comes to the stage of any turn to the same side by five degrees. -/
theorem previews_are_single_steps (p : Playback) (reached : p.Reached) (script : Script) :
    (p.stage.selected = none ∨ script.category ≠ .motion ∨ script.action ∉ previewed →
      p.stage.nudge script = (false, p.stage)) ∧
    ∀ id, p.stage.selected = some id → script.category = .motion →
      (script.action = "move" → ∀ step : Script, step.action = script.action →
        step.number? "steps" = some 1 → ∃ (t : Stage) (place : Position),
          p.stage.nudge script = (true, t.record (.travelled id .nudge place)) ∧
          p.stage.perform id step = (.done, t.record (.travelled id .move place))) ∧
      (script.action = "turn-left" ∨ script.action = "turn-right" →
        ∀ turn : Script, turn.action = script.action → turn.number? "degrees" = some 5 →
          ∃ t, p.stage.nudge script = (true, t) ∧ p.stage.perform id turn = (.done, t)) := by
  constructor
  · intro refused
    rw [Stage.nudge]
    cases selected : p.stage.selected with
    | none => rfl
    | some id =>
        exact Stage.nudgeActor_of_other (refused.resolve_left (selected ▸ Option.some_ne_none id))
  · intro id selected motion
    have known := reached.selectsActor id selected
    obtain ⟨x, found⟩ := Roster.exists_get?_of_mem_ids known
    have preview : p.stage.nudge script = p.stage.nudgeActor id script := by
      rw [Stage.nudge, selected]
    rw [preview]
    refine ⟨fun move step same one => ?_, fun turns turn same five => ?_⟩
    · have steps : step.numberOrZero "steps" = nudgeSteps := by
        rw [Script.numberOrZero, one]
        rfl
      rw [Stage.nudgeActor_move found motion move, Stage.perform_move found (same.trans move),
        steps, Stage.travelTo_of_mem known, Stage.travelTo_of_mem known]
      exact ⟨_, _, rfl, rfl⟩
    · have degrees : turn.numberOrZero "degrees" = nudgeDegrees := by
        rw [Script.numberOrZero, five]
        rfl
      exact Stage.nudgeActor_turn found motion turns same degrees

/-- Two actors stand together; the preview of a move without steps on the selected one. -/
theorem bare_move_is_previewed : playedTrade.Reached ∧ playedTrade.stage.selected = some ⟨1⟩ ∧
    ∃ (t : Stage) (place : Position),
      playedTrade.stage.nudge ⟨⟨"bare"⟩, .motion, "move", .nil⟩ =
        (true, t.record (.travelled ⟨1⟩ .nudge place)) ∧
      playedTrade.stage.perform ⟨1⟩ ⟨⟨"one"⟩, .motion, "move", .ofList [("steps", .number 1)]⟩ =
        (.done, t.record (.travelled ⟨1⟩ .move place)) := by
  have reached : playedTrade.Reached := ⟨_, _, _, .start _, rfl⟩
  have selected : playedTrade.stage.selected = some ⟨1⟩ := by decide +kernel
  obtain ⟨moves, -⟩ := (previews_are_single_steps playedTrade reached
    ⟨⟨"bare"⟩, .motion, "move", .nil⟩).2 ⟨1⟩ selected rfl
  exact ⟨reached, selected, moves rfl _ rfl (by rfl)⟩

end BlockStage
