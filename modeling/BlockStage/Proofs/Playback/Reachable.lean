import BlockStage.Proofs.Playback.Moves
import BlockStage.Proofs.Scenario.Histories

/-!
# Playbacks that can be reached

A playback is set out with the start of a stage or with what a scenario builds, and then anything
may happen to it, in any order.  Calls that take time are among it, as they come to what some moves
come to (`Playback.Reached.called`).  The loops do nothing to the stage but perform scripts, end
dialogue and log entries (`Playback.Stretch.kept`), so what all operations keep, and entries of the
log as well, holds of every stage that can be reached (`Playback.Reached.kept`).
-/

namespace BlockStage

variable {P : Stage → Prop} {s : Stage} {p q : Playback} {loop : Loop} {next : Option Loop}

/-! ## What the loops keep -/

theorem Stage.kept_after {operations : List Operation}
    (kept : ∀ o ∈ operations, ∀ s, P s → P (o.apply s)) (h : P s) : P (s.after operations) := by
  induction operations generalizing s with
  | nil => exact h
  | cons operation rest ih =>
      obtain ⟨first, later⟩ := List.forall_mem_cons.mp kept
      exact ih later (first s h)

theorem Stage.Plays.kept {t : Stage} (plays : s.Plays t)
    (turn : ∀ (o : Operation), o.InTurn → ∀ s, P s → P (o.apply s)) (h : P s) : P t := by
  obtain ⟨operations, inTurn, rfl⟩ := plays
  exact Stage.kept_after (fun o mem => turn o (inTurn o mem)) h

namespace Playback

theorem Stretch.kept (stretch : p.Stretch loop next q)
    (turn : ∀ (o : Operation), o.InTurn → ∀ s, P s → P (o.apply s))
    (record : ∀ s event, P s → P (s.record event)) (h : P p.stage) : P q.stage := by
  cases stretch with
  | released => exact h
  | speaks _ plays => exact plays.kept turn h
  | rests _ plays => exact record _ _ (plays.kept turn h)
  | stops _ plays =>
      dsimp only
      split
      · exact record _ _ (record _ _ (plays.kept turn h))
      · exact record _ _ (plays.kept turn h)

/-- **Whatever loop goes on, the stage keeps what turns and entries of the log keep.** -/
theorem kept_resume (turn : ∀ (o : Operation), o.InTurn → ∀ s, P s → P (o.apply s))
    (record : ∀ s event, P s → P (s.record event)) (h : P p.stage) (breath : Breath)
    (place : Nat) : P (p.resume breath place).stage := by
  rw [resume]
  split
  · exact h
  · next loop found =>
    have kept := (p.stretch_run breath loop).kept turn record h
    split <;>
    · next ran =>
      rw [ran] at kept
      exact kept

/-- So does any move, unless it is an operation. -/
theorem Move.kept (turn : ∀ (o : Operation), o.InTurn → ∀ s, P s → P (o.apply s))
    (record : ∀ s event, P s → P (s.record event)) (h : P p.stage) (move : Move)
    (operate : ∀ o, move = .operate o → P (o.apply p.stage)) : P (move.apply p).stage := by
  cases move with
  | play =>
      by_cases running : p.state = .running
      · rwa [apply, play_of_running running]
      · cases active : p.loopActive with
        | true =>
            rw [apply, play_of_active running active]
            exact record _ _ h
        | false =>
            rw [apply, play_of_inactive running active]
            exact record _ _ h
  | stop =>
      by_cases running : p.state = .running
      · rw [apply, stop_of_running running]
        exact record _ _ h
      · rwa [apply, stop_of_idle running]
  | resume breath place => exact kept_resume turn record h breath place
  | operate operation => exact operate operation rfl
  | elapse time breath => exact h

end Playback

/-- A preview is a placement or a turn, and an entry of the log. -/
theorem Stage.kept_nudgeActor (pose : ∀ (o : Operation), o.Poses → ∀ s, P s → P (o.apply s))
    (record : ∀ s event, P s → P (s.record event)) (h : P s) (actor : ActorId)
    (script : Script) : P (s.nudgeActor actor script).2 := by
  have travels (id : ActorId) (position : Position) : P (s.travelTo id .nudge position) := by
    have placed : P (s.place id position).2 := pose (.place id position) trivial s h
    rw [travelTo, recordPosition]
    split
    · exact record _ _ placed
    · exact placed
  rw [nudgeActor]
  split
  · split
    · exact travels _ _
    · exact record _ _ (pose (.face _ _) trivial s h)
    · exact record _ _ (pose (.face _ _) trivial s h)
    · exact h
  · exact h

/-! ## All that can happen -/

namespace Playback

/-- One thing that happens to a playback: a move, or a preview on any actor, which need not be the
selected one. -/
inductive Happening where
  | move (move : Move)
  | preview (actor : ActorId) (script : Script)

/-- The playback after that. -/
def Happening.apply : Happening → Playback → Playback
  | .move step, p => step.apply p
  | .preview actor script, p => { p with stage := (p.stage.nudgeActor actor script).2 }

/-- The playback after all that has happened. -/
def afterAll (p : Playback) (happenings : List Happening) : Playback :=
  happenings.foldl (fun p happening => happening.apply p) p

/-- What all operations keep is kept whatever happens. -/
theorem kept_afterAll (operate : ∀ (o : Operation) s, P s → P (o.apply s))
    (record : ∀ s event, P s → P (s.record event)) (h : P p.stage)
    (happenings : List Happening) : P (p.afterAll happenings).stage := by
  induction happenings generalizing p with
  | nil => exact h
  | cons happening rest ih =>
      refine ih (p := happening.apply p) ?_
      cases happening with
      | move move => exact move.kept (fun o _ => operate o) record h fun o _ => operate o _ h
      | preview actor script =>
          exact Stage.kept_nudgeActor (fun o _ => operate o) record h actor script

end Playback

/-! ## Where playbacks come from -/

/-- The stages that a playback is set out with. -/
inductive Stage.Initial : Stage → Prop
  | start (setup : StageSetup) : Initial (.start setup)
  | built {scenario : Scenario} {seed : UInt64} {stage : Stage}
    (built : (scenario.build seed).2 = .ok stage) : Initial stage

/-- A scenario does nothing to a stage that could not be done without it. -/
theorem Stage.Initial.exists_history (h : s.Initial) :
    ∃ setup operations, s = (Stage.start setup).after operations := by
  cases h with
  | start setup => exact ⟨setup, [], rfl⟩
  | @built scenario seed _ built =>
      obtain ⟨prepared, scripts, prepares, rfl⟩ := Scenario.exists_history built
      rcases scenario.prepare_cases seed with ⟨_, -, -, failed⟩ | ⟨-, operations, ok, -⟩
      · rw [failed] at prepares
        cases prepares
      · rw [ok] at prepares
        cases prepares
        exact ⟨_, _, (Stage.after_append _ _ _).symm⟩

/-- Whether a playback can be reached, by anything that may happen. -/
def Playback.Reached (p : Playback) : Prop :=
  ∃ settings stage happenings, stage.Initial ∧ p = (Playback.of settings stage).afterAll happenings

theorem Playback.Reached.of_reaches (reached : p.Reached) (reaches : p.Reaches q) : q.Reached := by
  obtain ⟨settings, stage, happenings, initial, rfl⟩ := reached
  obtain ⟨moves, rfl⟩ := reaches
  refine ⟨settings, stage, happenings ++ moves.map .move, initial, ?_⟩
  rw [afterAll, afterAll, List.foldl_append, List.foldl_map]
  rfl

/-- Whoever calls for something that takes time comes to what can be reached. -/
theorem Playback.Reached.called (reached : p.Reached) (call : Playback.Call) :
    (call.apply p).Reached := reached.of_reaches (p.reaches_call call)

/-- **What holds at the start of a stage and is kept by all operations, and by entries of the log,
holds whatever has happened.** -/
theorem Playback.Reached.kept (reached : p.Reached) (start : ∀ setup, P (.start setup))
    (operate : ∀ (o : Operation) s, P s → P (o.apply s))
    (record : ∀ s event, P s → P (s.record event)) : P p.stage := by
  obtain ⟨settings, stage, happenings, initial, rfl⟩ := reached
  obtain ⟨setup, operations, rfl⟩ := initial.exists_history
  refine kept_afterAll operate record ?_ happenings
  exact Stage.kept_after (fun o _ => operate o) (start setup)

end BlockStage
