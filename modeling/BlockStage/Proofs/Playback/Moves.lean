import BlockStage.Playback.Schedule
import BlockStage.Proofs.Stage.Operation

/-!
# Playback move by move

Between two suspensions a loop runs alone, so all that happens to a playback is a sequence of
moves: somebody plays or stops, works on the stage or lets time go by, and now and then a
suspended loop goes on.  The moves come in any order, and no loop has to wait for its time; whoever
calls for something that takes time comes to what some such moves come to
(`Playback.reaches_call`).

`Playback.stretch_run` lists the four ways in which a loop that goes on comes to its next
suspension or to its end.
-/

namespace BlockStage

/-! ## Moves -/

/-- One thing that happens to a playback. -/
inductive Playback.Move where
  | play
  | stop
  /-- The loop at a place in the list of loops goes on to its next suspension, or to its end. -/
  | resume (breath : Breath) (place : Nat)
  /-- Somebody works on the stage. -/
  | operate (operation : Operation)
  /-- Time goes by, and whoever works on the stage has other breath than before. -/
  | elapse (time : Nat) (breath : Breath)

/-- The playback after a move. -/
def Playback.Move.apply : Playback.Move → Playback → Playback
  | .play, p => p.play.2
  | .stop, p => p.stop.2
  | .resume breath place, p => p.resume breath place
  | .operate operation, p => { p with stage := operation.apply p.stage }
  | .elapse time breath, p => { p with now := max p.now time, breath }

/-- The playback after some moves. -/
def Playback.after (p : Playback) (moves : List Playback.Move) : Playback :=
  moves.foldl (fun p move => move.apply p) p

variable {p q r : Playback} {loop : Loop}

theorem Playback.after_append (p : Playback) (first second : List Playback.Move) :
    p.after (first ++ second) = (p.after first).after second := List.foldl_append

@[simp] theorem Playback.after_concat (p : Playback) (moves : List Playback.Move)
    (move : Playback.Move) : p.after (moves ++ [move]) = move.apply (p.after moves) :=
  p.after_append moves [move]

/-! ## Playing and stopping -/

theorem Playback.play_of_running (running : p.state = .running) : p.play = (none, p) := by
  rw [Playback.play, if_pos running]

/-- A loop that is still there goes on. -/
theorem Playback.play_of_active (idle : ¬ p.state = .running) (active : p.loopActive = true) :
    p.play = (none, { p with state := .running, stage := p.stage.record .playStarted }) := by
  rw [Playback.play, if_neg idle]
  exact if_pos active

/-- Otherwise a new one starts. -/
theorem Playback.play_of_inactive (idle : ¬ p.state = .running) (inactive : p.loopActive = false) :
    p.play = (some p.started, { p with
      state := .running
      stage := p.stage.record .playStarted
      loopActive := true
      loops := p.loops ++ [⟨p.started, 0, p.now, .armed⟩]
      started := p.started + 1 }) := by
  have free : ¬ p.loopActive = true := by
    rw [inactive]
    exact Bool.false_ne_true
  rw [Playback.play, if_neg idle]
  exact if_neg free

theorem Playback.stop_of_running (running : p.state = .running) :
    p.stop = (true, { p with state := .idle, stage := p.stage.record .playStopped }) := by
  rw [Playback.stop, if_pos running]
  rfl

theorem Playback.stop_of_idle (idle : ¬ p.state = .running) : p.stop = (false, p) := by
  rw [Playback.stop, if_neg idle]

theorem Playback.reachesLimit_iff {limit completed : Nat}
    (limited : p.settings.passLimit = some limit) :
    p.reachesLimit completed = true ↔ limit ≤ completed := by
  rw [Playback.reachesLimit, limited]
  simp

/-! ## A loop that goes on -/

/-- Whether a loop is suspended within a pass. -/
def Loop.inPass (loop : Loop) : Bool :=
  match loop.suspension with
  | .speaking _ _ => true
  | .armed | .resting => false

/-- The ways in which `loop` can go on in `p`: what is left of it, and the playback then. -/
inductive Playback.Stretch (p : Playback) (loop : Loop) : Option Loop → Playback → Prop
  /-- It finds the playback stopped and ends. -/
  | released (outside : loop.inPass = false) (idle : p.state = .idle) (now : Nat) :
      Stretch p loop none { p with
        now, loopActive := false, ended := p.ended ++ [(loop.number, loop.completed)] }
  /-- It comes to dialogue within a pass. -/
  | speaks (may : loop.inPass = true ∨ p.state = .running) {stage : Stage}
      (plays : p.stage.Plays stage) (now due : Nat) (line : Script) (pass : Pass) :
      Stretch p loop (some { loop with due, suspension := .speaking line pass })
        { p with now, stage }
  /-- It completes a pass and rests. -/
  | rests (may : loop.inPass = true ∨ p.state = .running) {stage : Stage}
      (plays : p.stage.Plays stage) (within : p.reachesLimit (loop.completed + 1) = false)
      (now due : Nat) :
      Stretch p loop (some { loop with
          completed := loop.completed + 1, due, suspension := .resting })
        { p with
          now, passes := p.passes + 1, stage := stage.record (.passCompleted (p.passes + 1)) }
  /-- It completes the last pass of its limit, stops the playback and ends. -/
  | stops (may : loop.inPass = true ∨ p.state = .running) {stage : Stage}
      (plays : p.stage.Plays stage) (reached : p.reachesLimit (loop.completed + 1) = true)
      (now : Nat) :
      Stretch p loop none { p with
        now, state := .idle, loopActive := false, passes := p.passes + 1
        ended := p.ended ++ [(loop.number, loop.completed + 1)]
        stage :=
          if p.state = .running then
            (stage.record (.passCompleted (p.passes + 1))).record .playStopped
          else stage.record (.passCompleted (p.passes + 1)) }

theorem Playback.state_eq_idle (h : ¬ p.state = .running) : p.state = .idle := by
  cases state : p.state with
  | idle => rfl
  | running => exact absurd state h

theorem Playback.stretch_completePass (p : Playback) (loop : Loop)
    (may : loop.inPass = true ∨ p.state = .running) {stage : Stage} (plays : p.stage.Plays stage)
    (now : Nat) :
    p.Stretch loop (({ p with now, stage } : Playback).completePass loop).1
      (({ p with now, stage } : Playback).completePass loop).2 := by
  unfold Playback.completePass
  dsimp only
  split
  · next reached =>
    have stops := Playback.Stretch.stops may plays reached now
    unfold Playback.stop
    split
    · next running =>
      rw [if_pos (show p.state = .running from running)] at stops
      exact stops
    · next other =>
      have idle : ¬ p.state = .running := other
      rw [if_neg idle, ← Playback.state_eq_idle idle] at stops
      exact stops
  · next within => exact .rests may plays (eq_false_of_ne_true within) now _

theorem Playback.stretch_carryOn (p : Playback) (loop : Loop)
    (may : loop.inPass = true ∨ p.state = .running) (now : Nat)
    {progress : Progress Pass × Stage} (plays : p.stage.Plays progress.2) :
    p.Stretch loop (({ p with now } : Playback).carryOn loop progress).1
      (({ p with now } : Playback).carryOn loop progress).2 := by
  rcases progress with ⟨_ | ⟨line, pass⟩, stage⟩
  · exact p.stretch_completePass loop may plays now
  · exact .speaks may plays now _ line pass

/-- **There are four ways to go on.** -/
theorem Playback.stretch_run (p : Playback) (breath : Breath) (loop : Loop) :
    p.Stretch loop (p.run breath loop).1 (p.run breath loop).2 := by
  unfold Playback.run
  dsimp only
  split
  · next pass suspension =>
    refine p.stretch_carryOn loop (.inl ?_) _ (Pass.plays_resume _ _ _ _)
    rw [Loop.inPass, suspension]
  all_goals
    next suspension =>
    split
    · next running => exact p.stretch_carryOn loop (.inr running) _ (Pass.plays_start _ _ _ _)
    · next idle =>
      refine .released ?_ (Playback.state_eq_idle idle) _
      rw [Loop.inPass, suspension]

/-- A playback with what became of its one loop. -/
def Playback.keep : Option Loop × Playback → Playback
  | (next, p) => { p with loops := next.toList }

theorem Playback.resume_of_one (loops : p.loops = [loop]) (breath : Breath) :
    p.resume breath 0 = .keep (p.run breath loop) := by
  have found : p.loops[0]? = some loop := by rw [loops, List.getElem?_cons_zero]
  have kept := p.loops_run breath loop
  rw [loops] at kept
  rw [Playback.resume, found]
  dsimp only
  generalize p.run breath loop = ran at kept ⊢
  rcases ran with ⟨_ | next, q⟩ <;>
  · dsimp only at kept ⊢
    rw [kept]
    rfl

theorem Playback.resume_of_not_mem {place : Nat} (absent : p.loops[place]? = none)
    (breath : Breath) : p.resume breath place = p := by rw [Playback.resume, absent]

/-- While there is one loop at most, only that one goes on. -/
theorem Playback.resume_cases (one : p.loops.length ≤ 1) (breath : Breath) (place : Nat) :
    p.resume breath place = p ∨
    ∃ loop, p.loops = [loop] ∧ p.loops[place]? = some loop ∧ ∃ next q, p.Stretch loop next q ∧
      p.resume breath place = { q with loops := next.toList } := by
  unfold Playback.resume
  split
  · exact .inl rfl
  · next loop found =>
    have alone : p.loops = [loop] ∧ place = 0 := by
      rcases loops : p.loops with _ | ⟨first, _ | ⟨second, rest⟩⟩
      · simp [loops] at found
      · rw [loops] at found
        cases place with
        | zero => simpa using found
        | succ n => simp at found
      · rw [loops] at one
        simp at one
    obtain ⟨loops, rfl⟩ := alone
    have stretch := p.stretch_run breath loop
    have kept := p.loops_run breath loop
    refine .inr ⟨loop, loops, found, (p.run breath loop).1, (p.run breath loop).2, stretch, ?_⟩
    split
    · next rest q run =>
      rw [run] at kept
      rw [run, kept, loops]
      rfl
    · next q run =>
      rw [run] at kept
      rw [run, kept, loops]
      rfl

/-! ## One loop at a time -/

/-- There is one loop at most, and the flag tells whether there is. -/
structure Playback.OneLoop (p : Playback) : Prop where
  one : p.loops.length ≤ 1
  active : p.loopActive = true ↔ p.loops ≠ []

theorem Playback.oneLoop_of (settings : PlaySettings) (stage : Stage) :
    (Playback.of settings stage).OneLoop := ⟨Nat.zero_le 1, by simp [Playback.of]⟩

theorem Playback.OneLoop.play (h : p.OneLoop) : p.play.2.OneLoop := by
  by_cases running : p.state = .running
  · rwa [Playback.play_of_running running]
  · cases alive : p.loopActive with
    | true =>
        rw [Playback.play_of_active running alive]
        exact ⟨h.one, h.active⟩
    | false =>
        have none : p.loops = [] := by simpa [alive] using h.active
        rw [Playback.play_of_inactive running alive, none]
        exact ⟨Nat.le_refl 1, by simp⟩

theorem Playback.OneLoop.stop (h : p.OneLoop) : p.stop.2.OneLoop := by
  by_cases running : p.state = .running
  · rw [Playback.stop_of_running running]
    exact ⟨h.one, h.active⟩
  · rwa [Playback.stop_of_idle running]

theorem Playback.OneLoop.resume (h : p.OneLoop) (breath : Breath) (place : Nat) :
    (p.resume breath place).OneLoop := by
  rcases Playback.resume_cases h.one breath place with
    same | ⟨loop, loops, -, next, q, stretch, same⟩
  · rwa [same]
  · have alive : p.loopActive = true := h.active.mpr (by simp [loops])
    rw [same]
    cases stretch with
    | released | stops => exact ⟨Nat.zero_le 1, by simp⟩
    | speaks | rests => exact ⟨Nat.le_refl 1, by simp [alive]⟩

theorem Playback.OneLoop.apply (h : p.OneLoop) (move : Playback.Move) :
    (move.apply p).OneLoop := by
  cases move with
  | play => exact h.play
  | stop => exact h.stop
  | resume breath place => exact h.resume breath place
  | operate | elapse => exact ⟨h.one, h.active⟩

theorem Playback.OneLoop.after (h : p.OneLoop) (moves : List Playback.Move) :
    (p.after moves).OneLoop := by
  induction moves generalizing p with
  | nil => exact h
  | cons move rest ih => exact ih (h.apply move)

/-! ## What a caller does while it waits -/

/-- `q` is reached from `p` by some moves. -/
def Playback.Reaches (p q : Playback) : Prop := ∃ moves, q = p.after moves

theorem Playback.Reaches.refl (p : Playback) : p.Reaches p := ⟨[], rfl⟩

theorem Playback.Reaches.trans (first : p.Reaches q) (second : q.Reaches r) : p.Reaches r := by
  obtain ⟨before, rfl⟩ := first
  obtain ⟨later, rfl⟩ := second
  exact ⟨before ++ later, (p.after_append before later).symm⟩

theorem Playback.reaches_apply (p : Playback) (move : Playback.Move) : p.Reaches (move.apply p) :=
  ⟨[move], rfl⟩

/-- Changing breath takes no time. -/
theorem Playback.reaches_breath (p : Playback) (breath : Breath) : p.Reaches { p with breath } := by
  have elapsed := p.reaches_apply (.elapse p.now breath)
  rw [Playback.Move.apply, Nat.max_self] at elapsed
  exact elapsed

theorem Playback.reaches_plays (p : Playback) {stage : Stage} (plays : p.stage.Plays stage) :
    p.Reaches { p with stage } := by
  obtain ⟨operations, -, rfl⟩ := plays
  induction operations generalizing p with
  | nil => exact .refl p
  | cons operation rest ih =>
      exact (p.reaches_apply (.operate operation)).trans
        (ih { p with stage := operation.apply p.stage })

theorem Playback.reaches_settle (time fuel : Nat) (p : Playback) :
    p.Reaches (Playback.settle time fuel p) := by
  induction fuel generalizing p with
  | zero => exact .refl p
  | succ fuel ih =>
      rw [Playback.settle]
      split
      · split
        · exact (p.reaches_apply (.resume _ _)).trans (ih _)
        · exact .refl p
      · exact .refl p

theorem Playback.reaches_waitUntil (p : Playback) (time : Nat) : p.Reaches (p.waitUntil time) :=
  (p.reaches_settle time _).trans (Playback.reaches_apply _ (.elapse time .afterWait))

theorem Playback.reaches_giveTurn (p : Playback) : p.Reaches p.giveTurn := by
  rw [Playback.giveTurn]
  split
  · split
    · exact p.reaches_apply (.resume _ _)
    · exact .refl p
  · exact .refl p

theorem Playback.reaches_pause (p : Playback) : p.Reaches p.pause := by
  rw [Playback.pause]
  split
  · exact p.reaches_breath _
  · exact p.reaches_giveTurn.trans (p.giveTurn.reaches_breath _)

/-- **Waiting is made of moves.** -/
theorem Playback.reaches_wait (p : Playback) (millis : Nat) : p.Reaches (p.wait millis) := by
  rw [Playback.wait]
  split
  · exact p.reaches_pause
  · exact p.reaches_waitUntil _

theorem Playback.reaches_finish (p : Playback) : p.Reaches p.finish := by
  fun_induction Playback.finish p with
  | case1 => exact .refl _
  | case2 p _ ih => exact (p.reaches_apply (.resume .endless 0)).trans ih

/-- Waiting for a loop to end. -/
theorem Playback.reaches_await (p : Playback) (number : Nat) : p.Reaches (p.await number).2 := by
  rw [Playback.await]
  split
  · exact p.reaches_pause
  · exact p.reaches_finish.trans (p.finish.reaches_breath _)

/-- Running something beside the loops. -/
theorem Playback.reaches_follow (scale : Float) (p : Playback) (progress : Progress Pass × Stage)
    (plays : p.stage.Plays progress.2) : p.Reaches (p.follow scale progress) := by
  fun_induction Playback.follow scale p progress with
  | case1 p breath stage =>
      exact (p.reaches_plays plays).trans (Playback.reaches_breath _ breath)
  | case2 p line pass stage waited ih =>
      have shown : p.Reaches { p with stage } := p.reaches_plays plays
      have spoken := shown.trans (Playback.reaches_breath _ (.left 0))
      have waits := spoken.trans
        (Playback.reaches_wait _ (Wait.dialogue scale line.speakingTime))
      exact waits.trans (ih (Pass.plays_resume _ _ _ _))

/-- What somebody may call for that takes time, while the loops go on. -/
inductive Playback.Call where
  | wait (millis : Nat)
  | await (number : Nat)
  | runProgram (actor : ActorId) (program : Program) (scale : Float)
  | runPass

/-- The playback when the caller goes on. -/
def Playback.Call.apply : Playback.Call → Playback → Playback
  | .wait millis, p => p.wait millis
  | .await number, p => (p.await number).2
  | .runProgram actor program scale, p => p.runProgram actor program scale
  | .runPass, p => p.runPass

/-- **Every call comes to what some moves come to.** -/
theorem Playback.reaches_call (p : Playback) (call : Playback.Call) : p.Reaches (call.apply p) := by
  cases call with
  | wait millis => exact p.reaches_wait millis
  | await number => exact p.reaches_await number
  | runProgram actor program scale => exact p.reaches_follow scale _ (Pass.plays_proceed _ _ _ _)
  | runPass => exact p.reaches_follow _ _ (Pass.plays_start _ _ _ _)

end BlockStage
