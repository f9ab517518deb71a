import BlockStage.Playback.Pass
import BlockStage.Playback.Wait

/-!
Playback: passes over the stage, again and again, until told to stop. `play` starts a loop,
which makes passes as long as the playback is running; between passes and within dialogue the
loop is suspended, and others may change the stage or play and stop in the meantime. `resume`
lets a suspended loop run up to its next suspension, with as much breath as it is given. A stopped
loop ends only at its next look at the state, so playing again before that keeps the loop that is
there.
-/

namespace BlockStage

/-- Whether passes are to be made. -/
inductive PlayState where
  | idle
  | running
  deriving DecidableEq, Repr

/-- How passes are made. -/
structure PlaySettings where
  /-- The milliseconds between two passes. -/
  interval : Nat
  /-- What the time of dialogue is multiplied by. -/
  timeScale : Float
  /-- After how many passes a loop stops by itself. -/
  passLimit : Option Nat

def PlaySettings.standard : PlaySettings := ⟨16, 1, none⟩

/-- The time scale in use: only positive finite ones count, any other makes dialogue instant. -/
def PlaySettings.scale (settings : PlaySettings) : Float :=
  if settings.timeScale.isFinite ∧ 0 < settings.timeScale then settings.timeScale else 0

/-- Where a loop is suspended. -/
inductive Suspension where
  /-- Before its first look at the state. -/
  | armed
  /-- Within a pass, in the dialogue of `line`. -/
  | speaking (line : Script) (pass : Pass)
  /-- Between two passes. -/
  | resting

/-- The breath with which a loop goes on when others are out of breath. -/
def Suspension.breath : Suspension → Breath
  | .speaking _ _ => .afterWait
  | .armed | .resting => .full

/-- A suspended loop. -/
structure Loop where
  /-- How many loops were started before this one. -/
  number : Nat
  /-- The passes it has completed. -/
  completed : Nat
  /-- The time from which on it may go on. -/
  due : Nat
  suspension : Suspension

/-- The stage together with its playback. -/
structure Playback where
  settings : PlaySettings
  stage : Stage
  state : PlayState
  /-- Whether a loop is there that the next play can use. -/
  loopActive : Bool
  /-- The passes completed by all loops together. -/
  passes : Nat
  /-- The loops that have not ended. -/
  loops : List Loop
  /-- How many loops were started. -/
  started : Nat
  /-- The loops that have ended, by their numbers, with the passes each completed. -/
  ended : List (Nat × Nat)
  /-- The time in milliseconds. -/
  now : Nat
  /-- The breath of whoever works on the stage beside the loops. -/
  breath : Breath

namespace Playback

/-- A stage before its first play. -/
def of (settings : PlaySettings) (stage : Stage) : Playback where
  settings := settings
  stage := stage
  state := .idle
  loopActive := false
  passes := 0
  loops := []
  started := 0
  ended := []
  now := 0
  breath := .full

/-- Appends an entry to the event log of the stage. -/
def record (p : Playback) (event : Event) : Playback := { p with stage := p.stage.record event }

/-- Whether a loop goes on although the playback was stopped. -/
def isDraining (p : Playback) : Bool := p.loopActive && p.state = .idle

/-- The milliseconds of the dialogue of a script. -/
def dialogue (p : Playback) (line : Script) : Nat :=
  Wait.dialogue p.settings.scale line.speakingTime

/-- Whether dialogue of so many seconds is over at once. -/
def instant (p : Playback) (seconds : Float) : Bool := Wait.dialogue p.settings.scale seconds = 0

/-- Starts the playback unless it is running. A loop that is still there goes on; else a new one
starts, and its number is given. -/
def play (p : Playback) : Option Nat × Playback :=
  if p.state = .running then (none, p)
  else
    let p := { p with state := .running }.record .playStarted
    if p.loopActive then (none, p)
    else
      (some p.started,
        { p with
          loopActive := true
          loops := p.loops ++ [⟨p.started, 0, p.now, .armed⟩]
          started := p.started + 1 })

/-- Stops the playback if it is running; tells whether it was. A pass under way goes on. -/
def stop (p : Playback) : Bool × Playback :=
  if p.state = .running then (true, { p with state := .idle }.record .playStopped) else (false, p)

def release (p : Playback) (loop : Loop) : Option Loop × Playback :=
  (none, { p with loopActive := false, ended := p.ended ++ [(loop.number, loop.completed)] })

/-- Whether a loop that has completed so many passes stops by itself. -/
def reachesLimit (p : Playback) (completed : Nat) : Bool :=
  p.settings.passLimit.any (· ≤ completed)

/-- Counts a completed pass of a loop, which then rests or has reached the limit. -/
def completePass (p : Playback) (loop : Loop) : Option Loop × Playback :=
  let loop := { loop with completed := loop.completed + 1 }
  let p := { p with passes := p.passes + 1 }.record (.passCompleted (p.passes + 1))
  if p.reachesLimit loop.completed then p.stop.2.release loop
  else
    (some { loop with due := p.now + Wait.ofMillis p.settings.interval, suspension := .resting }, p)

/-- What becomes of a loop whose pass came so far. -/
def carryOn (p : Playback) (loop : Loop) : Progress Pass × Stage → Option Loop × Playback
  | (.speaking line pass, stage) =>
    (some { loop with due := p.now + p.dialogue line, suspension := .speaking line pass },
      { p with stage })
  | (.finished _, stage) => { p with stage }.completePass loop

/-- Runs a loop from where it is suspended to its next suspension, or to its end. -/
def run (p : Playback) (breath : Breath) (loop : Loop) : Option Loop × Playback :=
  let p := { p with now := max p.now loop.due }
  match loop.suspension with
  | .speaking _ pass => p.carryOn loop (pass.resume p.instant breath p.stage)
  | .armed | .resting =>
    if p.state = .running then
      p.carryOn loop (Pass.start p.instant breath p.stage.roster.ids p.stage)
    else p.release loop

/-- Lets the loop at a place in the list of loops go on. -/
def resume (p : Playback) (breath : Breath) (i : Nat) : Playback :=
  match p.loops[i]? with
  | none => p
  | some loop =>
    match p.run breath loop with
    | (some loop, p) => { p with loops := p.loops.set i loop }
    | (none, p) => { p with loops := p.loops.eraseIdx i }

/-! ### What a run of a loop leaves alone -/

@[simp] theorem loops_record (p : Playback) (event : Event) :
    (p.record event).loops = p.loops := rfl

@[simp] theorem settings_record (p : Playback) (event : Event) :
    (p.record event).settings = p.settings := rfl

@[simp] theorem loops_stop (p : Playback) : p.stop.2.loops = p.loops := by
  unfold stop; split <;> rfl

@[simp] theorem settings_stop (p : Playback) : p.stop.2.settings = p.settings := by
  unfold stop; split <;> rfl

@[simp] theorem loops_completePass (p : Playback) (loop : Loop) :
    (p.completePass loop).2.loops = p.loops := by
  unfold completePass; dsimp only; split <;> simp [release]

@[simp] theorem settings_completePass (p : Playback) (loop : Loop) :
    (p.completePass loop).2.settings = p.settings := by
  unfold completePass; dsimp only; split <;> simp [release]

@[simp] theorem loops_carryOn (p : Playback) (loop : Loop) (progress : Progress Pass × Stage) :
    (p.carryOn loop progress).2.loops = p.loops := by
  rcases progress with ⟨_ | _, stage⟩ <;> simp [carryOn]

@[simp] theorem settings_carryOn (p : Playback) (loop : Loop) (progress : Progress Pass × Stage) :
    (p.carryOn loop progress).2.settings = p.settings := by
  rcases progress with ⟨_ | _, stage⟩ <;> simp [carryOn]

@[simp] theorem loops_run (p : Playback) (breath : Breath) (loop : Loop) :
    (p.run breath loop).2.loops = p.loops := by
  unfold run
  dsimp only
  split
  · simp
  all_goals split <;> simp [release]

@[simp] theorem settings_run (p : Playback) (breath : Breath) (loop : Loop) :
    (p.run breath loop).2.settings = p.settings := by
  unfold run
  dsimp only
  split
  · simp
  all_goals split <;> simp [release]

end Playback

end BlockStage
