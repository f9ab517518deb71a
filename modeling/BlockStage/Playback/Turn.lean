import BlockStage.Playback.Breath
import BlockStage.Stage.Performance

/-!
Turns: one actor running a list of scripts. A turn that meets dialogue stops there and can be
taken up again later, so what is left of it is a value: the scripts to come, and for every
repetition around them the rounds to come. `Turn.advance` runs as far as it can without
waiting; it ends because each script it performs takes some of the effort of what is left.
-/

namespace BlockStage

/-- How far something ran: to its end, with some breath left, or into the dialogue of a script,
with the rest to run after it. -/
inductive Progress (α : Type) where
  | finished (breath : Breath)
  | speaking (line : Script) (rest : α)

/-- A list of scripts that is being run: what is left of this round, and how many rounds of
`body` follow it. -/
structure Frame where
  todo : List Script
  rounds : Nat
  body : List Script

/-! ### Effort -/

mutual

/-- A bound on the work that a script can cause, itself and its repetitions. -/
def Script.effort : Script → Nat
  | ⟨id, category, action, params⟩ =>
    2 + Script.times ⟨id, category, action, params⟩ * (params.effortAt "scripts" + 1)

/-- The effort of the scripts in the parameter `name`. -/
def Params.effortAt (name : String) : {bound : Option String} → Params bound → Nat
  | _, .nil => 0
  | _, .cons key _ value rest => if key = name then value.effort else rest.effortAt name

/-- The effort of the scripts in a value. -/
def ParamValue.effort : ParamValue → Nat
  | .scripts body => Script.listEffort body
  | .number _ => 0
  | .text _ => 0

/-- The effort of a list of scripts. -/
def Script.listEffort : List Script → Nat
  | [] => 0
  | s :: rest => s.effort + Script.listEffort rest

end

theorem Params.effortAt_eq (name : String) :
    ∀ {bound : Option String} (params : Params bound),
      params.effortAt name =
        Script.listEffort (((params.get? name).bind ParamValue.scripts?).getD [])
  | _, .nil => by simp [effortAt, get?, Script.listEffort]
  | _, .cons key _ value rest => by
    by_cases h : key = name
    · cases value <;>
        simp [effortAt, get?, h, ParamValue.effort, ParamValue.scripts?, Script.listEffort]
    · simp [effortAt, get?, h, Params.effortAt_eq name rest]

/-- A script costs what its repetitions cost, and a little more. -/
theorem Script.effort_eq (s : Script) :
    s.effort = 2 + s.times * (Script.listEffort s.body + 1) := by
  rcases s with ⟨id, category, action, params⟩
  simp [effort, Params.effortAt_eq, body, nested]

namespace Frame

/-- The effort of a list that is being run. -/
def effort (f : Frame) : Nat :=
  Script.listEffort f.todo + 1 + f.rounds * (Script.listEffort f.body + 1)

/-- The effort of several lists. -/
def listEffort : List Frame → Nat
  | [] => 0
  | f :: frames => f.effort + listEffort frames

@[simp] theorem listEffort_cons (f : Frame) (frames : List Frame) :
    listEffort (f :: frames) = f.effort + listEffort frames := rfl

theorem effort_pos (f : Frame) : 0 < f.effort := by unfold effort; omega

/-- Beginning the next round uses it up. -/
theorem effort_next (rounds : Nat) (body : List Script) :
    (Frame.mk body rounds body).effort < (Frame.mk [] (rounds + 1) body).effort := by
  simp only [effort, Script.listEffort, Nat.succ_mul]
  omega

/-- Performing a script uses it up. -/
theorem effort_todo (s : Script) (todo : List Script) (rounds : Nat) (body : List Script) :
    (Frame.mk todo rounds body).effort < (Frame.mk (s :: todo) rounds body).effort := by
  simp only [effort, Script.listEffort, s.effort_eq]
  omega

/-- Beginning a repetition uses its script up. -/
theorem effort_repeat (s : Script) (todo : List Script) (rounds : Nat) (body : List Script) :
    (Frame.mk [] s.times s.body).effort + (Frame.mk todo rounds body).effort <
      (Frame.mk (s :: todo) rounds body).effort := by
  simp only [effort, Script.listEffort, s.effort_eq]
  omega

end Frame

/-- What is to be repeated is what the script says. -/
theorem Stage.perform_repeating {stage next : Stage} {actor : ActorId} {script : Script}
    {times : Nat} {body : List Script}
    (h : stage.perform actor script = (.repeating times body, next)) :
    times = script.times ∧ body = script.body := by
  unfold perform at h
  split at h
  · simp at h
  · simp at h
  · split at h <;> simp at h
    exact ⟨h.1.1.symm, h.1.2.symm⟩

/-! ### Turns -/

/-- What is left of an actor's turn, the innermost list first. -/
structure Turn where
  actor : ActorId
  frames : List Frame

namespace Turn

/-- A turn from its beginning. -/
def of (actor : ActorId) (program : List Script) : Turn := ⟨actor, [⟨program, 0, []⟩]⟩

/-- A bound on the work that is left. -/
def effort (turn : Turn) : Nat := Frame.listEffort turn.frames

/-- Runs lists one inside the other up to the next dialogue that takes time or finds the run out
of breath. Other dialogue is shown and cleared on the way. -/
def advanceFrames (instant : Float → Bool) (actor : ActorId) (breath : Breath) (stage : Stage)
    (frames : List Frame) : Progress (List Frame) × Stage :=
  match frames with
  | [] => (.finished breath, stage)
  | ⟨[], _, []⟩ :: frames => advanceFrames instant actor breath stage frames
  | ⟨[], 0, _ :: _⟩ :: frames => advanceFrames instant actor breath stage frames
  | ⟨[], rounds + 1, s :: body⟩ :: frames =>
    advanceFrames instant actor breath stage (⟨s :: body, rounds, s :: body⟩ :: frames)
  | ⟨script :: todo, rounds, body⟩ :: frames =>
    match _performed : stage.perform actor script with
    | (.done, stage) => advanceFrames instant actor breath stage (⟨todo, rounds, body⟩ :: frames)
    | (.ignored, stage) =>
      advanceFrames instant actor breath stage (⟨todo, rounds, body⟩ :: frames)
    | (.speaking seconds, stage) =>
      match breath.spend (instant seconds) with
      | some breath =>
        advanceFrames instant actor breath (stage.hush actor) (⟨todo, rounds, body⟩ :: frames)
      | none => (.speaking script (⟨todo, rounds, body⟩ :: frames), stage)
    | (.repeating times inner, stage) =>
      advanceFrames instant actor breath stage
        (⟨[], times, inner⟩ :: ⟨todo, rounds, body⟩ :: frames)
termination_by Frame.listEffort frames
decreasing_by
  all_goals simp only [Frame.listEffort_cons, Nat.succ_eq_add_one]
  · have := Frame.effort_pos ⟨[], ‹Nat›, []⟩; omega
  · have := Frame.effort_pos ⟨[], 0, ‹Script› :: ‹List Script›⟩; omega
  · have := Frame.effort_next rounds (s :: body); omega
  · have := Frame.effort_todo script todo rounds body; omega
  · have := Frame.effort_todo script todo rounds body; omega
  · have := Frame.effort_todo script todo rounds body; omega
  · obtain ⟨rfl, rfl⟩ := Stage.perform_repeating _performed
    have := Frame.effort_repeat script todo rounds body
    omega

/-- Runs a turn up to its next dialogue that takes time or finds it out of breath. -/
def advance (instant : Float → Bool) (breath : Breath) (turn : Turn) (stage : Stage) :
    Progress Turn × Stage :=
  match advanceFrames instant turn.actor breath stage turn.frames with
  | (.finished breath, stage) => (.finished breath, stage)
  | (.speaking line frames, stage) => (.speaking line ⟨turn.actor, frames⟩, stage)

end Turn

end BlockStage
