import BlockStage.Playback.Turn

/-!
Passes: every actor that is on the stage when the pass begins has one turn, one after another.
The program of a turn is the one its actor has when the turn begins.
-/

namespace BlockStage

/-- What is left of a pass: the turn under way, and the actors whose turns come after it. -/
structure Pass where
  turn : Turn
  waiting : List ActorId

namespace Pass

/-- Gives each of the actors a turn, up to the first dialogue that stops a turn. -/
def start (instant : Float → Bool) : Breath → List ActorId → Stage → Progress Pass × Stage
  | breath, [], stage => (.finished breath, stage)
  | breath, actor :: waiting, stage =>
    match (Turn.of actor ((stage.program? actor).getD [])).advance instant breath stage with
    | (.finished breath, stage) => start instant breath waiting stage
    | (.speaking line turn, stage) => (.speaking line ⟨turn, waiting⟩, stage)

/-- Runs the turn under way and then the turns after it, up to the next dialogue that stops a
turn. -/
def proceed (instant : Float → Bool) (breath : Breath) (pass : Pass) (stage : Stage) :
    Progress Pass × Stage :=
  match pass.turn.advance instant breath stage with
  | (.finished breath, stage) => start instant breath pass.waiting stage
  | (.speaking line turn, stage) => (.speaking line ⟨turn, pass.waiting⟩, stage)

/-- Takes a pass up again after its dialogue was waited out. -/
def resume (instant : Float → Bool) (breath : Breath) (pass : Pass) (stage : Stage) :
    Progress Pass × Stage :=
  pass.proceed instant breath (stage.hush pass.turn.actor)

end Pass

/-! ### Dialogue is always followed by less -/

/-- When a turn stops in dialogue, less is left of it. -/
theorem Turn.effort_advanceFrames {instant : Float → Bool} {actor : ActorId} {breath : Breath}
    {stage next : Stage} {frames rest : List Frame} {line : Script}
    (h : advanceFrames instant actor breath stage frames = (.speaking line rest, next)) :
    Frame.listEffort rest < Frame.listEffort frames := by
  fun_induction advanceFrames instant actor breath stage frames with
  | case1 => simp at h
  | case2 _ stage n frames ih =>
    have := ih h
    have := Frame.effort_pos ⟨[], n, []⟩
    simp only [Frame.listEffort_cons]
    omega
  | case3 _ stage s body frames ih =>
    have := ih h
    have := Frame.effort_pos ⟨[], 0, s :: body⟩
    simp only [Frame.listEffort_cons]
    omega
  | case4 _ stage rounds s body frames ih =>
    have := ih h
    have := Frame.effort_next rounds (s :: body)
    simp only [Frame.listEffort_cons, Nat.succ_eq_add_one] at *
    omega
  | case5 _ stage script todo rounds body frames _ _ ih =>
    have := ih h
    have := Frame.effort_todo script todo rounds body
    simp only [Frame.listEffort_cons] at *
    omega
  | case6 _ stage script todo rounds body frames _ _ ih =>
    have := ih h
    have := Frame.effort_todo script todo rounds body
    simp only [Frame.listEffort_cons] at *
    omega
  | case7 _ stage script todo rounds body frames _ _ _ _ _ ih =>
    have := ih h
    have := Frame.effort_todo script todo rounds body
    simp only [Frame.listEffort_cons] at *
    omega
  | case8 _ stage script todo rounds body frames =>
    simp only [Prod.mk.injEq, Progress.speaking.injEq] at h
    obtain ⟨⟨_, rfl⟩, _⟩ := h
    have := Frame.effort_todo script todo rounds body
    simp only [Frame.listEffort_cons] at *
    omega
  | case9 _ stage script todo rounds body frames times inner _ performed ih =>
    have := ih h
    obtain ⟨rfl, rfl⟩ := Stage.perform_repeating performed
    have := Frame.effort_repeat script todo rounds body
    simp only [Frame.listEffort_cons] at *
    omega

/-- When a turn stops in dialogue, less is left of it. -/
theorem Turn.effort_advance {instant : Float → Bool} {breath : Breath} {turn rest : Turn}
    {stage next : Stage} {line : Script}
    (h : turn.advance instant breath stage = (.speaking line rest, next)) :
    rest.effort < turn.effort := by
  unfold advance at h
  split at h
  · simp at h
  · next stopped =>
    simp only [Prod.mk.injEq, Progress.speaking.injEq] at h
    obtain ⟨⟨_, rfl⟩, _⟩ := h
    exact effort_advanceFrames stopped

/-- A pass that stops in dialogue has begun the turn of one of its actors. -/
theorem Pass.waiting_start {instant : Float → Bool} {breath : Breath} {actors : List ActorId}
    {stage next : Stage} {line : Script} {rest : Pass}
    (h : start instant breath actors stage = (.speaking line rest, next)) :
    rest.waiting.length < actors.length := by
  induction actors generalizing breath stage with
  | nil => simp [start] at h
  | cons actor waiting ih =>
    unfold start at h
    split at h
    · have := ih h
      simp only [List.length_cons]
      omega
    · simp only [Prod.mk.injEq, Progress.speaking.injEq] at h
      obtain ⟨⟨_, rfl⟩, _⟩ := h
      simp

/-- When a pass stops in dialogue, either fewer turns are left or less of the turn under way. -/
theorem Pass.less_left {instant : Float → Bool} {breath : Breath} {pass rest : Pass}
    {stage next : Stage} {line : Script}
    (h : pass.proceed instant breath stage = (.speaking line rest, next)) :
    rest.waiting.length < pass.waiting.length ∨
      rest.waiting = pass.waiting ∧ rest.turn.effort < pass.turn.effort := by
  unfold proceed at h
  split at h
  · exact .inl (waiting_start h)
  · next stopped =>
    simp only [Prod.mk.injEq, Progress.speaking.injEq] at h
    obtain ⟨⟨_, rfl⟩, _⟩ := h
    exact .inr ⟨rfl, Turn.effort_advance stopped⟩

end BlockStage
