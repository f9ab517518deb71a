import BlockStage.CommandLine.Run
import BlockStage.Proofs.Playback.Moves
import BlockStage.Proofs.Playback.Turns
import BlockStage.Proofs.Stage.Twin
import Mathlib.Logic.Function.Iterate

/-!
# Playback that nobody disturbs

Dialogue stops a turn at places that depend on the time scale and on breath, and each time others
may go on.  If nobody does, the stops make no difference: what a pass that has stopped somewhere
comes to (`Pass.prospect`) is the same after it was taken up again (`Pass.prospect_resume`).  So an
actor leaves the stage that the scripts of its unrolled program leave one after another
(`Playback.runProgram_of_alone`), and a pass is one such turn after another
(`Playback.runPass_of_alone`).

A loop that is alone stays on course to one stage (`Playback.OnCourse`) however it is resumed, and
ends there.  No script reads the log (`Stage.Twin`), so the reports of the passes are all that a
play adds to the passes themselves.
-/

namespace BlockStage

variable {s : Stage} {actor : ActorId} {p q : Playback} {loop : Loop} {limit : Nat}

/-! ## Absent actors -/

theorem Stage.hush_of_not_mem (absent : actor ∉ s.roster.ids) : s.hush actor = s := by
  rw [Stage.hush, Stage.setBubble, Roster.update_of_not_mem absent]

/-- Whoever is not there does nothing. -/
theorem Stage.after_deeds_of_not_mem (absent : actor ∉ s.roster.ids) (scripts : List Script) :
    s.after (scripts.flatMap (Script.deeds actor)) = s := by
  induction scripts with
  | nil => rfl
  | cons script rest ih =>
      have performs : Operation.apply (.perform actor script) s = s :=
        congrArg Prod.snd (Stage.perform_of_not_mem absent script)
      have hushes : Operation.apply (.hush actor) s = s := Stage.hush_of_not_mem absent
      have deeds : s.after (script.deeds actor) = s := by
        rw [Script.deeds]
        split
        · rw [Stage.after_cons, Stage.after_cons, performs, hushes, Stage.after_nil]
        · rw [Stage.after_cons, Stage.after_cons, performs, hushes, Stage.after_nil]
        · rw [Stage.after_cons, performs, Stage.after_nil]
      rw [List.flatMap_cons, Stage.after_append, deeds, ih]

namespace Turn

theorem advanceFrames_of_not_mem (instant : Float → Bool) (breath : Breath)
    (absent : actor ∉ s.roster.ids) (frames : List Frame) :
    advanceFrames instant actor breath s frames = (.finished breath, s) := by
  fun_induction advanceFrames instant actor breath s frames with
  | case1 => rfl
  | case2 _ _ _ _ ih => exact ih absent
  | case3 _ _ _ _ _ ih => exact ih absent
  | case4 _ _ _ _ _ _ ih => exact ih absent
  | case5 _ _ _ _ _ _ _ _ performed =>
      rw [Stage.perform_of_not_mem absent] at performed
      cases performed
  | case6 _ _ _ _ _ _ _ _ performed ih =>
      rw [Stage.perform_of_not_mem absent] at performed
      cases performed
      exact ih absent
  | case7 _ _ _ _ _ _ _ _ _ performed =>
      rw [Stage.perform_of_not_mem absent] at performed
      cases performed
  | case8 _ _ _ _ _ _ _ _ _ performed =>
      rw [Stage.perform_of_not_mem absent] at performed
      cases performed
  | case9 _ _ _ _ _ _ _ _ _ _ performed =>
      rw [Stage.perform_of_not_mem absent] at performed
      cases performed

/-- **However far a turn comes, with what is left of it, it does what was left before.** -/
theorem after_deeds_advanceFrames (instant : Float → Bool) (actor : ActorId) (breath : Breath)
    (s : Stage) (frames : List Frame) :
    (advanceFrames instant actor breath s frames).2.after
        ((advanceFrames instant actor breath s frames).1.deeds actor) =
      s.after (Frame.deeds actor frames) := by
  by_cases present : actor ∈ s.roster.ids
  · rw [after_told, ← Stage.after_append, told_append_deeds instant breath present]
  · rw [advanceFrames_of_not_mem instant breath present, Frame.deeds,
      Stage.after_deeds_of_not_mem present]
    rfl

theorem of_advance_finished {instant : Float → Bool} {breath left : Breath} {turn : Turn}
    {s next : Stage} (ended : turn.advance instant breath s = (.finished left, next)) :
    next = s.after (Frame.deeds turn.actor turn.frames) := by
  have comes := after_deeds_advanceFrames instant turn.actor breath s turn.frames
  rw [advance] at ended
  split at ended
  · next stopped =>
    cases ended
    rw [stopped] at comes
    exact comes
  · cases ended

theorem of_advance_speaking {instant : Float → Bool} {breath : Breath} {turn rest : Turn}
    {s next : Stage} {line : Script}
    (stopped : turn.advance instant breath s = (.speaking line rest, next)) :
    (next.hush rest.actor).after (Frame.deeds rest.actor rest.frames) =
      s.after (Frame.deeds turn.actor turn.frames) := by
  have comes := after_deeds_advanceFrames instant turn.actor breath s turn.frames
  rw [advance] at stopped
  split at stopped
  · cases stopped
  · next speaks =>
    cases stopped
    rw [speaks] at comes
    exact comes

end Turn

/-! ## A pass at one go -/

/-- The stage after an actor has run the program that it holds. -/
def Stage.turn (s : Stage) (actor : ActorId) : Stage :=
  s.after (Program.deeds actor ((s.program? actor).getD []))

/-- The stage after some actors have had their turns, one after another. -/
def Stage.turns (s : Stage) (actors : List ActorId) : Stage := actors.foldl Stage.turn s

/-- The stage after every actor has had its turn. -/
def Stage.pass (s : Stage) : Stage := s.turns s.roster.ids

/-- What a pass comes to that came so far, if nobody else does anything. -/
def Pass.prospect : Progress Pass × Stage → Stage
  | (.finished _, s) => s
  | (.speaking _ pass, s) =>
    ((s.hush pass.turn.actor).after (Frame.deeds pass.turn.actor pass.turn.frames)).turns
      pass.waiting

namespace Pass

theorem prospect_start (instant : Float → Bool) (breath : Breath) (actors : List ActorId)
    (s : Stage) : prospect (start instant breath actors s) = s.turns actors := by
  induction actors generalizing breath s with
  | nil => rfl
  | cons actor waiting ih =>
      have here := Frame.deeds_of actor ((s.program? actor).getD [])
      rw [start]
      split
      · next ended =>
        rw [ih, Turn.of_advance_finished ended]
        exact congrArg (fun deeds => (s.after deeds).turns waiting) here
      · next stopped =>
        rw [prospect, Turn.of_advance_speaking stopped]
        exact congrArg (fun deeds => (s.after deeds).turns waiting) here

theorem prospect_proceed (instant : Float → Bool) (breath : Breath) (pass : Pass) (s : Stage) :
    prospect (pass.proceed instant breath s) =
      (s.after (Frame.deeds pass.turn.actor pass.turn.frames)).turns pass.waiting := by
  rw [proceed]
  split
  · next ended => rw [prospect_start, Turn.of_advance_finished ended]
  · next stopped => rw [prospect, Turn.of_advance_speaking stopped]

/-- **Wherever a pass stops, it comes to the same.** -/
theorem prospect_resume (instant : Float → Bool) (breath : Breath) (line : Script) (pass : Pass)
    (s : Stage) : prospect (pass.resume instant breath s) = prospect (.speaking line pass, s) :=
  prospect_proceed instant breath pass _

end Pass

/-! ## Running something with nobody else there -/

namespace Playback

/-- Without loops nothing happens while somebody waits. -/
theorem wait_of_alone (alone : p.loops = []) (millis : Nat) :
    (p.wait millis).stage = p.stage ∧ (p.wait millis).loops = [] := by
  have nothing : p.nextDue? = none := by
    rw [nextDue?, alone]
    rfl
  have still : ∀ time fuel, settle time fuel p = p := by
    intro time fuel
    cases fuel with
    | zero => rfl
    | succ fuel => rw [settle, nothing]
  rw [wait]
  split
  · rw [pause]
    split
    · exact ⟨rfl, alone⟩
    · rw [giveTurn, nothing]
      exact ⟨rfl, alone⟩
  · rw [waitUntil, still]
    exact ⟨rfl, alone⟩

theorem follow_of_alone (scale : Float) (alone : p.loops = []) (progress : Progress Pass × Stage) :
    (p.follow scale progress).stage = Pass.prospect progress := by
  fun_induction follow scale p progress with
  | case1 => rfl
  | case2 p line pass stage waited ih =>
      obtain ⟨kept, none⟩ := wait_of_alone (p := { p with stage, breath := .left 0 }) alone
        (Wait.dialogue scale line.speakingTime)
      rw [ih none, Pass.prospect_resume _ _ line]
      exact congrArg (fun s => Pass.prospect (.speaking line pass, s)) kept

theorem runProgram_of_alone (alone : p.loops = []) (actor : ActorId) (program : Program)
    (scale : Float) :
    (p.runProgram actor program scale).stage = p.stage.after (Program.deeds actor program) := by
  rw [runProgram, follow_of_alone scale alone, Pass.prospect_proceed, ← Frame.deeds_of]
  rfl

/-- A single pass. -/
theorem runPass_of_alone (alone : p.loops = []) : p.runPass.stage = p.stage.pass := by
  rw [runPass, follow_of_alone _ alone, Pass.prospect_start]
  rfl

end Playback

/-! ## A play with a limit -/

/-- The stage after some more passes, each reported under its number. -/
def Stage.afterPasses (s : Stage) (made : Nat) : (more : Nat) → Stage
  | 0 => s
  | more + 1 => (s.pass.record (.passCompleted (made + 1))).afterPasses (made + 1) more

/-- What a loop comes to before the playback stops, if nobody else does anything: the pass under
way, and the passes up to the limit. -/
def Playback.prospect (p : Playback) (limit : Nat) (loop : Loop) : Stage :=
  match loop.suspension with
  | .speaking line pass =>
    ((Pass.prospect (.speaking line pass, p.stage)).record
      (.passCompleted (p.passes + 1))).afterPasses (p.passes + 1) (limit - (loop.completed + 1))
  | .armed | .resting => p.stage.afterPasses p.passes (limit - loop.completed)

namespace Playback

/-- What a loop comes to whose pass under way comes to `s`. -/
def passed (p : Playback) (limit : Nat) (loop : Loop) (s : Stage) : Stage :=
  (s.record (.passCompleted (p.passes + 1))).afterPasses (p.passes + 1)
    (limit - (loop.completed + 1))

/-- A playback whose one loop, of a number, stops it after `limit` passes, and which comes to
`final` before that. -/
inductive OnCourse (number limit : Nat) (final : Stage) : Playback → Prop
  | running {p : Playback} {loop : Loop} (limited : p.settings.passLimit = some limit)
    (runs : p.state = .running) (loops : p.loops = [loop]) (same : loop.number = number)
    (below : loop.completed < limit) (first : p.ended = [])
    (comes : p.prospect limit loop = final) : OnCourse number limit final p
  | finished {p : Playback} (loops : p.loops = []) (ended : p.ended = [(number, limit)])
    (comes : p.stage = final.record .playStopped) : OnCourse number limit final p

theorem onCourse_completePass (limited : p.settings.passLimit = some limit)
    (running : p.state = .running) (below : loop.completed < limit) (first : p.ended = []) :
    OnCourse loop.number limit (p.passed limit loop p.stage) (keep (p.completePass loop)) := by
  let q := ({ p with passes := p.passes + 1 } : Playback).record (.passCompleted (p.passes + 1))
  have reaches : q.reachesLimit (loop.completed + 1) = true ↔ limit ≤ loop.completed + 1 :=
    reachesLimit_iff limited
  have stops := stop_of_running (p := q) running
  rw [completePass, passed]
  dsimp only
  split
  · next reached =>
    have last : loop.completed + 1 = limit := by
      have := reaches.mp reached
      omega
    have ended : p.ended ++ [(loop.number, limit)] = [(loop.number, limit)] := by
      rw [first, List.nil_append]
    rw [stops, last, Nat.sub_self]
    exact .finished rfl ended rfl
  · next within =>
    have short : loop.completed + 1 < limit := by
      have := mt reaches.mpr within
      omega
    exact .running limited running rfl rfl short first rfl

theorem onCourse_carryOn (limited : p.settings.passLimit = some limit)
    (running : p.state = .running) (loop : Loop) (below : loop.completed < limit)
    (first : p.ended = []) (progress : Progress Pass × Stage) :
    OnCourse loop.number limit (p.passed limit loop (Pass.prospect progress))
      (keep (p.carryOn loop progress)) := by
  rcases progress with ⟨_ | ⟨line, pass⟩, stage⟩
  · exact onCourse_completePass (p := { p with stage }) limited running below first
  · exact .running limited running rfl rfl below first rfl

/-- **Wherever a loop is suspended, it comes to the same.** -/
theorem onCourse_run (limited : p.settings.passLimit = some limit) (running : p.state = .running)
    (below : loop.completed < limit) (first : p.ended = []) (breath : Breath) :
    OnCourse loop.number limit (p.prospect limit loop) (keep (p.run breath loop)) := by
  rcases loop with ⟨number, completed, due, suspension⟩
  cases suspension with
  | speaking line pass =>
      have carries := onCourse_carryOn (p := { p with now := max p.now due }) limited running
        ⟨number, completed, due, .speaking line pass⟩ below first
        (pass.resume p.instant breath p.stage)
      rw [Pass.prospect_resume _ _ line] at carries
      exact carries
  | armed | resting =>
      have carries := onCourse_carryOn (p := { p with now := max p.now due }) limited running _
        below first (Pass.start p.instant breath p.stage.roster.ids p.stage)
      have below : completed < limit := below
      obtain ⟨more, left⟩ : ∃ more, limit - completed = more + 1 :=
        ⟨limit - (completed + 1), by omega⟩
      have next : limit - (completed + 1) = more := by omega
      rw [Pass.prospect_start, passed, next] at carries
      rw [run, prospect]
      dsimp only
      rw [if_pos running, left, Stage.afterPasses]
      exact carries

variable {number : Nat} {final : Stage}

theorem OnCourse.resume (h : OnCourse number limit final p) (breath : Breath) (place : Nat) :
    OnCourse number limit final (p.resume breath place) := by
  cases h with
  | running limited runs loops same below first comes =>
      cases place with
      | zero =>
          rw [resume_of_one loops, ← same, ← comes]
          exact onCourse_run limited runs below first breath
      | succ place =>
          rw [resume_of_not_mem (by rw [loops]; rfl)]
          exact .running limited runs loops same below first comes
  | finished loops ended comes =>
      rw [resume_of_not_mem (by rw [loops]; rfl)]
      exact .finished loops ended comes

/-- The moves by which nobody does anything: loops go on, and time goes by. -/
def Move.Unattended : Move → Prop
  | .resume _ _ | .elapse _ _ => True
  | .play | .stop | .operate _ => False

theorem OnCourse.apply (h : OnCourse number limit final p) {move : Move}
    (unattended : move.Unattended) : OnCourse number limit final (move.apply p) := by
  cases move with
  | play | stop | operate operation => cases unattended
  | resume breath place => exact h.resume breath place
  | elapse time breath =>
      cases h with
      | running limited runs loops same below first comes =>
          exact .running limited runs loops same below first comes
      | finished loops ended comes => exact .finished loops ended comes

theorem OnCourse.after (h : OnCourse number limit final p) {moves : List Move}
    (unattended : ∀ move ∈ moves, move.Unattended) :
    OnCourse number limit final (p.after moves) := by
  induction moves generalizing p with
  | nil => exact h
  | cons move rest ih =>
      obtain ⟨first, unattended⟩ := List.forall_mem_cons.mp unattended
      exact ih (h.apply first) unattended

/-- What it comes to once its loop is gone. -/
theorem OnCourse.of_loops (h : OnCourse number limit final p) (gone : p.loops = []) :
    p.ended.lookup number = some limit ∧ p.stage = final.record .playStopped := by
  cases h with
  | running limited runs loops same below first comes => cases gone.symm.trans loops
  | finished loops ended comes =>
      refine ⟨?_, comes⟩
      rw [ended, List.lookup_cons_self]

/-- It does come to it. -/
theorem OnCourse.finish (h : OnCourse number limit final p) :
    OnCourse number limit final p.finish ∧ p.finish.loops = [] := by
  fun_induction Playback.finish p with
  | case1 p stays =>
      refine ⟨h, ?_⟩
      cases h with
      | running limited => simpa [Playback.endless, limited] using stays
      | finished loops => exact loops
  | case2 p stays ih => exact ih (h.resume .endless 0)

theorem onCourse_play {settings : PlaySettings} (limited : settings.passLimit = some limit)
    (positive : 1 ≤ limit) (stage : Stage) :
    OnCourse 0 limit ((stage.record .playStarted).afterPasses 0 limit)
      (Playback.of settings stage).play.2 := by
  have plays := play_of_inactive (p := .of settings stage) nofun rfl
  rw [plays]
  exact .running limited rfl rfl rfl positive rfl rfl

/-- **A loop that nobody disturbs makes its passes and stops the playback**, however it is
resumed. -/
theorem play_of_unattended {settings : PlaySettings} (limited : settings.passLimit = some limit)
    (positive : 1 ≤ limit) (stage : Stage) {moves : List Move}
    (unattended : ∀ move ∈ moves, move.Unattended)
    (gone : ((Playback.of settings stage).play.2.after moves).loops = []) :
    ((Playback.of settings stage).play.2.after moves).ended.lookup 0 = some limit ∧
      ((Playback.of settings stage).play.2.after moves).stage =
        ((stage.record .playStarted).afterPasses 0 limit).record .playStopped :=
  ((onCourse_play limited positive stage).after unattended).of_loops gone

/-- Whoever waits for the loop to end gets to see this. -/
theorem await_play {settings : PlaySettings} (limited : settings.passLimit = some limit)
    (positive : 1 ≤ limit) (stage : Stage) :
    (Playback.of settings stage).play.1 = some 0 ∧
    ((Playback.of settings stage).play.2.await 0).1 = some limit ∧
      ((Playback.of settings stage).play.2.await 0).2.stage =
        ((stage.record .playStarted).afterPasses 0 limit).record .playStopped := by
  obtain ⟨course, gone⟩ := (onCourse_play limited positive stage).finish
  exact ⟨rfl, course.of_loops gone⟩

end Playback

theorem CommandLine.playPasses_eq {settings : PlaySettings}
    (limited : settings.passLimit = some limit) (positive : 1 ≤ limit) (stage : Stage) :
    playPasses settings stage =
      (limit, ((stage.record .playStarted).afterPasses 0 limit).record .playStopped) := by
  obtain ⟨first, completed, comes⟩ := Playback.await_play limited positive stage
  rw [playPasses]
  generalize (Playback.of settings stage).play = played at *
  rcases played with ⟨number, p⟩
  dsimp only at *
  subst first
  dsimp only
  rw [completed, comes]
  rfl

/-! ## Apart from the log -/

namespace Stage.Twin

variable {t : Stage}

theorem turn (twin : s.Twin t) (actor : ActorId) : (s.turn actor).Twin (t.turn actor) := by
  obtain ⟨_, rfl⟩ := id twin
  exact twin.after _

theorem turns (twin : s.Twin t) (actors : List ActorId) :
    (s.turns actors).Twin (t.turns actors) := by
  induction actors generalizing s t with
  | nil => exact twin
  | cons actor waiting ih => exact ih (twin.turn actor)

theorem pass (twin : s.Twin t) : s.pass.Twin t.pass := by
  obtain ⟨_, rfl⟩ := id twin
  exact twin.turns s.roster.ids

/-- The reports of the passes are all that a play adds to them. -/
theorem afterPasses (twin : s.Twin t) (made more : Nat) :
    (Stage.pass^[more] s).Twin (t.afterPasses made more) := by
  induction more generalizing s t made with
  | zero => exact twin
  | succ more ih => exact ih (twin.pass.record _) (made + 1)

end Stage.Twin

/-- **Undisturbed, playback is what its unrolled programs say.**  An actor that runs a program
leaves the stage that the scripts of the unrolled program leave one after another, and a pass that
somebody makes leaves the stage on which one actor after another has done that with the program it
holds.  A play with a limit returns it, and leaves the stage after so many passes, each of them
reported; the time scale and the interval do not matter, and however its loop is resumed, it comes
to the same. -/
theorem undisturbed_playback_is_unrolled (alone : p.loops = []) (actor : ActorId)
    (program : Program) (scale : Float) (settings : PlaySettings) (limit : Nat)
    (limited : settings.passLimit = some limit) (positive : 1 ≤ limit) (stage : Stage) :
    ((p.runProgram actor program scale).stage = p.stage.after (Program.deeds actor program) ∧
      p.runPass.stage = p.stage.pass ∧
      ∀ script ∈ Program.unrolled program, script.block? ≠ some .repetition) ∧
    (CommandLine.playPasses settings stage =
        (limit, ((stage.record .playStarted).afterPasses 0 limit).record .playStopped) ∧
      (Stage.pass^[limit] stage).Twin (CommandLine.playPasses settings stage).2) ∧
    ((Playback.of settings stage).play.2.await 0).1 = some limit ∧
    ∀ moves : List Playback.Move, (∀ move ∈ moves, move.Unattended) →
      ((Playback.of settings stage).play.2.after moves).loops = [] →
      ((Playback.of settings stage).play.2.after moves).ended.lookup 0 = some limit ∧
        ((Playback.of settings stage).play.2.after moves).stage =
          ((stage.record .playStarted).afterPasses 0 limit).record .playStopped := by
  have plays := CommandLine.playPasses_eq limited positive stage
  have started := (Stage.Twin.refl stage).record .playStarted
  have twin := (started.afterPasses 0 limit).record .playStopped
  refine ⟨⟨Playback.runProgram_of_alone alone actor program scale,
    Playback.runPass_of_alone alone, fun script mem => ?_⟩,
    ⟨plays, ?_⟩, (Playback.await_play limited positive stage).2.1, fun moves unattended gone =>
      Playback.play_of_unattended limited positive stage unattended gone⟩
  · exact Program.block?_of_mem_unrolled program mem
  · rw [plays]
    exact twin

/-- An actor alone on a stage. -/
def soloSetup : StageSetup := ⟨0, true, 16⟩

/-- Twice over, three turns and a word. -/
def twirl : Script :=
  let turn := Block.turnRight.instantiate ⟨"turn"⟩ (.ofList [("degrees", .number 25)])
  let say := Block.say.instantiate ⟨"say"⟩ .nil
  let turns := Block.repetition.instantiate ⟨"turns"⟩
    (.ofList [("count", .number 2.5), ("scripts", .scripts [turn])])
  Block.repetition.instantiate ⟨"twirl"⟩
    (.ofList [("count", .number 2), ("scripts", .scripts [turns, say])])

/-- Where the actors look, to the bit. -/
def Stage.headings (s : Stage) : List UInt64 := s.roster.actors.map (·.heading.toBits)

/-- From 90 degrees the actor turns by 150 in one run and in one pass, and by twice as much in two
passes. -/
theorem twirl_turns_its_actor :
    ((Playback.of .standard (.start soloSetup)).runProgram ⟨1⟩ [twirl] 1).stage.headings =
        [(240 : Float).toBits] ∧
    (Playback.of .standard ((Stage.start soloSetup).submit twirl).2).runPass.stage.headings =
        [(240 : Float).toBits] ∧
    (CommandLine.playPasses ⟨16, 1, some 2⟩ ((Stage.start soloSetup).submit twirl).2).1 = 2 ∧
    (CommandLine.playPasses ⟨16, 1, some 2⟩ ((Stage.start soloSetup).submit twirl).2).2.headings =
        [(390 : Float).toBits] := by
  obtain ⟨⟨runs, -⟩, ⟨plays, -⟩, -⟩ := undisturbed_playback_is_unrolled
    (p := .of .standard (.start soloSetup)) rfl ⟨1⟩ [twirl] 1 ⟨16, 1, some 2⟩ 2 rfl (by decide)
    ((Stage.start soloSetup).submit twirl).2
  obtain ⟨⟨-, passes, -⟩, -⟩ := undisturbed_playback_is_unrolled
    (p := .of .standard ((Stage.start soloSetup).submit twirl).2) rfl ⟨1⟩ [] 1 ⟨16, 1, some 2⟩ 2
    rfl (by decide) (.start soloSetup)
  rw [runs, passes, plays]
  decide +kernel

end BlockStage
