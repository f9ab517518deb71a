import BlockStage.Playback.Pass
import BlockStage.Proofs.Script.Unrolling
import BlockStage.Proofs.Stage.Operation
import BlockStage.Proofs.Stage.Placement

/-!
# What an actor does in its turn

`Turn.told` lists what an actor does while its turn runs from one stop to the next: it performs
scripts, and clears its bubble after dialogue.  Nothing else happens to the stage
(`Turn.after_told`), and what is told, together with what is left of the turn, is what was left of
it before (`Turn.told_append_deeds`).  So a whole turn performs the scripts of its program one after
another, repetitions written out, wherever dialogue stops it.
-/

namespace BlockStage

variable {s next : Stage} {actor : ActorId} {script : Script}

/-! ## What an actor does for a script -/

/-- What is left to do after a script, if there is an actor to perform it. -/
def Script.outcome (script : Script) : Outcome :=
  match script.block? with
  | none => .ignored
  | some .say | some .think => .speaking script.speakingTime
  | some .repetition => .repeating script.times script.body
  | some .move | some .turnLeft | some .turnRight | some .goTo => .done

/-- What an actor does for a script that is no repetition: it performs it, and after dialogue it
clears its bubble. -/
def Script.deeds (actor : ActorId) (script : Script) : List Operation :=
  match script.block? with
  | some .say | some .think => [.perform actor script, .hush actor]
  | _ => [.perform actor script]

/-- What an actor does for a program, its repetitions written out. -/
def Program.deeds (actor : ActorId) (program : Program) : List Operation :=
  (Program.unrolled program).flatMap (Script.deeds actor)

/-- The outcome depends on the script alone, and a repetition changes nothing by itself. -/
theorem Stage.perform_of_mem (present : actor ∈ s.roster.ids) (script : Script) :
    (s.perform actor script).1 = script.outcome ∧
      (script.block? = some .repetition → (s.perform actor script).2 = s) := by
  obtain ⟨x, found⟩ := Roster.exists_get?_of_mem_ids present
  have here : s.actor? actor = some x := found
  rw [Stage.perform, here, Script.outcome]
  cases script.block? with
  | none => exact ⟨rfl, fun repeats => by cases repeats⟩
  | some block => cases block <;> exact ⟨rfl, by simp⟩

/-- Nobody performs anything for an actor that is not there. -/
theorem Stage.perform_of_not_mem (absent : actor ∉ s.roster.ids) (script : Script) :
    s.perform actor script = (.ignored, s) := by
  have nobody : s.actor? actor = none := by
    cases found : s.actor? actor with
    | none => rfl
    | some x => exact absurd (Roster.mem_ids_of_get? found) absent
  rw [Stage.perform, nobody]

/-- Only a repetition asks for scripts to be repeated, its own ones. -/
theorem Stage.of_perform_repeating {times : Nat} {body : List Script}
    (performed : s.perform actor script = (.repeating times body, next)) :
    script.block? = some .repetition ∧ times = script.times ∧ body = script.body ∧ next = s := by
  obtain ⟨times_eq, body_eq⟩ := Stage.perform_repeating performed
  have present : actor ∈ s.roster.ids := by
    by_contra absent
    rw [Stage.perform_of_not_mem absent] at performed
    cases performed
  obtain ⟨outcome, unchanged⟩ := Stage.perform_of_mem present script
  have repeats : script.block? = some .repetition := by
    rw [performed, Script.outcome] at outcome
    split at outcome
    · cases outcome
    · cases outcome
    · cases outcome
    · next repeats => exact repeats
    all_goals cases outcome
  rw [performed] at unchanged
  exact ⟨repeats, times_eq, body_eq, unchanged repeats⟩

/-- A script that is neither dialogue nor a repetition. -/
theorem Script.deeds_of_silent (silent : script.outcome = .done ∨ script.outcome = .ignored)
    (actor : ActorId) :
    script.block? ≠ some .repetition ∧ script.deeds actor = [.perform actor script] := by
  rw [Script.outcome] at silent
  rw [Script.deeds]
  split at silent
  · next unknown => simp [unknown]
  · simp at silent
  · simp at silent
  · simp at silent
  all_goals next block => simp [block]

theorem Script.deeds_of_speaking {seconds : Float} (speaks : script.outcome = .speaking seconds)
    (actor : ActorId) :
    script.block? ≠ some .repetition ∧
      script.deeds actor = [.perform actor script, .hush actor] := by
  rw [Script.outcome] at speaks
  rw [Script.deeds]
  split at speaks
  · cases speaks
  · next block => simp [block]
  · next block => simp [block]
  all_goals cases speaks

/-- Nobody comes or goes while a script is performed. -/
theorem Stage.ids_perform (s : Stage) (actor : ActorId) (script : Script) :
    (s.perform actor script).2.roster.ids = s.roster.ids := by
  rw [(s.alike_perform actor script).ids]
  cases s.destination? actor script with
  | none => rfl
  | some position => exact s.ids_place actor position

theorem Stage.ids_hush (s : Stage) (actor : ActorId) : (s.hush actor).roster.ids = s.roster.ids :=
  (s.alike_setBubble actor none).ids

/-! ## What is left of a turn -/

/-- The scripts that are left of a list that is being run, repetitions written out. -/
def Frame.unrolled (f : Frame) : List Script :=
  Program.unrolled f.todo ++ (List.replicate f.rounds (Program.unrolled f.body)).flatten

/-- What an actor still does for lists that are being run, the innermost first. -/
def Frame.deeds (actor : ActorId) (frames : List Frame) : List Operation :=
  (frames.flatMap Frame.unrolled).flatMap (Script.deeds actor)

variable {frames : List Frame}

theorem Frame.deeds_cons (f : Frame) (frames : List Frame) :
    Frame.deeds actor (f :: frames) =
      f.unrolled.flatMap (Script.deeds actor) ++ Frame.deeds actor frames := by
  rw [Frame.deeds, List.flatMap_cons, List.flatMap_append]
  rfl

/-- A list that has come to its end. -/
theorem Frame.deeds_over (body : List Script) (frames : List Frame) :
    Frame.deeds actor (⟨[], 0, body⟩ :: frames) = Frame.deeds actor frames := by
  rw [Frame.deeds_cons]
  rfl

theorem Frame.deeds_empty (rounds : Nat) (frames : List Frame) :
    Frame.deeds actor (⟨[], rounds, []⟩ :: frames) = Frame.deeds actor frames := by
  rw [Frame.deeds_cons, Frame.unrolled, Program.unrolled]
  simp

/-- The next round. -/
theorem Frame.deeds_next (rounds : Nat) (body : List Script) (frames : List Frame) :
    Frame.deeds actor (⟨[], rounds + 1, body⟩ :: frames) =
      Frame.deeds actor (⟨body, rounds, body⟩ :: frames) := by
  rw [Frame.deeds_cons, Frame.deeds_cons, Frame.unrolled, Frame.unrolled, List.replicate_succ,
    List.flatten_cons]
  rfl

theorem Frame.deeds_todo (script : Script) (todo : List Script) (rounds : Nat) (body : List Script)
    (frames : List Frame) :
    Frame.deeds actor (⟨script :: todo, rounds, body⟩ :: frames) =
      script.unrolled.flatMap (Script.deeds actor) ++
        Frame.deeds actor (⟨todo, rounds, body⟩ :: frames) := by
  rw [Frame.deeds_cons, Frame.deeds_cons, Frame.unrolled, Frame.unrolled, Program.unrolled,
    List.append_assoc, List.flatMap_append, List.append_assoc]

/-- A script that is performed, and what its actor does for it. -/
theorem Frame.deeds_perform (other : script.block? ≠ some .repetition) (todo : List Script)
    (rounds : Nat) (body : List Script) (frames : List Frame) :
    Frame.deeds actor (⟨script :: todo, rounds, body⟩ :: frames) =
      script.deeds actor ++ Frame.deeds actor (⟨todo, rounds, body⟩ :: frames) := by
  rw [Frame.deeds_todo, Script.unrolled_of_ne other, List.flatMap_singleton]

/-- A repetition, and the list that it puts in front. -/
theorem Frame.deeds_repeat (repeats : script.block? = some .repetition) (todo : List Script)
    (rounds : Nat) (body : List Script) (frames : List Frame) :
    Frame.deeds actor (⟨script :: todo, rounds, body⟩ :: frames) =
      Frame.deeds actor (⟨[], script.times, script.body⟩ :: ⟨todo, rounds, body⟩ :: frames) := by
  rw [Frame.deeds_todo, Script.unrolled_of_repetition repeats,
    Frame.deeds_cons ⟨[], script.times, script.body⟩]
  rfl

/-- A turn that begins. -/
theorem Frame.deeds_of (actor : ActorId) (program : Program) :
    Frame.deeds actor (Turn.of actor program).frames = Program.deeds actor program := by
  rw [Turn.of, Frame.deeds, List.flatMap_singleton, Frame.unrolled, List.replicate_zero,
    List.flatten_nil, List.append_nil]
  rfl

/-- What an actor still does when its turn has come so far. -/
def Progress.deeds (actor : ActorId) : Progress (List Frame) → List Operation
  | .finished _ => []
  | .speaking _ frames => .hush actor :: Frame.deeds actor frames

namespace Turn

/-! ## What a turn does on its way -/

/-- What `actor` does while it runs lists up to its next stop in dialogue, script by script in the
order of `advanceFrames`. -/
def told (instant : Float → Bool) (actor : ActorId) (breath : Breath) (stage : Stage)
    (frames : List Frame) : List Operation :=
  match frames with
  | [] => []
  | ⟨[], _, []⟩ :: frames => told instant actor breath stage frames
  | ⟨[], 0, _ :: _⟩ :: frames => told instant actor breath stage frames
  | ⟨[], rounds + 1, s :: body⟩ :: frames =>
    told instant actor breath stage (⟨s :: body, rounds, s :: body⟩ :: frames)
  | ⟨script :: todo, rounds, body⟩ :: frames =>
    match _performed : stage.perform actor script with
    | (.done, stage) =>
      .perform actor script :: told instant actor breath stage (⟨todo, rounds, body⟩ :: frames)
    | (.ignored, stage) =>
      .perform actor script :: told instant actor breath stage (⟨todo, rounds, body⟩ :: frames)
    | (.speaking seconds, stage) =>
      match breath.spend (instant seconds) with
      | some breath =>
        .perform actor script :: .hush actor ::
          told instant actor breath (stage.hush actor) (⟨todo, rounds, body⟩ :: frames)
      | none => [.perform actor script]
    | (.repeating times inner, stage) =>
      told instant actor breath stage (⟨[], times, inner⟩ :: ⟨todo, rounds, body⟩ :: frames)
termination_by Frame.listEffort frames
decreasing_by
  all_goals simp only [Frame.listEffort_cons, Nat.succ_eq_add_one]
  · have := Frame.effort_pos ⟨[], ‹Nat›, []⟩; omega
  · have := Frame.effort_pos ⟨[], 0, ‹Script› :: ‹List Script›⟩; omega
  · have := Frame.effort_next rounds (s :: body); omega
  · have := Frame.effort_todo script todo rounds body; omega
  · have := Frame.effort_todo script todo rounds body; omega
  · have := Frame.effort_todo script todo rounds body; omega
  · obtain ⟨rfl, rfl⟩ := Stage.perform_repeating _performed
    have := Frame.effort_repeat script todo rounds body
    omega

section

variable {instant : Float → Bool} {actor : ActorId} {breath : Breath} {s next : Stage}
  {script : Script} {todo body : List Script} {rounds : Nat} {frames : List Frame}

theorem told_of_done (performed : s.perform actor script = (.done, next)) :
    told instant actor breath s (⟨script :: todo, rounds, body⟩ :: frames) =
      .perform actor script :: told instant actor breath next (⟨todo, rounds, body⟩ :: frames) := by
  rw [told, performed]

theorem told_of_ignored (performed : s.perform actor script = (.ignored, next)) :
    told instant actor breath s (⟨script :: todo, rounds, body⟩ :: frames) =
      .perform actor script :: told instant actor breath next (⟨todo, rounds, body⟩ :: frames) := by
  rw [told, performed]

/-- Dialogue that is over at once. -/
theorem told_of_spoken {seconds : Float} {less : Breath}
    (performed : s.perform actor script = (.speaking seconds, next))
    (spent : breath.spend (instant seconds) = some less) :
    told instant actor breath s (⟨script :: todo, rounds, body⟩ :: frames) =
      .perform actor script :: .hush actor ::
        told instant actor less (next.hush actor) (⟨todo, rounds, body⟩ :: frames) := by
  rw [told, performed]
  dsimp only
  rw [spent]

/-- Dialogue that stops the turn. -/
theorem told_of_speaking {seconds : Float}
    (performed : s.perform actor script = (.speaking seconds, next))
    (stopped : breath.spend (instant seconds) = none) :
    told instant actor breath s (⟨script :: todo, rounds, body⟩ :: frames) =
      [.perform actor script] := by
  rw [told, performed]
  dsimp only
  rw [stopped]

theorem told_of_repeating {times : Nat} {inner : List Script}
    (performed : s.perform actor script = (.repeating times inner, next)) :
    told instant actor breath s (⟨script :: todo, rounds, body⟩ :: frames) =
      told instant actor breath next (⟨[], times, inner⟩ :: ⟨todo, rounds, body⟩ :: frames) := by
  rw [told, performed]

end

/-- **The stage changes by what is told.** -/
theorem after_told (instant : Float → Bool) (actor : ActorId) (breath : Breath) (s : Stage)
    (frames : List Frame) :
    (advanceFrames instant actor breath s frames).2 =
      s.after (told instant actor breath s frames) := by
  fun_induction advanceFrames instant actor breath s frames with
  | case1 => rw [told]; rfl
  | case2 _ _ _ _ ih => rw [told]; exact ih
  | case3 _ _ _ _ _ ih => rw [told]; exact ih
  | case4 _ _ _ _ _ _ ih => rw [told]; exact ih
  | case5 _ _ _ _ _ _ _ _ performed ih =>
      rw [told_of_done performed, Stage.after_cons, Operation.apply, performed]
      exact ih
  | case6 _ _ _ _ _ _ _ _ performed ih =>
      rw [told_of_ignored performed, Stage.after_cons, Operation.apply, performed]
      exact ih
  | case7 _ _ _ _ _ _ _ _ next performed _ spent ih =>
      rw [told_of_spoken performed spent, Stage.after_cons, Operation.apply, performed]
      exact ih
  | case8 _ _ _ _ _ _ _ _ _ performed stopped =>
      rw [told_of_speaking performed stopped, Stage.after_cons, Operation.apply, performed]
      rfl
  | case9 _ _ _ _ _ _ _ _ _ _ performed ih =>
      obtain ⟨-, -, -, rfl⟩ := Stage.of_perform_repeating performed
      rw [told_of_repeating performed]
      exact ih

/-- **What is told and what is left are all that was left before.** -/
theorem told_append_deeds (instant : Float → Bool) (breath : Breath) {actor : ActorId} {s : Stage}
    (present : actor ∈ s.roster.ids) (frames : List Frame) :
    told instant actor breath s frames ++
        (advanceFrames instant actor breath s frames).1.deeds actor =
      Frame.deeds actor frames := by
  fun_induction advanceFrames instant actor breath s frames with
  | case1 => rw [told]; rfl
  | case2 _ _ rounds frames ih => rw [told, ih present, Frame.deeds_empty]
  | case3 _ _ s body frames ih => rw [told, ih present, Frame.deeds_over]
  | case4 _ _ rounds s body frames ih => rw [told, ih present, Frame.deeds_next]
  | case5 _ s script _ _ _ _ next performed ih =>
      have kept := s.ids_perform actor script
      obtain ⟨outcome, -⟩ := Stage.perform_of_mem present script
      rw [performed] at kept outcome
      obtain ⟨other, deeds⟩ := Script.deeds_of_silent (.inl outcome.symm) actor
      rw [told_of_done performed, List.cons_append, ih (kept ▸ present),
        Frame.deeds_perform other, deeds]
      rfl
  | case6 _ s script _ _ _ _ next performed ih =>
      have kept := s.ids_perform actor script
      obtain ⟨outcome, -⟩ := Stage.perform_of_mem present script
      rw [performed] at kept outcome
      obtain ⟨other, deeds⟩ := Script.deeds_of_silent (.inr outcome.symm) actor
      rw [told_of_ignored performed, List.cons_append, ih (kept ▸ present),
        Frame.deeds_perform other, deeds]
      rfl
  | case7 _ s script _ _ _ _ _ next performed _ spent ih =>
      have kept := s.ids_perform actor script
      obtain ⟨outcome, -⟩ := Stage.perform_of_mem present script
      rw [performed] at kept outcome
      obtain ⟨other, deeds⟩ := Script.deeds_of_speaking outcome.symm actor
      rw [told_of_spoken performed spent, List.cons_append, List.cons_append,
        ih ((next.ids_hush actor).trans kept ▸ present), Frame.deeds_perform other, deeds]
      rfl
  | case8 _ s script _ _ _ _ _ _ performed stopped =>
      obtain ⟨outcome, -⟩ := Stage.perform_of_mem present script
      rw [performed] at outcome
      obtain ⟨other, deeds⟩ := Script.deeds_of_speaking outcome.symm actor
      rw [told_of_speaking performed stopped, Frame.deeds_perform other, deeds]
      rfl
  | case9 _ _ _ _ _ _ _ _ _ _ performed ih =>
      obtain ⟨repeats, rfl, rfl, rfl⟩ := Stage.of_perform_repeating performed
      rw [told_of_repeating performed, ih present, Frame.deeds_repeat repeats]

end Turn

end BlockStage
