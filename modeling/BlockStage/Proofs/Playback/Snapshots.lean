import BlockStage.Proofs.Playback.Timeline
import BlockStage.Proofs.Registry.Broadcast

/-!
# Passes are serial and run on snapshots

The account of a playback (`Playback.timeline`) shows what its passes do while others change the
stage in between.  `Playback.SerialPasses` collects what is promised of them: who has a turn is
settled when a pass begins, what an actor runs is settled when its turn begins, and nothing that
happens later changes either.  A script that was deleted is therefore run to the end by the turn
under way, and by no later one; and a pass that has begun is completed, if only its loop is resumed
again and again, because less of it is left each time (`Pass.measure`).

A pass that somebody makes beside the loops is one that the loops disturb, too
(`Playback.course_runPass`), so the same is true of it.
-/

namespace BlockStage

variable {s t : Stage} {p q : Playback} {loop : Loop} {entries : List Entry} {id : ScriptId}
  {settings : PlaySettings} {o : Observed}

/-! ## A script that is gone -/

/-- What does not submit a script does not bring it back. -/
theorem Stage.InStep.not_mem_registry (h : s.InStep) {operation : Operation}
    (absent : id ∉ Program.ids s.registry.scripts)
    (other : ∀ script, operation = .submit script → script.id ≠ id) :
    id ∉ Program.ids (operation.apply s).registry.scripts := by
  have edited : (operation.apply s).registry.scripts = _ := h.registry_act (.operate operation)
  rw [edited]
  cases operation with
  | submit script =>
      have ne := other script rfl
      rw [Act.edit]
      split
      · exact absent
      · simpa [Program.ids, ne.symm] using absent
  | delete gone => exact fun mem => absent ((List.eraseP_sublist.map _).subset mem)
  | create | place | face | select | nudge | perform | hush | note | take => exact absent

/-- A deletion takes its script out. -/
theorem Stage.not_mem_registry_delete (s : Stage) (id : ScriptId) :
    id ∉ Program.ids (s.delete id).2.registry.scripts := by
  have dropped : Program.ids (s.delete id).2.registry.scripts =
      Program.ids (Program.drop s.registry.scripts id) :=
    congrArg (fun registry => Program.ids registry.scripts) (s.alike_delete id).registry
  rw [dropped, Program.ids_drop]
  simp

theorem Stage.InStep.entry (h : s.InStep) (entry : Entry) : (entry.apply s).InStep := by
  cases entry with
  | does operation | outside operation => exact h.apply operation
  | logs event => exact h.of_alike (s.alike_record event)
  | opens | turn | closes => exact h

theorem Stage.InStep.replay (h : s.InStep) (entries : List Entry) : (s.replay entries).InStep := by
  induction entries generalizing s with
  | nil => exact h
  | cons entry rest ih => exact ih (h.entry entry)

/-- What somebody does, if a line tells that. -/
def Entry.operation? : Entry → Option Operation
  | .does operation | .outside operation => some operation
  | .opens _ | .turn _ _ | .closes | .logs _ => none

theorem Stage.InStep.not_mem_replay (h : s.InStep)
    (absent : id ∉ Program.ids s.registry.scripts)
    (other : ∀ entry ∈ entries, ∀ script, entry.operation? = some (.submit script) →
      script.id ≠ id) :
    id ∉ Program.ids (s.replay entries).registry.scripts := by
  induction entries generalizing s with
  | nil => exact absent
  | cons entry rest ih =>
      obtain ⟨first, other⟩ := List.forall_mem_cons.mp other
      refine ih (h.entry entry) ?_ other
      cases entry with
      | does operation | outside operation =>
          exact h.not_mem_registry absent fun script same => first script (congrArg some same)
      | logs | opens | turn | closes => exact absent

/-- In step, a program lists what is registered. -/
theorem Stage.InStep.ids_program? (h : s.InStep) {actor : ActorId} {program : Program}
    (held : s.program? actor = some program) :
    Program.ids program = Program.ids s.registry.scripts := by
  obtain ⟨x, found, rfl⟩ := Option.map_eq_some_iff.mp held
  exact (h.held x (List.mem_of_find?_eq_some found)).program

/-- **A script that was deleted, and not submitted again, is in no program that a turn begins
with.** -/
theorem Stage.Bears.not_mem_ids {before between later : List Entry} {actor : ActorId}
    {program : Program} (h : s.InStep)
    (bears : s.Bears (before ++ .outside (.delete id) :: between ++ .turn actor program :: later))
    (other : ∀ entry ∈ between, ∀ script, entry.operation? = some (.submit script) →
      script.id ≠ id) :
    id ∉ Program.ids program := by
  have deleted := (h.replay before).apply (.delete id)
  have gone := deleted.not_mem_replay ((s.replay before).not_mem_registry_delete id) other
  have held : (s.replay (before ++ .outside (.delete id) :: between)).program? actor =
      some program := bears.holds
  rw [Stage.replay_append] at held
  rw [(deleted.replay between).ids_program? held]
  exact gone

/-! ## A pass is brought to its end -/

/-- What a pass under way has still to do. -/
def Pass.measure (pass : Pass) : Nat × Nat := (pass.waiting.length + 1, pass.turn.effort)

namespace Playback

/-- From `p` to `q` the pass under way has been completed, or less of it is left. -/
def Furthers (p q : Playback) (pass : Pass) : Prop :=
  q.passes = p.passes + 1 ∨
    q.passes = p.passes ∧ ∃ loop line rest, q.loops = [loop] ∧
      loop.suspension = .speaking line rest ∧
      Prod.Lex (· < ·) (· < ·) rest.measure pass.measure

/-- A loop that is resumed within a pass furthers it. -/
theorem furthers_resume {line : Script} {pass : Pass} (loops : p.loops = [loop])
    (suspension : loop.suspension = .speaking line pass) (breath : Breath) :
    p.Furthers (p.resume breath 0) pass := by
  have less := pass.less_left_resume p.instant breath p.stage
  rw [resume_of_one loops, Playback.run, suspension]
  dsimp only
  have same : ({ p with now := max p.now loop.due } : Playback).instant = p.instant := rfl
  rw [same]
  generalize pass.resume p.instant breath p.stage = progress at less
  rcases progress with ⟨left | ⟨line', pass'⟩, stage⟩
  · obtain ⟨-, -, -, passes, -⟩ :=
      toldEnd_finished { p with now := max p.now loop.due, stage } loop left
    exact .inl passes
  · exact .inr ⟨rfl, _, line', pass', rfl, rfl, less⟩

/-- Any other move leaves it to do what it had to. -/
theorem apply_within (active : p.loopActive = true) (loops : p.loops = [loop]) {move : Move}
    (other : ∀ breath, move ≠ .resume breath 0) :
    (move.apply p).loops = [loop] ∧ (move.apply p).passes = p.passes := by
  cases move with
  | play =>
      rw [Move.apply]
      by_cases running : p.state = .running
      · rw [play_of_running running]
        exact ⟨loops, rfl⟩
      · rw [play_of_active running active]
        exact ⟨loops, rfl⟩
  | stop =>
      rw [Move.apply]
      by_cases running : p.state = .running
      · rw [stop_of_running running]
        exact ⟨loops, rfl⟩
      · rw [stop_of_idle running]
        exact ⟨loops, rfl⟩
  | resume breath place =>
      have absent : p.loops[place]? = none := by
        cases place with
        | zero => exact absurd rfl (other breath)
        | succ place => rw [loops]; rfl
      rw [Move.apply, resume_of_not_mem absent]
      exact ⟨loops, rfl⟩
  | operate operation => exact ⟨loops, rfl⟩
  | elapse time breath => exact ⟨loops, rfl⟩

/-- The playback after the first moves of a schedule. -/
def following (p : Playback) (schedule : Nat → Move) (n : Nat) : Playback :=
  p.after ((List.range n).map schedule)

theorem following_add (p : Playback) (schedule : Nat → Move) (m n : Nat) :
    p.following schedule (m + n) =
      (p.following schedule m).following (fun k => schedule (m + k)) n := by
  rw [following, following, following, List.range_add, List.map_append, List.map_map,
    after_append]
  rfl

end Playback

/-- A loop within a pass furthers it once it is resumed. -/
theorem Observed.Safe.exists_furthers (h : o.Safe settings) {line : Script} {pass : Pass}
    (loops : o.playback.loops = [loop]) (suspension : loop.suspension = .speaking line pass)
    (schedule : Nat → Playback.Move) {m : Nat} {breath : Breath}
    (resumed : schedule m = .resume breath 0) :
    ∃ n, o.playback.Furthers (o.playback.following schedule n) pass := by
  induction m generalizing o schedule with
  | zero =>
      have first : o.playback.following schedule 1 = (schedule 0).apply o.playback := rfl
      refine ⟨1, ?_⟩
      rw [first, resumed]
      exact Playback.furthers_resume loops suspension breath
  | succ m ih =>
      have first : o.playback.following schedule 1 = (schedule 0).apply o.playback := rfl
      by_cases now : ∃ breath, schedule 0 = .resume breath 0
      · obtain ⟨breath, resumed⟩ := now
        refine ⟨1, ?_⟩
        rw [first, resumed]
        exact Playback.furthers_resume loops suspension breath
      · have active := h.active.mpr (by simp [loops])
        obtain ⟨loops', passes⟩ := Playback.apply_within active loops
          fun breath same => now ⟨breath, same⟩
        obtain ⟨n, comes⟩ := ih (h.step (schedule 0)) loops' (fun k => schedule (1 + k))
          (Nat.add_comm 1 m ▸ resumed)
        refine ⟨1 + n, ?_⟩
        have here : (o.step (schedule 0)).playback = (schedule 0).apply o.playback := rfl
        rw [here] at comes
        rw [Playback.following_add, first, Playback.Furthers, ← passes]
        exact comes

/-- Each time its loop is resumed less of a pass is left, until nothing is. -/
theorem Observed.Safe.completes_pass {o : Observed} {loop : Loop} {line : Script} {pass : Pass}
    (h : o.Safe settings) (loops : o.playback.loops = [loop])
    (suspension : loop.suspension = .speaking line pass)
    (schedule : Nat → Playback.Move)
    (fair : ∀ n, ∃ m, n ≤ m ∧ ∃ breath, schedule m = .resume breath 0) :
    ∃ n, (o.playback.following schedule n).passes = o.playback.passes + 1 := by
  obtain ⟨m, -, breath, resumed⟩ := fair 0
  obtain ⟨n, done | ⟨passes, _, _, rest, loops', suspension', less⟩⟩ :=
    h.exists_furthers loops suspension schedule resumed
  · exact ⟨n, done⟩
  · have later := h.steps ((List.range n).map schedule)
    have there := o.playback_steps ((List.range n).map schedule)
    generalize ((List.range n).map schedule).foldl Observed.step o = o' at later there
    have here : o.playback.following schedule n = o'.playback := there.symm
    rw [here] at loops' passes
    obtain ⟨k, comes⟩ := later.completes_pass loops' suspension' (fun k => schedule (n + k))
      fun l => by
        obtain ⟨m, le, resumed⟩ := fair (n + l)
        obtain ⟨j, rfl⟩ := Nat.exists_eq_add_of_le le
        exact ⟨l + j, Nat.le_add_right l j, Nat.add_assoc n l j ▸ resumed⟩
    refine ⟨n + k, ?_⟩
    rw [Playback.following_add, here, comes, passes]
termination_by pass.measure
decreasing_by exact less

/-- **A pass that has begun is completed**, in every schedule that resumes its loop again and
again, stops and plays at will, and leaves the stage to anybody in between. -/
theorem Observed.Safe.completes (h : o.Safe settings)
    (within : ∃ loop ∈ o.playback.loops, loop.inPass = true) (schedule : Nat → Playback.Move)
    (fair : ∀ n, ∃ m, n ≤ m ∧ ∃ breath, schedule m = .resume breath 0) :
    ∃ n, (o.playback.following schedule n).passes = o.playback.passes + 1 := by
  obtain ⟨loop, mem, inPass⟩ := within
  obtain ⟨place, found⟩ := List.mem_iff_getElem?.mp mem
  obtain ⟨loops, -⟩ := Playback.loops_of_found h.one found
  rw [Loop.inPass] at inPass
  split at inPass
  · next suspension => exact h.completes_pass loops suspension schedule fair
  all_goals cases inPass

/-! ## A pass beside the loops -/

/-- `t` comes from `s` by what others do. -/
def Stage.Disturbed (s t : Stage) : Prop :=
  ∃ lines : List Entry, (∀ entry ∈ lines, entry.isOfPass = false) ∧ t = s.replay lines

namespace Stage.Disturbed

variable {u : Stage}

theorem refl (s : Stage) : s.Disturbed s := ⟨[], List.forall_mem_nil _, rfl⟩

theorem trans (first : s.Disturbed t) (second : t.Disturbed u) : s.Disturbed u := by
  obtain ⟨before, foreign, rfl⟩ := first
  obtain ⟨later, foreign', rfl⟩ := second
  refine ⟨before ++ later, fun entry mem => ?_, (s.replay_append before later).symm⟩
  exact (List.mem_append.mp mem).elim (foreign entry) (foreign' entry)

theorem record (disturbed : s.Disturbed t) (event : Event) : s.Disturbed (t.record event) :=
  disturbed.trans ⟨[.logs event], by simp [Entry.isOfPass], rfl⟩

theorem of_plays (plays : s.Plays t) : s.Disturbed t := by
  obtain ⟨operations, -, rfl⟩ := plays
  refine ⟨operations.map .outside, by simp [Entry.isOfPass], ?_⟩
  rw [Stage.replay, List.foldl_map]
  rfl

end Stage.Disturbed

theorem Playback.Stretch.disturbed {next : Option Loop} (stretch : p.Stretch loop next q) :
    p.stage.Disturbed q.stage := by
  cases stretch with
  | released outside idle now => exact .refl _
  | speaks may plays now due line pass => exact .of_plays plays
  | rests may plays within now due => exact (Stage.Disturbed.of_plays plays).record _
  | stops may plays reached now =>
      dsimp only
      split
      · exact ((Stage.Disturbed.of_plays plays).record _).record _
      · exact (Stage.Disturbed.of_plays plays).record _

/-- To a pass beside the loops, whatever they do is done by others. -/
theorem Playback.disturbed_apply (p : Playback) (move : Playback.Move) :
    p.stage.Disturbed (move.apply p).stage := by
  cases move with
  | play =>
      rw [Move.apply, play]
      split
      · exact .refl _
      · dsimp only
        split <;> exact (Stage.Disturbed.refl p.stage).record _
  | stop =>
      rw [Move.apply, stop]
      split
      · exact (Stage.Disturbed.refl p.stage).record _
      · exact .refl _
  | resume breath place =>
      rw [Move.apply, resume]
      split
      · exact .refl _
      · next loop found =>
        have stretch := p.stretch_run breath loop
        generalize p.run breath loop = ran at stretch ⊢
        rcases ran with ⟨_ | next, q⟩ <;> exact stretch.disturbed
  | operate operation => exact ⟨[.outside operation], by simp [Entry.isOfPass], rfl⟩
  | elapse time breath => exact .refl _

theorem Playback.Reaches.disturbed (reaches : p.Reaches q) : p.stage.Disturbed q.stage := by
  obtain ⟨moves, rfl⟩ := reaches
  induction moves generalizing p with
  | nil => exact .refl _
  | cons move rest ih => exact (p.disturbed_apply move).trans ih

namespace Pass

theorem Course.disturbs {first : Stage} {line : Script} {pass : Pass}
    (course : Course first entries (.speaking line pass, s)) (disturbed : s.Disturbed t) :
    ∃ entries, Course first entries (.speaking line pass, t) := by
  obtain ⟨lines, foreign, rfl⟩ := disturbed
  induction lines generalizing entries s with
  | nil => exact ⟨entries, course⟩
  | cons entry rest ih =>
      obtain ⟨first, foreign⟩ := List.forall_mem_cons.mp foreign
      exact ih (course.disturbed first) foreign

/-- A pass that somebody waits for comes to its end. -/
theorem Course.follow {first : Stage} (scale : Float) (p : Playback)
    {progress : Progress Pass × Stage} (course : Course first entries progress) :
    ∃ entries breath, Course first entries (.finished breath, (p.follow scale progress).stage) := by
  fun_induction Playback.follow scale p progress generalizing entries
  case case1 p breath stage => exact ⟨entries, breath, course⟩
  case case2 p line pass stage waited later =>
    have waits := (Playback.reaches_wait { p with stage, breath := .left 0 }
      (Wait.dialogue scale line.speakingTime)).disturbed
    obtain ⟨entries, course⟩ := course.disturbs waits
    exact later (course.resumed _ _)

end Pass

/-- **A pass beside the loops** is a pass that others disturb, and it ends. -/
theorem Playback.course_runPass (p : Playback) :
    ∃ entries breath, Pass.Course p.stage entries (.finished breath, p.runPass.stage) :=
  (Pass.Course.begun p.instant p.breath).follow p.settings.scale p

/-! ## What is promised of passes -/

/-- A turn only performs scripts and clears its bubble. -/
theorem Script.inTurn_of_mem_deeds {actor : ActorId} {script : Script} {operation : Operation}
    (mem : operation ∈ script.deeds actor) : operation.InTurn := by
  rw [Script.deeds] at mem
  split at mem <;>
  · simp only [List.mem_cons, List.not_mem_nil, or_false] at mem
    rcases mem with rfl | rfl <;> trivial

theorem Entry.inTurn_of_mem_ofPass {turns : List (ActorId × Program)} {operation : Operation}
    (mem : .does operation ∈ Entry.ofPass turns) : operation.InTurn := by
  simp only [Entry.ofPass, Entry.ofTurn, List.cons_append, List.mem_cons, List.mem_append,
    List.mem_flatMap, List.mem_map, List.not_mem_nil, reduceCtorEq, false_or, or_false,
    Entry.does.injEq, exists_eq_right] at mem
  obtain ⟨turn, -, mem⟩ := mem
  obtain ⟨script, -, mem⟩ := List.mem_flatMap.mp mem
  exact Script.inTurn_of_mem_deeds mem

/-- What is promised of the passes of a playback, by its account from its beginning on. -/
structure Playback.SerialPasses (start : Stage) (entries : List Entry) (p : Playback) : Prop where
  /-- The account is the whole history of the stage. -/
  complete : start.replay entries = p.stage
  /-- A pass is made for those who are there when it begins, in their order on the stage. -/
  opened : ∀ before actors later, entries = before ++ .opens actors :: later →
    actors = (start.replay before).roster.ids
  /-- A turn runs the program that its actor holds when the turn begins. -/
  begun : ∀ before actor program later, entries = before ++ .turn actor program :: later →
    (start.replay before).program? actor = some program
  /-- Each pass gives each of its actors one turn, one after another, in which the actor does all
  that its unrolled program says; and so does the beginning of a pass that is under way. -/
  serial : ∃ (passes : List (List (ActorId × Program))) (part : List Entry),
    entries.filter Entry.isOfPass = passes.flatMap Entry.ofPass ++ part ∧
      passes.length = p.passes ∧ (part = [] ∨ ∃ turns rest, part ++ rest = Entry.ofPass turns)
  /-- A script that was deleted is in no program that a turn begins with, unless it was submitted
  again. -/
  deleted : ∀ id before between actor program later,
    entries = before ++ .outside (.delete id) :: between ++ .turn actor program :: later →
    (∀ script, .outside (.submit script) ∈ between → script.id ≠ id) → id ∉ Program.ids program
  /-- A pass under way is completed, whether the playback is stopped or not and whatever happens,
  if only its loop is resumed again and again. -/
  completed : (∃ loop ∈ p.loops, loop.inPass = true) → ∀ schedule : Nat → Playback.Move,
    (∀ n, ∃ m, n ≤ m ∧ ∃ breath, schedule m = .resume breath 0) →
    ∃ n, (p.following schedule n).passes = p.passes + 1

theorem Playback.Recorded.serialPasses (h : p.Recorded s entries) (inStep : s.InStep)
    (completed : (∃ loop ∈ p.loops, loop.inPass = true) → ∀ schedule : Nat → Playback.Move,
      (∀ n, ∃ m, n ≤ m ∧ ∃ breath, schedule m = .resume breath 0) →
      ∃ n, (p.following schedule n).passes = p.passes + 1) : p.SerialPasses s entries := by
  obtain ⟨passes, part, serial, counted, pending⟩ := h.serial
  have begins : part = [] ∨ ∃ turns rest, part ++ rest = Entry.ofPass turns := by
    cases pending with
    | nothing => exact .inl rfl
    | begun loops suspension told present =>
        obtain ⟨turns, rest, -, whole⟩ := told.exists_ofPass
        exact .inr ⟨turns, rest, whole⟩
  have inTurn : ∀ operation, .does operation ∈ entries → operation.InTurn := by
    intro operation mem
    have own : Entry.does operation ∈ passes.flatMap Entry.ofPass ++ part :=
      serial ▸ List.mem_filter.mpr ⟨mem, rfl⟩
    rcases List.mem_append.mp own with whole | last
    · obtain ⟨turns, -, mem⟩ := List.mem_flatMap.mp whole
      exact Entry.inTurn_of_mem_ofPass mem
    · rcases begins with rfl | ⟨turns, rest, whole⟩
      · cases last
      · exact Entry.inTurn_of_mem_ofPass (whole ▸ List.mem_append_left rest last)
  refine ⟨h.replays, ?_, ?_, ⟨passes, part, serial, counted, begins⟩, ?_, completed⟩
  · rintro before actors later rfl
    exact h.bears.holds
  · rintro before actor program later rfl
    exact h.bears.holds
  · rintro id before between actor program later rfl fresh
    refine h.bears.not_mem_ids inStep fun entry mem script submits => ?_
    cases entry with
    | outside operation =>
        cases submits
        exact fresh script mem
    | does operation =>
        cases submits
        cases inTurn (.submit script) (by simp [mem])
    | opens | turn | closes | logs => cases submits

/-- **A pass is serial and runs on snapshots, whatever happens meanwhile.**  That holds for the
passes of a playback, in any order of its moves, and for a pass that somebody makes beside them. -/
theorem passes_are_serial_snapshots (settings : PlaySettings) (setup : StageSetup)
    (moves : List Playback.Move) :
    ((Playback.of settings (.start setup)).after moves).SerialPasses (.start setup)
      ((Playback.of settings (.start setup)).timeline moves) ∧
    ∀ p : Playback,
      (∃ entries breath, Pass.Course p.stage entries (.finished breath, p.runPass.stage)) ∧
      ∀ entries reached, Pass.Course p.stage entries reached →
        Pass.Accounted p.stage entries reached := by
  refine ⟨?_, fun p => ⟨p.course_runPass, fun entries reached course => course.accounted⟩⟩
  have safe : (Observed.after settings setup moves).Safe settings :=
    (Observed.safe_nil settings setup).steps moves
  have here : (Observed.after settings setup moves).playback =
      (Playback.of settings (.start setup)).after moves := Observed.playback_steps _ moves
  refine (Playback.recorded_timeline settings setup moves).serialPasses
    (Stage.inStep_start setup) ?_
  rw [← here]
  exact safe.completes

end BlockStage
