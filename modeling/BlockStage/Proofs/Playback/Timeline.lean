import BlockStage.Proofs.Playback.Account
import BlockStage.Proofs.Playback.Safety

/-!
# The account of a playback

`Playback.timeline` is the account of a playback from some moment on: what its loops do in their
passes, what they log, and what others do in between.  It is kept beside the moves and changes
nothing, so it is the real history of the stage (`Playback.Recorded`).  Since there is one loop at
most, its passes come one after another, and the pass under way is the one in which that loop is
suspended, with all it still has to do (`Playback.Pending`).
-/

namespace BlockStage

/-! ## What is told of a move -/

namespace Playback

/-- What is told when a loop comes so far: the pass that has ended is reported, and the playback
stops if it was the last one of the limit. -/
def toldEnd (p : Playback) (loop : Loop) : Progress Pass → List Entry
  | .speaking _ _ => []
  | .finished _ =>
    .logs (.passCompleted (p.passes + 1)) ::
      if p.reachesLimit (loop.completed + 1) = true ∧ p.state = .running then [.logs .playStopped]
      else []

/-- What is told while a loop goes on. -/
def toldRun (p : Playback) (breath : Breath) (loop : Loop) : List Entry :=
  match loop.suspension with
  | .speaking _ pass =>
    pass.toldResume p.instant breath p.stage ++
      p.toldEnd loop (pass.resume p.instant breath p.stage).1
  | .armed | .resting =>
    if p.state = .running then
      .opens p.stage.roster.ids :: Pass.toldStart p.instant breath p.stage.roster.ids p.stage ++
        p.toldEnd loop (Pass.start p.instant breath p.stage.roster.ids p.stage).1
    else []

/-- What is told of a move. -/
def Move.told : Move → Playback → List Entry
  | .play, p => if p.state = .running then [] else [.logs .playStarted]
  | .stop, p => if p.state = .running then [.logs .playStopped] else []
  | .resume breath place, p => (p.loops[place]?.map (p.toldRun breath)).getD []
  | .operate operation, _ => [.outside operation]
  | .elapse _ _, _ => []

/-- The account of a playback while it makes some moves. -/
def timeline (p : Playback) : List Move → List Entry
  | [] => []
  | move :: rest => move.told p ++ (move.apply p).timeline rest

end Playback

variable {s t : Stage} {p q : Playback} {loop : Loop} {entries part : List Entry}

theorem Playback.timeline_append (p : Playback) (first second : List Playback.Move) :
    p.timeline (first ++ second) = p.timeline first ++ (p.after first).timeline second := by
  induction first generalizing p with
  | nil => rfl
  | cons move rest ih =>
      rw [List.cons_append, Playback.timeline, Playback.timeline, ih, List.append_assoc]
      rfl

theorem Playback.timeline_concat (p : Playback) (moves : List Playback.Move)
    (move : Playback.Move) :
    p.timeline (moves ++ [move]) = p.timeline moves ++ move.told (p.after moves) := by
  rw [p.timeline_append, Playback.timeline, Playback.timeline, List.append_nil]

/-! ## Playback by its account -/

/-- The lines told so far of the pass under way; none if there is no such pass. -/
inductive Playback.Pending (p : Playback) : List Entry → Prop
  | nothing (outside : ∀ loop ∈ p.loops, loop.inPass = false) : p.Pending []
  | begun {loop : Loop} {line : Script} {pass : Pass} {actors : List ActorId} {part : List Entry}
    (loops : p.loops = [loop]) (suspension : loop.suspension = .speaking line pass)
    (told : Pass.Told actors part (.speaking line pass))
    (present : ∀ actor ∈ actors, actor ∈ p.stage.roster.ids) : p.Pending part

/-- What is known of an account that began with the stage `s`. -/
structure Playback.Recorded (s : Stage) (entries : List Entry) (p : Playback) : Prop where
  /-- It is true. -/
  bears : s.Bears entries
  /-- It is complete. -/
  replays : s.replay entries = p.stage
  /-- The passes come one after another, each of them from its beginning to its end. -/
  serial : ∃ (passes : List (List (ActorId × Program))) (part : List Entry),
    entries.filter Entry.isOfPass = passes.flatMap Entry.ofPass ++ part ∧
      passes.length = p.passes ∧ p.Pending part

namespace Playback

theorem Pending.of_same (pending : p.Pending part) (loops : q.loops = p.loops)
    (kept : ∀ actor ∈ p.stage.roster.ids, actor ∈ q.stage.roster.ids) : q.Pending part := by
  cases pending with
  | nothing outside => exact .nothing (loops ▸ outside)
  | begun loops' suspension told present =>
      exact .begun (loops.trans loops') suspension told fun actor mem =>
        kept actor (present actor mem)

theorem Pending.eq_nil (pending : p.Pending part)
    (outside : ∀ loop ∈ p.loops, loop.inPass = false) : part = [] := by
  cases pending with
  | nothing => rfl
  | begun loops suspension =>
      have inside := outside _ (loops ▸ List.mem_cons_self)
      rw [Loop.inPass, suspension] at inside
      cases inside

/-- Lines of others that leave the loops alone. -/
theorem Recorded.foreign (h : p.Recorded s entries) {lines : List Entry}
    (foreign : ∀ entry ∈ lines, entry.isOfPass = false) (bears : p.stage.Bears lines)
    (replays : p.stage.replay lines = q.stage) (passes : q.passes = p.passes)
    (pending : ∀ part, p.Pending part → q.Pending part) : q.Recorded s (entries ++ lines) := by
  obtain ⟨turns, part, serial, counted, under⟩ := h.serial
  have none : lines.filter Entry.isOfPass = [] :=
    List.filter_eq_nil_iff.mpr fun entry mem => Bool.eq_false_iff.mp (foreign entry mem)
  refine ⟨Stage.bears_append.mpr ⟨h.bears, h.replays ▸ bears⟩, ?_, turns, part, ?_, ?_, ?_⟩
  · rw [Stage.replay_append, h.replays, replays]
  · rw [List.filter_append, none, List.append_nil, serial]
  · rw [counted, passes]
  · exact pending part under

theorem completePass_of_within (within : ¬ p.reachesLimit (loop.completed + 1) = true) :
    p.completePass loop =
      (some { loop with
          completed := loop.completed + 1
          due := p.now + Wait.ofMillis p.settings.interval
          suspension := .resting },
        { p with passes := p.passes + 1 }.record (.passCompleted (p.passes + 1))) := by
  rw [completePass]
  exact if_neg within

theorem completePass_of_reached (reached : p.reachesLimit (loop.completed + 1) = true) :
    p.completePass loop =
      ({ p with passes := p.passes + 1 }.record (.passCompleted (p.passes + 1))).stop.2.release
        { loop with completed := loop.completed + 1 } := by
  rw [completePass]
  exact if_pos reached

/-- What is told of the end of a pass is what happens then. -/
theorem toldEnd_finished (p : Playback) (loop : Loop) (breath : Breath) :
    (∀ entry ∈ p.toldEnd loop (.finished breath), entry.isOfPass = false) ∧
    p.stage.Bears (p.toldEnd loop (.finished breath)) ∧
      p.stage.replay (p.toldEnd loop (.finished breath)) = (keep (p.completePass loop)).stage ∧
      (keep (p.completePass loop)).passes = p.passes + 1 ∧
      ∀ loop' ∈ (keep (p.completePass loop)).loops, loop'.inPass = false := by
  let q := ({ p with passes := p.passes + 1 } : Playback).record (.passCompleted (p.passes + 1))
  rw [toldEnd]
  by_cases reached : p.reachesLimit (loop.completed + 1) = true
  · rw [completePass_of_reached reached]
    by_cases running : p.state = .running
    · rw [if_pos ⟨reached, running⟩, stop_of_running (p := q) running]
      exact ⟨by simp [Entry.isOfPass], ⟨trivial, trivial, trivial⟩, rfl, rfl,
        List.forall_mem_nil _⟩
    · rw [if_neg fun both => running both.2, stop_of_idle (p := q) running]
      exact ⟨by simp [Entry.isOfPass], ⟨trivial, trivial⟩, rfl, rfl, List.forall_mem_nil _⟩
  · rw [completePass_of_within reached, if_neg fun both => reached both.1]
    exact ⟨by simp [Entry.isOfPass], ⟨trivial, trivial⟩, rfl, rfl, by simp [keep, Loop.inPass]⟩

/-- A pass that came so far, told and reported. -/
theorem Recorded.carryOn (h : p.Recorded s entries) (loop : Loop)
    {turns : List (List (ActorId × Program))} {actors : List ActorId}
    (serial : entries.filter Entry.isOfPass = turns.flatMap Entry.ofPass ++ part)
    (counted : turns.length = p.passes) {lines : List Entry} {progress : Progress Pass × Stage}
    (made : Pass.Lines p.stage lines progress.2)
    (told : Pass.Told actors (part ++ lines) progress.1)
    (present : ∀ actor ∈ actors, actor ∈ progress.2.roster.ids) (now : Nat) :
    (keep (({ p with now } : Playback).carryOn loop progress)).Recorded s
      (entries ++ (lines ++ p.toldEnd loop progress.1)) := by
  have own := List.filter_eq_self.mpr made.own
  rcases progress with ⟨left | ⟨line, pass⟩, stage⟩
  · obtain ⟨foreign, bears, replays, passes, outside⟩ :=
      toldEnd_finished { p with now, stage } loop left
    have none : (p.toldEnd loop (.finished left)).filter Entry.isOfPass = [] :=
      List.filter_eq_nil_iff.mpr fun entry mem => Bool.eq_false_iff.mp (foreign entry mem)
    generalize whole : part ++ lines = all at told
    cases told with
    | @whole last breath names =>
    refine ⟨?_, ?_, turns ++ [last], [], ?_, ?_, .nothing outside⟩
    · rw [Stage.bears_append, Stage.bears_append, h.replays, made.replays]
      exact ⟨h.bears, made.bears, bears⟩
    · rw [Stage.replay_append, Stage.replay_append, h.replays, made.replays]
      exact replays
    · rw [List.filter_append, List.filter_append, own, none, serial, List.append_nil,
        List.append_nil, List.append_assoc, whole, List.flatMap_append, List.flatMap_singleton]
    · rw [List.length_append, counted]
      exact passes.symm
  · refine ⟨?_, ?_, turns, part ++ lines, ?_, counted, .begun rfl rfl told present⟩
    · rw [toldEnd, List.append_nil, Stage.bears_append, h.replays]
      exact ⟨h.bears, made.bears⟩
    · rw [toldEnd, List.append_nil, Stage.replay_append, h.replays]
      exact made.replays
    · rw [toldEnd, List.append_nil, List.filter_append, own, serial, List.append_assoc]

/-- A loop that goes on. -/
theorem Recorded.run (h : p.Recorded s entries) (loops : p.loops = [loop]) (breath : Breath) :
    (keep (p.run breath loop)).Recorded s (entries ++ p.toldRun breath loop) := by
  obtain ⟨turns, part, serial, counted, pending⟩ := h.serial
  rcases loop with ⟨number, completed, due, suspension⟩
  cases suspension with
  | speaking line pass =>
      cases pending with
      | nothing outside => cases outside _ (loops ▸ List.mem_cons_self)
      | begun loops' suspension told present =>
          cases loops.symm.trans loops'
          cases suspension
          have waiting := fun actor mem => present actor (told.waiting actor mem)
          have lines := pass.lines_resume p.instant breath waiting
          exact h.carryOn _ serial counted lines (told.resume present p.instant breath)
            (fun actor mem => lines.mem_ids (present actor mem)) _
  | armed | resting =>
      have outside : ∀ loop ∈ p.loops, loop.inPass = false := by simp [loops, Loop.inPass]
      obtain rfl := pending.eq_nil outside
      rw [toldRun, Playback.run]
      dsimp only
      by_cases running : p.state = .running
      · have lines := Pass.lines_begin p.instant breath p.stage
        have told := Pass.told_begin p.instant breath p.stage
        rw [if_pos running, if_pos running]
        exact h.carryOn _ serial counted lines told (fun actor mem => lines.mem_ids mem) _
      · rw [if_neg running, if_neg running]
        refine h.foreign (List.forall_mem_nil _) trivial rfl rfl fun part pending => ?_
        obtain rfl := pending.eq_nil outside
        exact .nothing (List.forall_mem_nil _)

/-- While there is one loop at most, only that one is found. -/
theorem loops_of_found (one : p.loops.length ≤ 1) {place : Nat}
    (found : p.loops[place]? = some loop) : p.loops = [loop] ∧ place = 0 := by
  obtain ⟨below, here⟩ := List.getElem?_eq_some_iff.mp found
  obtain rfl : place = 0 := by omega
  obtain ⟨only, loops⟩ := List.length_eq_one_iff.mp (Nat.le_antisymm one below)
  refine ⟨?_, rfl⟩
  simp only [loops, List.getElem_cons_zero] at here
  rw [loops, here]

/-- **What is told of a move goes on with the account.** -/
theorem Recorded.apply (h : p.Recorded s entries) (one : p.loops.length ≤ 1)
    (active : p.loopActive = true ↔ p.loops ≠ []) (move : Move) :
    (move.apply p).Recorded s (entries ++ move.told p) := by
  cases move with
  | play =>
      rw [Move.told, Move.apply]
      by_cases running : p.state = .running
      · rw [if_pos running, play_of_running running]
        exact h.foreign (List.forall_mem_nil _) trivial rfl rfl fun _ pending => pending
      · rw [if_neg running]
        cases alive : p.loopActive with
        | true =>
            rw [play_of_active running alive]
            exact h.foreign (by simp [Entry.isOfPass]) ⟨trivial, trivial⟩ rfl rfl
              fun _ pending => pending.of_same rfl fun _ mem => mem
        | false =>
            have none : p.loops = [] := by simpa [alive] using active
            rw [play_of_inactive running alive]
            refine h.foreign (by simp [Entry.isOfPass]) ⟨trivial, trivial⟩ rfl rfl
              fun part pending => ?_
            obtain rfl := pending.eq_nil (by simp [none])
            exact .nothing (by simp [none, Loop.inPass])
  | stop =>
      rw [Move.told, Move.apply]
      by_cases running : p.state = .running
      · rw [if_pos running, stop_of_running running]
        exact h.foreign (by simp [Entry.isOfPass]) ⟨trivial, trivial⟩ rfl rfl
          fun _ pending => pending.of_same rfl fun _ mem => mem
      · rw [if_neg running, stop_of_idle running]
        exact h.foreign (List.forall_mem_nil _) trivial rfl rfl fun _ pending => pending
  | resume breath place =>
      rw [Move.told, Move.apply]
      cases found : p.loops[place]? with
      | none =>
          rw [resume_of_not_mem found]
          exact h.foreign (List.forall_mem_nil _) trivial rfl rfl fun _ pending => pending
      | some loop =>
          obtain ⟨loops, rfl⟩ := loops_of_found one found
          rw [resume_of_one loops]
          exact h.run loops breath
  | operate operation =>
      exact h.foreign (by simp [Entry.isOfPass, Move.told]) ⟨trivial, trivial⟩ rfl rfl
        fun _ pending => pending.of_same rfl fun _ mem => operation.mem_ids_apply mem
  | elapse time breath =>
      exact h.foreign (List.forall_mem_nil _) trivial rfl rfl
        fun _ pending => pending.of_same rfl fun _ mem => mem

/-- **The account of a playback is true and complete**, and tells its passes one after another. -/
theorem recorded_timeline (settings : PlaySettings) (setup : StageSetup) (moves : List Move) :
    ((Playback.of settings (.start setup)).after moves).Recorded (.start setup)
      ((Playback.of settings (.start setup)).timeline moves) := by
  induction moves using List.reverseRecOn with
  | nil => exact ⟨trivial, rfl, [], [], rfl, rfl, .nothing (List.forall_mem_nil _)⟩
  | append_singleton moves move ih =>
      have oneLoop := (oneLoop_of settings (.start setup)).after moves
      rw [after_concat, timeline_concat]
      exact ih.apply oneLoop.one oneLoop.active move

end Playback

end BlockStage
