import BlockStage.Proofs.Playback.Safety

/-!
# What is left of the limit

The limit counts the passes of a loop, and a loop outlives a stop until its next look at the
state.  A play that comes before that takes up the old loop, with the passes that it has completed.
While the playback then runs, each further pass is one of that loop
(`Playback.passes_of_unplayed`), so it stops by itself after what the limit leaves.
`later_play_gets_full_limit_iff` says when that is all of it.
-/

namespace BlockStage

/-- The passes completed by the loops that are alive. -/
def Playback.spent (p : Playback) : Nat := (p.loops.map (·.completed)).sum

/-- Among these moves no play is accepted: whoever plays finds the playback running. -/
def Playback.Unplayed : Playback → List Playback.Move → Prop
  | _, [] => True
  | p, move :: rest => (move = .play → p.state = .running) ∧ (move.apply p).Unplayed rest

variable {p q : Playback} {settings : PlaySettings} {setup : StageSetup} {o : Observed}

/-! ## One move -/

/-- A play adds a loop that has completed nothing, if it adds one. -/
theorem Playback.spent_play (p : Playback) :
    p.play.2.passes = p.passes ∧ p.play.2.spent = p.spent := by
  by_cases running : p.state = .running
  · rw [Playback.play_of_running running]
    exact ⟨rfl, rfl⟩
  · cases active : p.loopActive with
    | true =>
        rw [Playback.play_of_active running active]
        exact ⟨rfl, rfl⟩
    | false =>
        rw [Playback.play_of_inactive running active]
        refine ⟨rfl, ?_⟩
        rw [Playback.spent, Playback.spent, List.map_append, List.sum_append]
        rfl

/-- While the playback keeps running, its loop completes every pass. -/
theorem Playback.passes_of_running (one : p.loops.length ≤ 1) {move : Playback.Move}
    (unplayed : move = .play → p.state = .running) (running : (move.apply p).state = .running) :
    p.state = .running ∧ (move.apply p).passes + p.spent = p.passes + (move.apply p).spent := by
  cases move with
  | play => exact ⟨unplayed rfl, by rw [Playback.Move.apply, p.spent_play.1, p.spent_play.2]⟩
  | stop =>
      by_cases before : p.state = .running
      · rw [Playback.Move.apply, Playback.stop_of_running before] at running
        cases running
      · rw [Playback.Move.apply, Playback.stop_of_idle before] at running
        exact absurd running before
  | resume breath place =>
      rcases Playback.resume_cases one breath place with
        same | ⟨loop, loops, -, next, q, stretch, resumed⟩
      · rw [Playback.Move.apply, same] at running ⊢
        exact ⟨running, rfl⟩
      · rw [Playback.Move.apply, resumed] at running ⊢
        cases stretch with
        | released outside idle now => cases idle.symm.trans running
        | speaks may plays now due line pass =>
            refine ⟨running, ?_⟩
            rw [Playback.spent, loops]
            rfl
        | rests may plays within now due =>
            refine ⟨running, ?_⟩
            rw [Playback.spent, loops]
            exact Nat.add_right_comm _ _ _
        | stops may plays reached now => cases running
  | operate operation => exact ⟨running, rfl⟩
  | elapse time breath => exact ⟨running, rfl⟩

/-- A loop that stops the playback has come to the limit with its last pass. -/
theorem Observed.Safe.passes_of_stopped (h : o.Safe settings) {limit : Nat}
    (limited : settings.passLimit = some limit) (running : o.playback.state = .running)
    {breath : Breath} {place : Nat} (stopped : (o.playback.resume breath place).state = .idle) :
    (o.playback.resume breath place).passes = o.playback.passes + 1 ∧
      o.playback.spent + 1 = max 1 limit := by
  have limited' : o.playback.settings.passLimit = some limit := h.same ▸ limited
  rcases Playback.resume_cases h.one breath place with
    same | ⟨loop, loops, -, next, q, stretch, resumed⟩
  · rw [same, running] at stopped
    cases stopped
  · rw [resumed] at stopped ⊢
    cases stretch with
    | released outside idle now => cases idle.symm.trans running
    | speaks may plays now due line pass => cases running.symm.trans stopped
    | rests may plays within now due => cases running.symm.trans stopped
    | stops may plays reached now =>
        have least := (Playback.reachesLimit_iff limited').mp reached
        have most := (h.limited limit limited).2 loop (loops ▸ List.mem_cons_self)
        have spent : o.playback.spent = loop.completed := by
          rw [Playback.spent, loops]
          rfl
        refine ⟨rfl, ?_⟩
        omega

/-! ## From a play to the end -/

/-- A playback that runs in the end, though no play was accepted, has run all the time, and its loop
has completed every pass. -/
theorem Observed.Safe.passes_of_unplayed (h : o.Safe settings) {between : List Playback.Move}
    (unplayed : o.playback.Unplayed between)
    (running : (o.playback.after between).state = .running) :
    o.playback.state = .running ∧
      (o.playback.after between).passes + o.playback.spent =
        o.playback.passes + (o.playback.after between).spent := by
  induction between generalizing o with
  | nil => exact ⟨running, rfl⟩
  | cons move rest ih =>
      obtain ⟨accepted, unplayed⟩ := unplayed
      obtain ⟨running', later⟩ := ih (h.step move) unplayed running
      obtain ⟨runningNow, first⟩ := Playback.passes_of_running h.one accepted running'
      refine ⟨runningNow, ?_⟩
      have here : (o.step move).playback = move.apply o.playback := rfl
      have after : o.playback.after (move :: rest) = (move.apply o.playback).after rest := rfl
      rw [here] at later
      rw [after]
      omega

theorem Playback.spent_eq_zero_iff : p.spent = 0 ↔ ∀ loop ∈ p.loops, loop.completed = 0 := by
  rw [Playback.spent, List.sum_eq_zero_iff_forall_eq_nat, List.forall_mem_map]

/-- What is alive has not used up the limit. -/
theorem Observed.Safe.spent_lt (h : o.Safe settings) {limit : Nat}
    (limited : settings.passLimit = some limit) : o.playback.spent < max 1 limit := by
  have one := h.one
  have alive := (h.limited limit limited).2
  rcases loops : o.playback.loops with _ | ⟨loop, _ | ⟨second, rest⟩⟩
  · rw [Playback.spent, loops]
    exact Nat.lt_of_lt_of_le Nat.one_pos (Nat.le_max_left 1 limit)
  · have below := alive loop (loops ▸ List.mem_cons_self)
    rw [Playback.spent, loops]
    exact below
  · rw [loops] at one
    exact absurd one (by simp)

/-- **A play gets the full limit exactly if it does not take up a loop that has used some of it.**
From the play in `p` to the moment when a loop stops the playback by itself, with no other play
accepted in between, as many passes are completed as the limit leaves of those that the loop of
`p` has completed. -/
theorem later_play_gets_full_limit_iff (settings : PlaySettings) (setup : StageSetup) (limit : Nat)
    (limited : settings.passLimit = some limit) (past between : List Playback.Move)
    (reached : p = (Playback.of settings (.start setup)).after past)
    (since : q = p.play.2.after between) (unplayed : p.play.2.Unplayed between)
    (running : q.state = .running) (breath : Breath) (place : Nat)
    (stopped : (q.resume breath place).state = .idle) :
    (q.resume breath place).passes + p.spent = p.passes + max 1 limit ∧
      (p.passes + limit ≤ (q.resume breath place).passes ↔
        ∀ loop ∈ p.loops, loop.completed = 0) := by
  have safe := (Observed.safe_nil settings setup).steps past
  have here := Observed.playback_steps (Observed.after settings setup []) past
  generalize past.foldl Observed.step (Observed.after settings setup []) = o at safe here
  obtain rfl : p = o.playback := reached.trans here.symm
  have played := safe.play
  have later := played.steps between
  have there := Observed.playback_steps (o.step .play) between
  generalize between.foldl Observed.step (o.step .play) = o' at later there
  obtain rfl : q = o'.playback := since.trans there.symm
  obtain ⟨-, passed⟩ := played.passes_of_unplayed unplayed (there ▸ running)
  obtain ⟨passes, spent⟩ := o.playback.spent_play
  have play : (o.step .play).playback = o.playback.play.2 := rfl
  rw [← there, play, passes, spent] at passed
  obtain ⟨last, full⟩ := later.passes_of_stopped limited running stopped
  have below := safe.spent_lt limited
  refine ⟨by omega, ?_⟩
  rw [← Playback.spent_eq_zero_iff]
  constructor
  · omega
  · omega

/-! ### Half of a limit -/

/-- Loops stop after two passes. -/
def twoPasses : PlaySettings := { PlaySettings.standard with passLimit := some 2 }

/-- A stage with nobody on it. -/
def emptySetup : StageSetup := ⟨0, false, 0⟩

/-- The first play gets both passes. -/
theorem first_play_gets_full_limit :
    (Playback.of twoPasses (.start emptySetup)).passes + 2 ≤
      (((Playback.of twoPasses (.start emptySetup)).play.2.after [.resume .full 0]).resume
        .full 0).passes :=
  (later_play_gets_full_limit_iff twoPasses emptySetup 2 rfl [] [.resume .full 0] rfl rfl
    ⟨nofun, trivial⟩ (by decide +kernel) .full 0 (by decide +kernel)).2.mpr nofun

/-- **A later play does not get the full limit.**  It comes after a stop between the first pass
and the second, and the loop that it takes up stops the playback after one more pass. -/
theorem later_play_gets_half_of_limit :
    let p := (Playback.of twoPasses (.start emptySetup)).after [.play, .resume .full 0, .stop]
    p.state = .idle ∧ p.isDraining = true ∧ p.play.2.state = .running ∧
      (p.play.2.resume .full 0).state = .idle ∧
      ¬ p.passes + 2 ≤ (p.play.2.resume .full 0).passes := by
  decide +kernel

end BlockStage
