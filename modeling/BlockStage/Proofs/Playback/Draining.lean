import BlockStage.Proofs.Playback.Limit

/-!
# Draining

A playback says that it drains when it has been stopped while a loop is there.  That is right while
the loop is within a pass, but a loop is there as well before its first pass and while it rests
between two: then the playback says that it drains with no pass in flight
(`draining_tells_of_pass_iff`).  All that is left to such a loop is to end, with the stage as it is
(`Playback.resume_of_outside`).
-/

namespace BlockStage

variable {settings : PlaySettings} {o : Observed} {p : Playback} {loop : Loop}

/-! ## Passes in flight -/

/-- Whether a pass is in flight: the last that was seen of passes is that one began. -/
def Observed.InFlight (o : Observed) : Prop :=
  ∃ loop state, o.signals.getLast? = some (.begins loop state)

/-- After a signal that comes in turn a pass is under way if the signal was its beginning. -/
theorem PassSignal.isSome_next {signal : PassSignal} {before after : Option Nat}
    (turn : PassSignal.next before signal = some after) :
    after.isSome = true ↔ ∃ loop state, signal = .begins loop state := by
  cases signal with
  | begins loop state =>
      cases before with
      | none =>
          cases turn
          exact iff_of_true rfl ⟨loop, state, rfl⟩
      | some current => cases turn
  | ends loop =>
      cases before with
      | none => cases turn
      | some current =>
          rw [PassSignal.next] at turn
          split at turn <;> cases turn
          refine iff_of_false Bool.false_ne_true fun begins => ?_
          obtain ⟨loop, state, same⟩ := begins
          cases same

theorem PassSignal.isSome_foldlM {signals : List PassSignal} {after : Option Nat}
    (serial : signals.foldlM PassSignal.next none = some after) :
    after.isSome = true ↔ ∃ loop state, signals.getLast? = some (.begins loop state) := by
  rcases signals.eq_nil_or_concat' with rfl | ⟨earlier, last, rfl⟩
  · cases serial
    refine iff_of_false Bool.false_ne_true fun begins => ?_
    obtain ⟨loop, state, same⟩ := begins
    cases same
  · rw [List.foldlM_append] at serial
    obtain ⟨before, -, turn⟩ := Option.bind_eq_some_iff.mp serial
    rw [List.foldlM_cons] at turn
    have turn : PassSignal.next before last = some after := by simpa using turn
    rw [List.getLast?_concat, PassSignal.isSome_next turn]
    simp only [Option.some_inj]

/-- **A pass is in flight exactly while a loop is suspended within it.** -/
theorem Observed.Safe.inFlight_iff (h : o.Safe settings) :
    o.InFlight ↔ ∃ loop ∈ o.playback.loops, loop.inPass = true := by
  rw [Observed.InFlight, ← PassSignal.isSome_foldlM h.serial, Playback.underWay,
    Option.isSome_map, List.find?_isSome]

/-! ## Loops outside a pass -/

theorem Playback.OneLoop.loops_cases (h : p.OneLoop) : p.loops = [] ∨ ∃ loop, p.loops = [loop] := by
  have one := h.one
  rcases loops : p.loops with _ | ⟨loop, _ | ⟨second, rest⟩⟩
  · exact .inl rfl
  · exact .inr ⟨loop, rfl⟩
  · rw [loops] at one
    exact absurd one (by simp)

theorem Playback.OneLoop.isDraining_iff (h : p.OneLoop) :
    p.isDraining = true ↔ p.state = .idle ∧ p.loops ≠ [] := by
  rw [Playback.isDraining, Bool.and_eq_true, h.active, decide_eq_true_iff, and_comm]

/-- **Draining is being stopped within a pass, unless it is being stopped outside.** -/
theorem Playback.OneLoop.isDraining_iff_inPass_iff (h : p.OneLoop) :
    (p.isDraining = true ↔ p.state = .idle ∧ ∃ loop ∈ p.loops, loop.inPass = true) ↔
      ¬ (p.state = .idle ∧ ∃ loop ∈ p.loops, loop.inPass = false) := by
  rw [h.isDraining_iff]
  rcases h.loops_cases with loops | ⟨loop, loops⟩
  · simp [loops]
  · cases inPass : loop.inPass <;> simp [loops, inPass]

/-- **A loop outside a pass ends when it goes on in a stopped playback**, and does nothing else. -/
theorem Playback.resume_of_outside (loops : p.loops = [loop]) (outside : loop.inPass = false)
    (idle : p.state = .idle) (breath : Breath) :
    ∃ now, p.resume breath 0 = { p with
      now, loopActive := false, loops := []
      ended := p.ended ++ [(loop.number, loop.completed)] } := by
  have stretch := p.stretch_run breath loop
  rw [Playback.resume_of_one loops]
  generalize p.run breath loop = ran at stretch ⊢
  rcases ran with ⟨next, q⟩
  dsimp only at stretch
  have stopped : ¬ (loop.inPass = true ∨ p.state = .running) := by
    intro may
    rcases may with inside | running
    · exact Bool.false_ne_true (outside.symm.trans inside)
    · cases idle.symm.trans running
  cases stretch with
  | released _ _ now => exact ⟨now, rfl⟩
  | speaks may | rests may | stops may => exact absurd may stopped

/-- So nothing is seen of a pass then, and the playback drains no more. -/
theorem Observed.step_of_outside (loops : o.playback.loops = [loop])
    (outside : loop.inPass = false) (idle : o.playback.state = .idle) (breath : Breath) :
    (o.step (.resume breath 0)).playback.isDraining = false ∧
      (o.step (.resume breath 0)).signals = o.signals ∧
      (o.step (.resume breath 0)).playback.stage = o.playback.stage := by
  obtain ⟨now, ended⟩ := Playback.resume_of_outside loops outside idle breath
  have silent : PassSignal.between o.playback (o.playback.resume breath 0) = [] := by
    rw [ended]
    exact PassSignal.between_of_released loops rfl rfl
  refine ⟨?_, ?_, ?_⟩
  · show (o.playback.resume breath 0).isDraining = false
    rw [ended]
    rfl
  · show o.signals ++ PassSignal.between o.playback (o.playback.resume breath 0) = o.signals
    rw [silent, List.append_nil]
  · show (o.playback.resume breath 0).stage = o.playback.stage
    rw [ended]

/-- **What it means that a playback drains.**  It has been stopped and a loop is there, be it within
a pass or outside.  So a stopped playback with a pass in flight drains; but draining tells of a pass
in flight only unless the playback is stopped with its loop outside a pass, and that loop begins no
pass when it goes on, but ends. -/
theorem draining_tells_of_pass_iff (settings : PlaySettings) (setup : StageSetup)
    (moves : List Playback.Move) :
    let o := Observed.after settings setup moves
    (o.playback.isDraining = true ↔ o.playback.state = .idle ∧ o.playback.loops ≠ []) ∧
    (o.playback.state = .idle → o.InFlight → o.playback.isDraining = true) ∧
    ((o.playback.isDraining = true ↔ o.playback.state = .idle ∧ o.InFlight) ↔
      ¬ (o.playback.state = .idle ∧ ∃ loop ∈ o.playback.loops, loop.inPass = false)) ∧
    (o.playback.isDraining = true → ¬ o.InFlight → ∀ breath,
      (o.step (.resume breath 0)).playback.isDraining = false ∧
      (o.step (.resume breath 0)).signals = o.signals ∧
      (o.step (.resume breath 0)).playback.stage = o.playback.stage) := by
  intro o
  have safe : o.Safe settings := (Observed.safe_nil settings setup).steps moves
  have alone : o.playback.OneLoop := ⟨safe.one, safe.active⟩
  have flies := safe.inFlight_iff
  refine ⟨alone.isDraining_iff, fun idle inFlight => ?_, ?_, fun draining grounded breath => ?_⟩
  · obtain ⟨loop, mem, -⟩ := flies.mp inFlight
    exact alone.isDraining_iff.mpr ⟨idle, List.ne_nil_of_mem mem⟩
  · rw [flies]
    exact alone.isDraining_iff_inPass_iff
  · obtain ⟨idle, alive⟩ := alone.isDraining_iff.mp draining
    obtain ⟨loop, loops⟩ := alone.loops_cases.resolve_left alive
    have outside : loop.inPass = false := by
      refine Bool.eq_false_iff.mpr fun inside => grounded (flies.mpr ⟨loop, ?_, inside⟩)
      rw [loops]
      exact List.mem_singleton_self loop
    exact o.step_of_outside loops outside idle breath

/-- **A stopped playback drains without a pass in flight** when the stop finds its loop before the
first pass, and when it finds it between two. -/
theorem draining_outside_passes :
    (Observed.after .standard emptySetup [.play, .stop]).playback.isDraining = true ∧
    ¬ (Observed.after .standard emptySetup [.play, .stop]).InFlight ∧
    (Observed.after .standard emptySetup [.play, .resume .full 0, .stop]).playback.isDraining =
      true ∧
    ¬ (Observed.after .standard emptySetup [.play, .resume .full 0, .stop]).InFlight := by
  have early : (Observed.after .standard emptySetup [.play, .stop]).signals.getLast? = none := by
    decide +kernel
  have late : (Observed.after .standard emptySetup
      [.play, .resume .full 0, .stop]).signals.getLast? = some (.ends 0) := by
    decide +kernel
  refine ⟨by decide +kernel, ?_, by decide +kernel, ?_⟩
  · intro flies
    obtain ⟨loop, state, begins⟩ := flies
    cases early.symm.trans begins
  · intro flies
    obtain ⟨loop, state, begins⟩ := flies
    cases late.symm.trans begins

end BlockStage
