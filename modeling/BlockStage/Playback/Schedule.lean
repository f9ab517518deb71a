import BlockStage.Playback.Basic

/-!
Playback in time. Whoever works on the stage beside the loops may wait, too: for a while, for
dialogue of its own, or for a loop to end. While it waits, the loops that fall due go on, the
earliest first; while it does not wait, they stand still.
-/

namespace BlockStage

/-! ### How much a loop has still to do -/

/-- The passes that a loop may still begin, when it stops after `limit` passes: at least one
for a loop outside a pass. -/
def Loop.passesLeft (limit : Option Nat) (loop : Loop) : Nat :=
  match limit with
  | none => 0
  | some limit =>
    (match loop.suspension with
      | .speaking _ _ => 0
      | .armed | .resting => 1) + (max limit 1 - 1 - loop.completed)

/-- The turns left in the pass under way. -/
def Suspension.turnsLeft : Suspension → Nat
  | .speaking _ pass => pass.waiting.length + 1
  | .armed | .resting => 0

/-- The effort left in the turn under way. -/
def Suspension.effortLeft : Suspension → Nat
  | .speaking _ pass => pass.turn.effort
  | .armed | .resting => 0

/-- `a` comes before `b` if some component is smaller and those before it are no larger. -/
theorem lex_of {a b c a' b' c' : Nat}
    (h : a' < a ∨ a' = a ∧ (b' < b ∨ b' = b ∧ c' < c)) :
    Prod.Lex (· < ·) (Prod.Lex (· < ·) (· < ·)) (a', b', c') (a, b, c) := by
  rcases h with h | ⟨rfl, h | ⟨rfl, h⟩⟩
  · exact .left _ _ h
  · exact .right _ (.left _ _ h)
  · exact .right _ (.right _ h)

namespace Playback

/-- Whether the loops go on for ever if nobody stops them. -/
def endless (p : Playback) : Bool := p.settings.passLimit.isNone && p.state = .running

/-- A loop that rests after a pass has completed one more, and its limit is not reached. -/
theorem rests_of_completePass {p next : Playback} {loop rest : Loop}
    (h : p.completePass loop = (some rest, next)) :
    rest.suspension = .resting ∧ rest.completed = loop.completed + 1 ∧
      ∀ limit, p.settings.passLimit = some limit → loop.completed + 1 < limit := by
  unfold completePass at h
  dsimp only at h
  split at h
  · simp [release] at h
  · next within =>
    simp only [Prod.mk.injEq, Option.some.injEq] at h
    obtain ⟨rfl, _⟩ := h
    refine ⟨rfl, rfl, fun limit some_limit => ?_⟩
    simpa [reachesLimit, some_limit] using within

/-- A loop that goes on after it was run has less to do than before. -/
theorem less_left_run {p next : Playback} {breath : Breath} {loop rest : Loop}
    (finite : p.endless = false) (h : p.run breath loop = (some rest, next)) :
    rest.passesLeft p.settings.passLimit < loop.passesLeft p.settings.passLimit ∨
      rest.passesLeft p.settings.passLimit = loop.passesLeft p.settings.passLimit ∧
        (rest.suspension.turnsLeft < loop.suspension.turnsLeft ∨
          rest.suspension.turnsLeft = loop.suspension.turnsLeft ∧
            rest.suspension.effortLeft < loop.suspension.effortLeft) := by
  rcases loop with ⟨number, completed, due, suspension⟩
  cases suspension with
  | speaking line pass =>
    simp only [run] at h
    generalize resumed : pass.resume _ _ _ = progress at h
    rcases progress with ⟨_ | ⟨line', pass'⟩, stage⟩
    · obtain ⟨resting, counted, within⟩ := rests_of_completePass h
      right
      constructor
      · unfold Loop.passesLeft
        rw [resting, counted]
        cases limit : p.settings.passLimit with
        | none => rfl
        | some limit' =>
          have := within limit' limit
          dsimp only at this ⊢
          omega
      · left
        simp [resting, Suspension.turnsLeft]
    · simp only [carryOn, Prod.mk.injEq, Option.some.injEq] at h
      obtain ⟨rfl, _⟩ := h
      right
      refine ⟨rfl, ?_⟩
      rcases Pass.less_left resumed with fewer | ⟨same, less⟩
      · left
        simpa [Suspension.turnsLeft] using fewer
      · right
        exact ⟨by simp [Suspension.turnsLeft, same], less⟩
  | armed | resting =>
    simp only [run] at h
    split at h
    · next running =>
      obtain ⟨limit, some_limit⟩ : ∃ limit, p.settings.passLimit = some limit := by
        cases unlimited : p.settings.passLimit with
        | none => simp [endless, unlimited, running] at finite
        | some limit => exact ⟨limit, rfl⟩
      left
      generalize Pass.start _ _ _ _ = progress at h
      rcases progress with ⟨_ | ⟨line, pass⟩, stage⟩
      · obtain ⟨resting, counted, within⟩ := rests_of_completePass h
        have := within limit some_limit
        simp only [Loop.passesLeft, some_limit, resting, counted] at this ⊢
        omega
      · simp only [carryOn, Prod.mk.injEq, Option.some.injEq] at h
        obtain ⟨rfl, _⟩ := h
        simp only [Loop.passesLeft, some_limit]
        omega
    · simp [release] at h

/-- Lets all loops run to their ends while nobody else does anything. Loops that would go on for
ever stay where they are. -/
def finish (p : Playback) : Playback :=
  if _stays : p.loops = [] ∨ p.endless then p else (p.resume .endless 0).finish
termination_by (p.loops.length, (p.loops.head?.map (·.passesLeft p.settings.passLimit)).getD 0,
  (p.loops.head?.map (·.suspension.turnsLeft)).getD 0,
  (p.loops.head?.map (·.suspension.effortLeft)).getD 0)
decreasing_by
  rw [not_or, Bool.not_eq_true] at _stays
  obtain ⟨present, finite⟩ := _stays
  obtain ⟨loop, rest, present⟩ := List.exists_cons_of_ne_nil present
  have first : p.loops[0]? = some loop := by simp [present]
  unfold resume
  simp only [first]
  split
  · next goesOn =>
    have less := less_left_run finite goesOn
    have same := loops_run p .endless loop
    have settings := settings_run p .endless loop
    rw [goesOn] at same settings
    dsimp only at same settings
    simp only [same, settings, present, List.set_cons_zero, List.length_cons, List.head?_cons,
      Option.map_some, Option.getD_some]
    exact .right _ (lex_of less)
  · next ends =>
    have same := loops_run p .endless loop
    rw [ends] at same
    dsimp only at same
    simp only [same, present, List.eraseIdx_cons_zero, List.length_cons]
    exact .left _ _ (Nat.lt_succ_self _)

/-! ### Waiting -/

/-- The place of the loop that falls due first, with the time when it does. -/
def nextDue? (p : Playback) : Option (Nat × Nat) :=
  p.loops.zipIdx.foldl (fun first (loop, i) =>
    match first with
    | some (j, due) => if loop.due < due then some (i, loop.due) else some (j, due)
    | none => some (i, loop.due)) none

/-- Lets loops go on as long as one is due by `time`, at most `fuel` times. -/
def settle (time : Nat) : (fuel : Nat) → Playback → Playback
  | 0, p => p
  | fuel + 1, p =>
    match p.nextDue? with
    | some (i, due) => if due ≤ time then settle time fuel (p.resume .endless i) else p
    | none => p

/-- Waits until `time`. A loop that goes on either moves its due time by a millisecond at least
within two resumptions or, without rest and dialogue, uses up a pass of its limit; only the
first resumption may find it out of breath. -/
def waitUntil (p : Playback) (time : Nat) : Playback :=
  let fuel := 2 * (time + 1 - p.now) + p.settings.passLimit.getD 0 + 2
  let p := settle time fuel p
  { p with now := max p.now time, breath := .afterWait }

/-- Lets the loop that is due go on while others are out of breath. -/
def giveTurn (p : Playback) : Playback :=
  match p.nextDue? with
  | some (i, due) =>
    if due ≤ p.now then p.resume ((p.loops[i]?.map (·.suspension.breath)).getD .full) i else p
  | none => p

/-- Waits for no time. Nobody else goes on before whoever waits is out of breath. -/
def pause (p : Playback) : Playback :=
  match p.breath.spend true with
  | some breath => { p with breath }
  | none => { p.giveTurn with breath := .afterWait }

/-- Waits for so many milliseconds. -/
def wait (p : Playback) (millis : Nat) : Playback :=
  if millis = 0 then p.pause else p.waitUntil (p.now + millis)

/-- Waits for a loop to end and gives the number of passes it completed, none for a loop that
never ends. -/
def await (p : Playback) (number : Nat) : Option Nat × Playback :=
  match p.ended.lookup number with
  | some completed => (some completed, p.pause)
  | none =>
    let p := { p.finish with breath := .afterWait }
    (p.ended.lookup number, p)

/-! ### Running beside the loops -/

end Playback

/-- The turns left of a pass that came so far. -/
def Progress.turnsLeft : Progress Pass → Nat
  | .finished _ => 0
  | .speaking _ pass => pass.waiting.length + 1

/-- The effort left in the turn under way. -/
def Progress.effortLeft : Progress Pass → Nat
  | .finished _ => 0
  | .speaking _ pass => pass.turn.effort

/-- Taking a pass up again leaves fewer turns, or less of the turn under way. -/
theorem Pass.less_left_resume (instant : Float → Bool) (breath : Breath) (pass : Pass)
    (stage : Stage) :
    Prod.Lex (· < ·) (· < ·)
      ((pass.resume instant breath stage).1.turnsLeft,
        (pass.resume instant breath stage).1.effortLeft)
      (pass.waiting.length + 1, pass.turn.effort) := by
  generalize resumed : pass.resume instant breath stage = progress
  rcases progress with ⟨_ | ⟨line, rest⟩, stage⟩
  · exact .left _ _ (Nat.succ_pos _)
  · rcases less_left resumed with fewer | ⟨same, less⟩
    · exact .left _ _ (Nat.succ_lt_succ fewer)
    · simp only [Progress.turnsLeft, same]
      exact .right _ less

namespace Playback

/-- Brings a pass that came so far to its end, waiting out dialogue on a time scale of its own.
Dialogue that takes no time stops it only when it is out of breath. -/
def follow (scale : Float) (p : Playback) (progress : Progress Pass × Stage) : Playback :=
  match progress with
  | (.finished breath, stage) => { p with stage, breath }
  | (.speaking line pass, stage) =>
    let p := { p with stage, breath := .left 0 }.wait (Wait.dialogue scale line.speakingTime)
    p.follow scale
      (pass.resume (fun seconds => Wait.dialogue scale seconds = 0) p.breath p.stage)
termination_by (progress.1.turnsLeft, progress.1.effortLeft)
decreasing_by exact Pass.less_left_resume _ _ pass _

/-- Lets an actor run a list of scripts to its end. -/
def runProgram (p : Playback) (actor : ActorId) (program : List Script) (scale : Float) :
    Playback :=
  p.follow scale (Pass.proceed (fun seconds => Wait.dialogue scale seconds = 0) p.breath
    ⟨.of actor program, []⟩ p.stage)

/-- Makes one pass, to its end. -/
def runPass (p : Playback) : Playback :=
  p.follow p.settings.scale (Pass.start p.instant p.breath p.stage.roster.ids p.stage)

end Playback

end BlockStage
