import BlockStage.Proofs.Playback.Moves
import BlockStage.Proofs.Stage.Records
import Mathlib.Algebra.GroupWithZero.Nat
import Mathlib.Data.List.Range

/-!
# What a playback promises

Whoever looks at a playback from outside sees its state after every move; when a pass begins or
ends can be told from two states in a row (`PassSignal.between`).  `Observed` keeps these signals
beside the playback, and what was taken out of its log.

`playback_is_safe` collects what holds after any moves in any order: one loop at most, and one as
long as the playback is running; passes one after another, begun only while it is running, each
counted once, by its loop and in all, and each reported under its number; and no loop that
completes more passes than it is allowed.
-/

namespace BlockStage

/-! ## Signals -/

/-- A pass of a loop begins, while the playback is in some state, or ends. -/
inductive PassSignal where
  | begins (loop : Nat) (state : PlayState)
  | ends (loop : Nat)
  deriving DecidableEq, Repr

/-- What can be told from two states in a row: a pass has ended if there are more of them, and one
has begun if its loop was outside a pass and is within one now, or has ended one. -/
def PassSignal.between (p q : Playback) : List PassSignal :=
  p.loops.flatMap fun loop =>
    (if loop.inPass = false ∧
        (p.passes < q.passes ∨ ∃ l ∈ q.loops, l.number = loop.number ∧ l.inPass = true) then
      [.begins loop.number p.state] else []) ++
    if p.passes < q.passes then [.ends loop.number] else []

/-- The pass under way, by its loop, after one more signal; nothing if it comes out of turn. -/
def PassSignal.next : Option Nat → PassSignal → Option (Option Nat)
  | none, .begins loop _ => some (some loop)
  | some current, .ends loop => if current = loop then some none else none
  | _, _ => none

/-- The loop that is within a pass. -/
def Playback.underWay (p : Playback) : Option Nat :=
  (p.loops.find? (·.inPass)).map (·.number)

/-- A playback, and what was seen of it so far. -/
structure Observed where
  playback : Playback
  signals : List PassSignal
  /-- What was taken out of the event log. -/
  taken : List Event

/-- What is seen after one more move. -/
def Observed.step (o : Observed) (move : Playback.Move) : Observed where
  playback := move.apply o.playback
  signals := o.signals ++ PassSignal.between o.playback (move.apply o.playback)
  taken :=
    match move with
    | .operate .take => o.taken ++ o.playback.stage.log.entries
    | _ => o.taken

/-- What is seen of a stage and its playback from their beginning on. -/
def Observed.after (settings : PlaySettings) (setup : StageSetup) (moves : List Playback.Move) :
    Observed :=
  moves.foldl Observed.step ⟨.of settings (.start setup), [], []⟩

/-- Nothing is disturbed by looking. -/
theorem Observed.playback_steps (o : Observed) (moves : List Playback.Move) :
    (moves.foldl Observed.step o).playback = o.playback.after moves := by
  induction moves generalizing o with
  | nil => rfl
  | cons move rest ih => exact ih (o.step move)

/-- What is promised. -/
structure Observed.Safe (settings : PlaySettings) (o : Observed) : Prop where
  same : o.playback.settings = settings
  /-- At most one loop is alive. -/
  one : o.playback.loops.length ≤ 1
  /-- The flag tells whether one is. -/
  active : o.playback.loopActive = true ↔ o.playback.loops ≠ []
  /-- No accepted play is left without a loop. -/
  served : o.playback.state = .running → o.playback.loops ≠ []
  /-- Loops end one after another, each of them once. -/
  numbers : o.playback.ended.map (·.1) ++ o.playback.loops.map (·.number) =
    List.range o.playback.started
  /-- A pass begins only when the one before it has ended, and ends in its own loop. -/
  serial : o.signals.foldlM PassSignal.next none = some o.playback.underWay
  /-- A pass begins only while the playback is running. -/
  timely : ∀ loop state, .begins loop state ∈ o.signals → state = .running
  /-- All passes are those of all loops. -/
  total : o.playback.passes =
    (o.playback.ended.map (·.2)).sum + (o.playback.loops.map (·.completed)).sum
  /-- A loop that has ended gives the number of its own passes. -/
  own : ∀ number completed, (number, completed) ∈ o.playback.ended →
    o.signals.count (.ends number) = completed
  /-- So does a loop that is alive. -/
  ownAlive : ∀ loop ∈ o.playback.loops, o.signals.count (.ends loop.number) = loop.completed
  ownNone : ∀ number, o.playback.started ≤ number → o.signals.count (.ends number) = 0
  /-- The log reports the passes by their numbers. -/
  reported : o.playback.stage.log.Reports o.taken o.playback.passes
  /-- No loop completes more passes than it is allowed, which is one at least. -/
  limited : ∀ limit, settings.passLimit = some limit →
    (∀ entry ∈ o.playback.ended, entry.2 ≤ max 1 limit) ∧
      ∀ loop ∈ o.playback.loops, loop.completed < max 1 limit

variable {settings : PlaySettings} {o : Observed} {p q : Playback} {loop : Loop} {state : PlayState}

/-! ## Signals of one loop -/

/-- What is seen when a loop goes on within a pass: that it begins, unless it has before. -/
def Loop.entering (loop : Loop) (state : PlayState) : List PassSignal :=
  if loop.inPass then [] else [.begins loop.number state]

/-- What is seen when it comes to the end of a pass. -/
def Loop.ending (loop : Loop) (state : PlayState) : List PassSignal :=
  loop.entering state ++ [.ends loop.number]

theorem Loop.count_entering (loop : Loop) (state : PlayState) (number : Nat) :
    (loop.entering state).count (.ends number) = 0 := by
  rw [Loop.entering]
  split <;> simp

theorem Loop.count_ending (signals : List PassSignal) (loop : Loop) (state : PlayState)
    (number : Nat) :
    (signals ++ loop.ending state).count (.ends number) =
      signals.count (.ends number) + if loop.number = number then 1 else 0 := by
  rw [List.count_append, Loop.ending, List.count_append, Loop.count_entering, Nat.zero_add]
  simp [List.count_singleton]

theorem Loop.state_of_mem_entering {number : Nat} {seen : PlayState}
    (may : loop.inPass = true ∨ state = .running)
    (mem : .begins number seen ∈ loop.entering state) : seen = .running := by
  rw [Loop.entering] at mem
  split at mem
  · cases mem
  · next outside =>
    cases List.mem_singleton.mp mem
    exact may.resolve_left outside

theorem Playback.underWay_of_none (loops : p.loops = []) : p.underWay = none := by
  rw [Playback.underWay, loops]
  rfl

theorem Playback.underWay_of_one (loops : p.loops = [loop]) :
    p.underWay = if loop.inPass then some loop.number else none := by
  rw [Playback.underWay, loops]
  cases inPass : loop.inPass <;> simp [inPass]

theorem Loop.foldlM_entering (loop : Loop) (state : PlayState) :
    (loop.entering state).foldlM PassSignal.next
      (if loop.inPass then some loop.number else none) = some (some loop.number) := by
  rw [Loop.entering]
  split <;> rfl

theorem PassSignal.between_of_same (one : p.loops.length ≤ 1) (loops : q.loops = p.loops)
    (passes : q.passes = p.passes) : PassSignal.between p q = [] := by
  rw [PassSignal.between, loops, passes]
  rcases alive : p.loops with _ | ⟨loop, _ | ⟨second, rest⟩⟩
  · rfl
  · simp
  · rw [alive] at one
    simp at one

theorem PassSignal.append_between_of_same (signals : List PassSignal) (one : p.loops.length ≤ 1)
    (loops : q.loops = p.loops) (passes : q.passes = p.passes) :
    signals ++ PassSignal.between p q = signals := by
  rw [PassSignal.between_of_same one loops passes, List.append_nil]

theorem PassSignal.between_of_released (loops : p.loops = [loop]) (none : q.loops = [])
    (passes : q.passes = p.passes) : PassSignal.between p q = [] := by
  simp [PassSignal.between, loops, none, passes]

theorem PassSignal.between_of_speaks {next : Loop} (loops : p.loops = [loop])
    (alive : q.loops = [next]) (number : next.number = loop.number) (inPass : next.inPass = true)
    (passes : q.passes = p.passes) : PassSignal.between p q = loop.entering p.state := by
  cases before : loop.inPass <;>
    simp [PassSignal.between, Loop.entering, loops, alive, number, inPass, passes, before]

theorem PassSignal.between_of_completes (loops : p.loops = [loop])
    (passes : q.passes = p.passes + 1) :
    PassSignal.between p q = loop.ending p.state := by
  cases before : loop.inPass <;>
    simp [PassSignal.between, Loop.ending, Loop.entering, loops, passes, before]

/-! ## One move -/

/-- The promises are about loops, counts and signals, and about the log. -/
theorem Observed.Safe.congr (h : o.Safe settings) {next : Observed}
    (same : next.playback.settings = o.playback.settings)
    (loops : next.playback.loops = o.playback.loops)
    (active : next.playback.loopActive = o.playback.loopActive)
    (started : next.playback.started = o.playback.started)
    (ended : next.playback.ended = o.playback.ended)
    (passes : next.playback.passes = o.playback.passes)
    (signals : next.signals = o.signals)
    (served : next.playback.state = .running → o.playback.loops ≠ [])
    (reported : next.playback.stage.log.Reports next.taken o.playback.passes) :
    next.Safe settings where
  same := same.trans h.same
  one := by rw [loops]; exact h.one
  active := by rw [loops, active]; exact h.active
  served := by rw [loops]; exact served
  numbers := by rw [loops, started, ended]; exact h.numbers
  serial := by rw [signals, Playback.underWay, loops]; exact h.serial
  timely := by rw [signals]; exact h.timely
  total := by rw [loops, ended, passes]; exact h.total
  own := by rw [signals, ended]; exact h.own
  ownAlive := by rw [signals, loops]; exact h.ownAlive
  ownNone := by rw [signals, started]; exact h.ownNone
  reported := by rw [passes]; exact reported
  limited := by rw [loops, ended]; exact h.limited

/-- What is seen once the playback has come to `q`, with nothing taken out of its log. -/
def Observed.goOn (o : Observed) (q : Playback) : Observed where
  playback := q
  signals := o.signals ++ PassSignal.between o.playback q
  taken := o.taken

theorem Observed.step_of_apply (o : Observed) (move : Playback.Move)
    (keeps : ∀ operation, move ≠ .operate operation) (applied : move.apply o.playback = q) :
    o.step move = o.goOn q := by
  subst applied
  cases move with
  | operate operation => exact absurd rfl (keeps operation)
  | play | stop | resume | elapse => rfl

/-- A new loop has completed nothing. -/
theorem Observed.Safe.play_anew (h : o.Safe settings) (idle : ¬ o.playback.state = .running)
    (inactive : o.playback.loopActive = false) : (o.step .play).Safe settings := by
  have none : o.playback.loops = [] := by
    by_contra alive
    exact absurd (inactive ▸ h.active.mpr alive) Bool.false_ne_true
  have applied := congrArg Prod.snd (Playback.play_of_inactive idle inactive)
  have numbers := h.numbers
  have total := h.total
  have serial := h.serial
  rw [Playback.underWay_of_none none] at serial
  rw [none, List.map_nil, List.append_nil] at numbers
  rw [none, List.map_nil, List.sum_nil, Nat.add_zero] at total
  rw [o.step_of_apply .play nofun applied, Observed.goOn, PassSignal.between, none,
    List.flatMap_nil, List.append_nil, List.nil_append]
  exact
    { same := h.same
      one := Nat.le_refl 1
      active := by simp
      served := by simp
      numbers := by
        show o.playback.ended.map (·.1) ++ [o.playback.started] =
          List.range (o.playback.started + 1)
        rw [numbers, List.range_succ]
      serial := serial
      timely := h.timely
      total := total
      own := h.own
      ownAlive := by
        intro loop mem
        rw [List.mem_singleton.mp mem]
        exact h.ownNone _ (Nat.le_refl _)
      ownNone := fun number le => h.ownNone number (Nat.le_of_succ_le le)
      reported := h.reported.record rfl
      limited := by
        intro limit some
        refine ⟨(h.limited limit some).1, fun loop mem => ?_⟩
        rw [List.mem_singleton.mp mem]
        exact Nat.lt_of_lt_of_le Nat.one_pos (Nat.le_max_left 1 limit) }

theorem Observed.Safe.play (h : o.Safe settings) : (o.step .play).Safe settings := by
  by_cases running : o.playback.state = .running
  · rw [o.step_of_apply .play nofun (congrArg Prod.snd (Playback.play_of_running running))]
    exact h.congr rfl rfl rfl rfl rfl rfl (PassSignal.append_between_of_same _ h.one rfl rfl)
      h.served h.reported
  · cases active : o.playback.loopActive with
    | true =>
        have applied := congrArg Prod.snd (Playback.play_of_active running active)
        rw [o.step_of_apply .play nofun applied]
        exact h.congr rfl rfl rfl rfl rfl rfl (PassSignal.append_between_of_same _ h.one rfl rfl)
          (fun _ => h.active.mp active) (h.reported.record rfl)
    | false => exact h.play_anew running active

theorem Observed.Safe.stop (h : o.Safe settings) : (o.step .stop).Safe settings := by
  by_cases running : o.playback.state = .running
  · rw [o.step_of_apply .stop nofun (congrArg Prod.snd (Playback.stop_of_running running))]
    exact h.congr rfl rfl rfl rfl rfl rfl (PassSignal.append_between_of_same _ h.one rfl rfl)
      (fun running => nomatch running) (h.reported.record rfl)
  · rw [o.step_of_apply .stop nofun (congrArg Prod.snd (Playback.stop_of_idle running))]
    exact h.congr rfl rfl rfl rfl rfl rfl (PassSignal.append_between_of_same _ h.one rfl rfl)
      h.served h.reported

/-- Nobody reports a pass by working on the stage. -/
theorem Observed.Safe.operate (h : o.Safe settings) (operation : Operation) :
    (o.step (.operate operation)).Safe settings := by
  refine h.congr rfl rfl rfl rfl rfl rfl (PassSignal.append_between_of_same _ h.one rfl rfl)
    h.served ?_
  by_cases takes : operation = .take
  · subst takes
    exact h.reported.take
  · have kept : (o.step (.operate operation)).taken = o.taken := by
      cases operation <;> first | rfl | exact absurd rfl takes
    rw [kept]
    exact Operation.log_closed (EventLog.closed_reports _ _) takes h.reported

theorem Observed.Safe.elapse (h : o.Safe settings) (time : Nat) (breath : Breath) :
    (o.step (.elapse time breath)).Safe settings :=
  h.congr rfl rfl rfl rfl rfl rfl (PassSignal.append_between_of_same _ h.one rfl rfl) h.served
    h.reported

/-! ### A loop goes on -/

/-- The loop that is alive has been started. -/
theorem Observed.Safe.number_lt (h : o.Safe settings) (loops : o.playback.loops = [loop]) :
    loop.number < o.playback.started := by
  have numbers := h.numbers
  rw [loops] at numbers
  have mem : loop.number ∈ o.playback.ended.map (·.1) ++ [loop].map (·.number) :=
    List.mem_append_right _ List.mem_cons_self
  rw [numbers] at mem
  exact List.mem_range.mp mem

/-- It is none of those that have ended. -/
theorem Observed.Safe.number_ne (h : o.Safe settings) (loops : o.playback.loops = [loop])
    {number completed : Nat} (mem : (number, completed) ∈ o.playback.ended) :
    number ≠ loop.number := by
  have numbers := h.numbers
  rw [loops] at numbers
  have nodup : (o.playback.ended.map (·.1) ++ [loop].map (·.number)).Nodup :=
    numbers ▸ List.nodup_range
  rintro rfl
  exact List.disjoint_of_nodup_append nodup (List.mem_map_of_mem mem) List.mem_cons_self

theorem Observed.Safe.serial_entering (h : o.Safe settings) (loops : o.playback.loops = [loop])
    (state : PlayState) :
    (o.signals ++ loop.entering state).foldlM PassSignal.next none = some (some loop.number) := by
  have serial := h.serial
  rw [Playback.underWay_of_one loops] at serial
  rw [List.foldlM_append, serial]
  exact loop.foldlM_entering state

theorem Observed.Safe.serial_ending (h : o.Safe settings) (loops : o.playback.loops = [loop])
    (state : PlayState) :
    (o.signals ++ loop.ending state).foldlM PassSignal.next none = some none := by
  rw [Loop.ending, ← List.append_assoc, List.foldlM_append, h.serial_entering loops]
  simp [PassSignal.next]

theorem Observed.Safe.timely_entering (h : o.Safe settings)
    (may : loop.inPass = true ∨ o.playback.state = .running) {number : Nat} {state : PlayState}
    (mem : .begins number state ∈ o.signals ++ loop.entering o.playback.state) :
    state = .running := by
  rcases List.mem_append.mp mem with old | new
  · exact h.timely number state old
  · exact Loop.state_of_mem_entering may new

theorem Observed.Safe.timely_ending (h : o.Safe settings)
    (may : loop.inPass = true ∨ o.playback.state = .running) {number : Nat} {state : PlayState}
    (mem : .begins number state ∈ o.signals ++ loop.ending o.playback.state) :
    state = .running := by
  rw [Loop.ending, ← List.append_assoc] at mem
  rcases List.mem_append.mp mem with here | last
  · exact h.timely_entering may here
  · exact nomatch List.mem_singleton.mp last

theorem Observed.Safe.released (h : o.Safe settings) (loops : o.playback.loops = [loop])
    (outside : loop.inPass = false) (idle : o.playback.state = .idle) (now : Nat)
    (came : q = { o.playback with
      now, loopActive := false, loops := []
      ended := o.playback.ended ++ [(loop.number, loop.completed)] }) :
    (o.goOn q).Safe settings := by
  have silent : PassSignal.between o.playback q = [] := by
    subst came
    exact PassSignal.between_of_released loops rfl rfl
  have numbers := h.numbers
  have total := h.total
  have serial := h.serial
  rw [loops] at numbers total
  rw [Playback.underWay_of_one loops, outside] at serial
  rw [Observed.goOn, silent, List.append_nil]
  subst came
  exact
    { same := h.same
      one := Nat.zero_le 1
      active := by simp
      served := fun running => nomatch idle.symm.trans running
      numbers := by simpa using numbers
      serial := serial
      timely := h.timely
      total := by simpa using total
      own := by
        intro number completed mem
        rcases List.mem_append.mp mem with old | new
        · exact h.own number completed old
        · cases List.mem_singleton.mp new
          exact h.ownAlive loop (loops ▸ List.mem_cons_self)
      ownAlive := nofun
      ownNone := h.ownNone
      reported := h.reported
      limited := by
        intro limit some
        obtain ⟨past, alive⟩ := h.limited limit some
        refine ⟨fun entry mem => ?_, nofun⟩
        rcases List.mem_append.mp mem with old | new
        · exact past entry old
        · rw [List.mem_singleton.mp new]
          exact Nat.le_of_lt (alive loop (loops ▸ List.mem_cons_self)) }

theorem Observed.Safe.speaks (h : o.Safe settings) (loops : o.playback.loops = [loop])
    (may : loop.inPass = true ∨ o.playback.state = .running) {stage : Stage}
    (plays : o.playback.stage.Plays stage) (now due : Nat) (line : Script) (pass : Pass)
    (came : q = { o.playback with
      now, stage, loops := [{ loop with due, suspension := .speaking line pass }] }) :
    (o.goOn q).Safe settings := by
  have seen : PassSignal.between o.playback q = loop.entering o.playback.state := by
    subst came
    exact PassSignal.between_of_speaks loops rfl rfl rfl rfl
  have numbers := h.numbers
  have total := h.total
  rw [loops] at numbers total
  rw [Observed.goOn, seen]
  subst came
  have counts : ∀ number, (o.signals ++ loop.entering o.playback.state).count (.ends number) =
      o.signals.count (.ends number) := by
    intro number
    rw [List.count_append, Loop.count_entering, Nat.add_zero]
  exact
    { same := h.same
      one := Nat.le_refl 1
      active := by simpa [loops] using h.active
      served := by simp
      numbers := numbers
      serial := h.serial_entering loops _
      timely := fun _ _ mem => h.timely_entering may mem
      total := total
      own := by
        intro number completed mem
        rw [counts]
        exact h.own number completed mem
      ownAlive := by
        intro next mem
        rw [List.mem_singleton.mp mem, counts]
        exact h.ownAlive loop (loops ▸ List.mem_cons_self)
      ownNone := by
        intro number le
        rw [counts]
        exact h.ownNone number le
      reported := plays.log_closed (EventLog.closed_reports _ _) h.reported
      limited := by
        intro limit some
        obtain ⟨past, alive⟩ := h.limited limit some
        refine ⟨past, fun next mem => ?_⟩
        rw [List.mem_singleton.mp mem]
        exact alive loop (loops ▸ List.mem_cons_self) }

/-- A completed pass is one more for its loop and for none of the others. -/
theorem Observed.Safe.own_ending (h : o.Safe settings) (loops : o.playback.loops = [loop])
    (state : PlayState) :
    (∀ number completed, (number, completed) ∈ o.playback.ended →
      (o.signals ++ loop.ending state).count (.ends number) = completed) ∧
    (o.signals ++ loop.ending state).count (.ends loop.number) = loop.completed + 1 ∧
    ∀ number, o.playback.started ≤ number →
      (o.signals ++ loop.ending state).count (.ends number) = 0 := by
  refine ⟨fun number completed mem => ?_, ?_, fun number le => ?_⟩
  · rw [Loop.count_ending, if_neg (h.number_ne loops mem).symm]
    exact h.own number completed mem
  · rw [Loop.count_ending, if_pos rfl, h.ownAlive loop (loops ▸ List.mem_cons_self)]
  · have lt := h.number_lt loops
    rw [Loop.count_ending, if_neg (by omega)]
    exact h.ownNone number le

theorem Observed.Safe.rests (h : o.Safe settings) (loops : o.playback.loops = [loop])
    (may : loop.inPass = true ∨ o.playback.state = .running) {stage : Stage}
    (plays : o.playback.stage.Plays stage)
    (within : o.playback.reachesLimit (loop.completed + 1) = false) (now due : Nat)
    (came : q = { o.playback with
      now, passes := o.playback.passes + 1
      stage := stage.record (.passCompleted (o.playback.passes + 1))
      loops := [{ loop with completed := loop.completed + 1, due, suspension := .resting }] }) :
    (o.goOn q).Safe settings := by
  have seen : PassSignal.between o.playback q = loop.ending o.playback.state := by
    subst came
    exact PassSignal.between_of_completes loops rfl
  have numbers := h.numbers
  have total := h.total
  rw [loops] at numbers total
  obtain ⟨own, ownAlive, ownNone⟩ := h.own_ending loops o.playback.state
  rw [Observed.goOn, seen]
  subst came
  exact
    { same := h.same
      one := Nat.le_refl 1
      active := by simpa [loops] using h.active
      served := by simp
      numbers := numbers
      serial := h.serial_ending loops _
      timely := fun _ _ mem => h.timely_ending may mem
      total := by
        rw [total]
        simp [Nat.add_assoc]
      own := own
      ownAlive := by
        intro next mem
        rw [List.mem_singleton.mp mem]
        exact ownAlive
      ownNone := ownNone
      reported := (plays.log_closed (EventLog.closed_reports _ _) h.reported).record_pass
      limited := by
        intro limit some
        refine ⟨(h.limited limit some).1, fun next mem => ?_⟩
        have limited : o.playback.settings.passLimit = .some limit := h.same ▸ some
        have below : ¬ limit ≤ loop.completed + 1 := by
          rw [← Playback.reachesLimit_iff limited, within]
          exact Bool.false_ne_true
        rw [List.mem_singleton.mp mem]
        show loop.completed + 1 < max 1 limit
        omega }

theorem Observed.Safe.stops (h : o.Safe settings) (loops : o.playback.loops = [loop])
    (may : loop.inPass = true ∨ o.playback.state = .running) {stage : Stage}
    (plays : o.playback.stage.Plays stage) (now : Nat)
    (came : q = { o.playback with
      now, state := .idle, loopActive := false, passes := o.playback.passes + 1, loops := []
      ended := o.playback.ended ++ [(loop.number, loop.completed + 1)]
      stage :=
        if o.playback.state = .running then
          (stage.record (.passCompleted (o.playback.passes + 1))).record .playStopped
        else stage.record (.passCompleted (o.playback.passes + 1)) }) :
    (o.goOn q).Safe settings := by
  have seen : PassSignal.between o.playback q = loop.ending o.playback.state := by
    subst came
    exact PassSignal.between_of_completes loops rfl
  have numbers := h.numbers
  have total := h.total
  rw [loops] at numbers total
  obtain ⟨own, ownAlive, ownNone⟩ := h.own_ending loops o.playback.state
  have reported : (stage.record (.passCompleted (o.playback.passes + 1))).log.Reports o.taken
      (o.playback.passes + 1) :=
    (plays.log_closed (EventLog.closed_reports _ _) h.reported).record_pass
  rw [Observed.goOn, seen]
  subst came
  exact
    { same := h.same
      one := Nat.zero_le 1
      active := by simp
      served := nofun
      numbers := by simpa using numbers
      serial := h.serial_ending loops _
      timely := fun _ _ mem => h.timely_ending may mem
      total := by
        rw [total]
        simp [Nat.add_assoc]
      own := by
        intro number completed mem
        rcases List.mem_append.mp mem with old | new
        · exact own number completed old
        · cases List.mem_singleton.mp new
          exact ownAlive
      ownAlive := nofun
      ownNone := ownNone
      reported := by
        show (ite _ _ _ : Stage).log.Reports _ _
        split
        · exact reported.record rfl
        · exact reported
      limited := by
        intro limit some
        obtain ⟨past, alive⟩ := h.limited limit some
        refine ⟨fun entry mem => ?_, nofun⟩
        rcases List.mem_append.mp mem with old | new
        · exact past entry old
        · rw [List.mem_singleton.mp new]
          exact alive loop (loops ▸ List.mem_cons_self) }

theorem Observed.Safe.resume (h : o.Safe settings) (breath : Breath) (place : Nat) :
    (o.step (.resume breath place)).Safe settings := by
  rcases Playback.resume_cases h.one breath place with
    same | ⟨loop, loops, -, next, q, stretch, resumed⟩
  · rw [o.step_of_apply (.resume breath place) nofun same]
    exact h.congr rfl rfl rfl rfl rfl rfl (PassSignal.append_between_of_same _ h.one rfl rfl)
      h.served h.reported
  · rw [o.step_of_apply (.resume breath place) nofun resumed]
    cases stretch with
    | released outside idle now => exact h.released loops outside idle now rfl
    | speaks may plays now due line pass => exact h.speaks loops may plays now due line pass rfl
    | rests may plays within now due => exact h.rests loops may plays within now due rfl
    | stops may plays reached now => exact h.stops loops may plays now rfl

/-- Every move keeps the promises. -/
theorem Observed.Safe.step (h : o.Safe settings) (move : Playback.Move) :
    (o.step move).Safe settings := by
  cases move with
  | play => exact h.play
  | stop => exact h.stop
  | resume breath place => exact h.resume breath place
  | operate operation => exact h.operate operation
  | elapse time breath => exact h.elapse time breath

theorem Observed.safe_nil (settings : PlaySettings) (setup : StageSetup) :
    (Observed.after settings setup []).Safe settings where
  same := rfl
  one := Nat.zero_le 1
  active := by simp [Observed.after, Playback.of]
  served := nofun
  numbers := rfl
  serial := rfl
  timely := nofun
  total := rfl
  own := nofun
  ownAlive := nofun
  ownNone := fun _ _ => rfl
  reported := by
    show (Stage.start setup).log.Reports [] 0
    rw [Stage.start]
    split
    · exact (EventLog.reports_empty setup.capacity).record rfl
    · exact EventLog.reports_empty setup.capacity
  limited := fun _ _ => ⟨nofun, nofun⟩

/-- So does a whole run. -/
theorem Observed.Safe.steps (h : o.Safe settings) (moves : List Playback.Move) :
    (moves.foldl Observed.step o).Safe settings := by
  induction moves generalizing o with
  | nil => exact h
  | cons move rest ih => exact ih (h.step move)

/-- **A playback keeps its promises.**  Whatever is done to it, in whatever order and wherever its
loops are suspended: there is one loop at most, `loopActive` tells whether there is, and there is
one as long as the playback is running; passes do not overlap, and begin only while it is running;
every loop counts its own passes, and together they are all; the log reports them by their
numbers, one after another; and no loop completes more than it is allowed. -/
theorem playback_is_safe (settings : PlaySettings) (setup : StageSetup)
    (moves : List Playback.Move) : (Observed.after settings setup moves).Safe settings :=
  (Observed.safe_nil settings setup).steps moves

end BlockStage
