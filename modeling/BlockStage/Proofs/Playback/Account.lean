import BlockStage.Proofs.Playback.Turns
import BlockStage.Proofs.Stage.WellFormed

/-!
# The account of a pass

Dialogue suspends a pass, and meanwhile anybody may do anything to the stage.  An account of such a
time lists what was done, by the pass and by others, together with what the pass looked at: who was
there when it began, and which program an actor held when its turn began.  An account is true if
each of these readings is what the stage was at that point (`Stage.Bears`), and it is complete if
the stage comes from it (`Stage.replay`).

`Pass.Course` is a pass with all that happens until its end.  Whatever that is, the lines of the
pass itself are those of whole turns, one after another, of the actors that were there when it
began (`Pass.Told`).
-/

namespace BlockStage

/-! ## Accounts -/

/-- One line of an account. -/
inductive Entry where
  /-- A pass begins that gives these actors a turn. -/
  | opens (actors : List ActorId)
  /-- The turn of an actor begins, with the program that it holds. -/
  | turn (actor : ActorId) (program : Program)
  /-- The actor whose turn it is does something. -/
  | does (operation : Operation)
  /-- The last turn of a pass is over. -/
  | closes
  /-- Somebody else does something. -/
  | outside (operation : Operation)
  /-- The playback logs something. -/
  | logs (event : Event)

namespace Entry

/-- Whether a line is one of a pass. -/
def isOfPass : Entry → Bool
  | .opens _ | .turn _ _ | .does _ | .closes => true
  | .outside _ | .logs _ => false

/-- The stage after what a line tells. -/
def apply : Entry → Stage → Stage
  | .does operation, s | .outside operation, s => operation.apply s
  | .logs event, s => s.record event
  | .opens _, s | .turn _ _, s | .closes, s => s

/-- Whether a line is true of the stage that it is about. -/
def Holds (s : Stage) : Entry → Prop
  | .opens actors => actors = s.roster.ids
  | .turn actor program => s.program? actor = some program
  | .does _ | .closes | .outside _ | .logs _ => True

/-- The lines of a whole turn. -/
def ofTurn (turn : ActorId × Program) : List Entry :=
  .turn turn.1 turn.2 :: (Program.deeds turn.1 turn.2).map .does

/-- The lines of a whole pass, by its turns. -/
def ofPass (turns : List (ActorId × Program)) : List Entry :=
  .opens (turns.map (·.1)) :: turns.flatMap ofTurn ++ [.closes]

end Entry

variable {s t : Stage} {actor : ActorId} {entries : List Entry}

/-- The stage after what some lines tell. -/
def Stage.replay (s : Stage) (entries : List Entry) : Stage :=
  entries.foldl (fun s entry => entry.apply s) s

/-- Each line is true of the stage after the lines before it. -/
def Stage.Bears : Stage → List Entry → Prop
  | _, [] => True
  | s, entry :: rest => entry.Holds s ∧ (entry.apply s).Bears rest

theorem Stage.replay_append (s : Stage) (first second : List Entry) :
    s.replay (first ++ second) = (s.replay first).replay second := List.foldl_append

@[simp] theorem Stage.replay_cons (s : Stage) (entry : Entry) (rest : List Entry) :
    s.replay (entry :: rest) = (entry.apply s).replay rest := rfl

theorem Stage.bears_append {first second : List Entry} :
    s.Bears (first ++ second) ↔ s.Bears first ∧ (s.replay first).Bears second := by
  induction first generalizing s with
  | nil => exact (true_and _).to_iff.symm
  | cons entry rest ih =>
      rw [List.cons_append, Stage.Bears, Stage.Bears, ih, and_assoc]
      rfl

theorem Stage.Bears.holds {before later : List Entry} {entry : Entry}
    (bears : s.Bears (before ++ entry :: later)) : entry.Holds (s.replay before) :=
  (Stage.bears_append.mp bears).2.1

/-- Nobody ever leaves the stage. -/
theorem Operation.mem_ids_apply (operation : Operation) (present : actor ∈ s.roster.ids) :
    actor ∈ (operation.apply s).roster.ids := by
  have change := operation.change s
  exact change.ids_prefix.subset present

theorem Stage.mem_ids_after (present : actor ∈ s.roster.ids) (operations : List Operation) :
    actor ∈ (s.after operations).roster.ids := by
  induction operations generalizing s with
  | nil => exact present
  | cons operation rest ih => exact ih (operation.mem_ids_apply present)

theorem Entry.mem_ids_apply (present : actor ∈ s.roster.ids) (entry : Entry) :
    actor ∈ (entry.apply s).roster.ids := by
  cases entry with
  | does operation | outside operation => exact operation.mem_ids_apply present
  | opens | turn | closes | logs => exact present

theorem Stage.mem_ids_replay (present : actor ∈ s.roster.ids) (entries : List Entry) :
    actor ∈ (s.replay entries).roster.ids := by
  induction entries generalizing s with
  | nil => exact present
  | cons entry rest ih => exact ih (entry.mem_ids_apply present)

/-! ## Turns -/

namespace Turn

theorem snd_advance (instant : Float → Bool) (breath : Breath) (turn : Turn) (s : Stage) :
    (turn.advance instant breath s).2 =
      s.after (told instant turn.actor breath s turn.frames) := by
  rw [← after_told, advance]
  generalize advanceFrames _ _ _ _ _ = progress
  rcases progress with ⟨_ | _, _⟩ <;> rfl

variable {instant : Float → Bool} {breath left : Breath} {turn rest : Turn} {line : Script}

/-- A turn that comes to its end does all that was left of it. -/
theorem told_of_finished (present : turn.actor ∈ s.roster.ids)
    (ended : turn.advance instant breath s = (.finished left, t)) :
    told instant turn.actor breath s turn.frames = Frame.deeds turn.actor turn.frames := by
  have whole := told_append_deeds instant breath present turn.frames
  rw [advance] at ended
  split at ended
  · next stopped =>
    rw [stopped] at whole
    exact (List.append_nil _).symm.trans whole
  · cases ended

/-- A turn that stops in dialogue has to clear the bubble, and to do the rest. -/
theorem told_of_stopped (present : turn.actor ∈ s.roster.ids)
    (stopped : turn.advance instant breath s = (.speaking line rest, t)) :
    rest.actor = turn.actor ∧
      told instant turn.actor breath s turn.frames ++
          .hush turn.actor :: Frame.deeds turn.actor rest.frames =
        Frame.deeds turn.actor turn.frames := by
  have whole := told_append_deeds instant breath present turn.frames
  rw [advance] at stopped
  split at stopped
  · cases stopped
  · next speaks =>
    rw [speaks] at whole
    cases stopped
    exact ⟨rfl, whole⟩

end Turn

/-! ## Passes -/

namespace Pass

/-- What is told while the actors have their turns, up to the first stop in dialogue. -/
def toldStart (instant : Float → Bool) : Breath → List ActorId → Stage → List Entry
  | _, [], _ => [.closes]
  | breath, actor :: waiting, stage =>
    let program := (stage.program? actor).getD []
    let turn := Turn.of actor program
    .turn actor program :: (Turn.told instant actor breath stage turn.frames).map .does ++
      match turn.advance instant breath stage with
      | (.finished breath, stage) => toldStart instant breath waiting stage
      | (.speaking _ _, _) => []

/-- What is told while a pass goes on, up to its next stop in dialogue. -/
def toldProceed (instant : Float → Bool) (breath : Breath) (pass : Pass) (stage : Stage) :
    List Entry :=
  (Turn.told instant pass.turn.actor breath stage pass.turn.frames).map .does ++
    match pass.turn.advance instant breath stage with
    | (.finished breath, stage) => toldStart instant breath pass.waiting stage
    | (.speaking _ _, _) => []

/-- What is told when a pass is taken up again. -/
def toldResume (instant : Float → Bool) (breath : Breath) (pass : Pass) (stage : Stage) :
    List Entry :=
  .does (.hush pass.turn.actor) :: pass.toldProceed instant breath (stage.hush pass.turn.actor)

theorem start_cons (instant : Float → Bool) (breath : Breath) (actor : ActorId)
    (waiting : List ActorId) (s : Stage) :
    start instant breath (actor :: waiting) s =
      proceed instant breath ⟨.of actor ((s.program? actor).getD []), waiting⟩ s := rfl

theorem toldStart_cons (instant : Float → Bool) (breath : Breath) (actor : ActorId)
    (waiting : List ActorId) (s : Stage) :
    toldStart instant breath (actor :: waiting) s =
      .turn actor ((s.program? actor).getD []) ::
        toldProceed instant breath ⟨.of actor ((s.program? actor).getD []), waiting⟩ s := rfl

theorem toldProceed_of_finished {instant : Float → Bool} {breath left : Breath} {turn : Turn}
    (waiting : List ActorId) (ended : turn.advance instant breath s = (.finished left, t)) :
    toldProceed instant breath ⟨turn, waiting⟩ s =
        (Turn.told instant turn.actor breath s turn.frames).map .does ++
          toldStart instant left waiting t ∧
      proceed instant breath ⟨turn, waiting⟩ s = start instant left waiting t := by
  rw [toldProceed, proceed]
  dsimp only
  rw [ended]
  exact ⟨rfl, rfl⟩

theorem toldProceed_of_stopped {instant : Float → Bool} {breath : Breath} {turn rest : Turn}
    {line : Script} (waiting : List ActorId)
    (stopped : turn.advance instant breath s = (.speaking line rest, t)) :
    toldProceed instant breath ⟨turn, waiting⟩ s =
        (Turn.told instant turn.actor breath s turn.frames).map .does ∧
      proceed instant breath ⟨turn, waiting⟩ s = (.speaking line ⟨rest, waiting⟩, t) := by
  rw [toldProceed, proceed]
  dsimp only
  rw [stopped]
  exact ⟨List.append_nil _, rfl⟩

/-- A pass makes `t` of `s`, and these are its lines: they are true, and they are all that
happens. -/
structure Lines (s : Stage) (lines : List Entry) (t : Stage) : Prop where
  own : ∀ entry ∈ lines, entry.isOfPass = true
  bears : s.Bears lines
  replays : s.replay lines = t

theorem Lines.trans {u : Stage} {first second : List Entry} (h : Lines s first t)
    (h' : Lines t second u) : Lines s (first ++ second) u where
  own entry mem := (List.mem_append.mp mem).elim (h.own entry) (h'.own entry)
  bears := Stage.bears_append.mpr ⟨h.bears, h.replays ▸ h'.bears⟩
  replays := by rw [Stage.replay_append, h.replays, h'.replays]

theorem Lines.mem_ids (h : Lines s entries t) (present : actor ∈ s.roster.ids) :
    actor ∈ t.roster.ids := h.replays ▸ Stage.mem_ids_replay present entries

/-- One line more in front. -/
theorem Lines.cons {entry : Entry} (own : entry.isOfPass = true) (holds : entry.Holds s)
    (h : Lines (entry.apply s) entries t) : Lines s (entry :: entries) t where
  own := List.forall_mem_cons.mpr ⟨own, h.own⟩
  bears := ⟨holds, h.bears⟩
  replays := h.replays

theorem lines_nil (s : Stage) : Lines s [] s where
  own := List.forall_mem_nil _
  bears := trivial
  replays := rfl

theorem lines_does (s : Stage) (operations : List Operation) :
    Lines s (operations.map .does) (s.after operations) := by
  induction operations generalizing s with
  | nil => exact lines_nil s
  | cons operation rest ih => exact .cons rfl trivial (ih (operation.apply s))

section

variable {instant : Float → Bool} {breath : Breath} {waiting : List ActorId}

/-- What is told of a turn and of those after it, if it is so for those. -/
theorem lines_proceed_of
    (later : ∀ (breath : Breath) (s : Stage), (∀ actor ∈ waiting, actor ∈ s.roster.ids) →
      Lines s (toldStart instant breath waiting s) (start instant breath waiting s).2)
    (present : ∀ actor ∈ waiting, actor ∈ s.roster.ids) (turn : Turn) :
    Lines s (toldProceed instant breath ⟨turn, waiting⟩ s)
      (proceed instant breath ⟨turn, waiting⟩ s).2 := by
  have does := lines_does s (Turn.told instant turn.actor breath s turn.frames)
  have kept := fun actor mem =>
    Stage.mem_ids_after (present actor mem) (Turn.told instant turn.actor breath s turn.frames)
  rw [← turn.snd_advance] at does kept
  generalize advanced : turn.advance instant breath s = progress at does kept
  rcases progress with ⟨left | ⟨line, rest⟩, t⟩
  · obtain ⟨told, proceeds⟩ := toldProceed_of_finished waiting advanced
    rw [told, proceeds]
    exact does.trans (later left t kept)
  · obtain ⟨told, proceeds⟩ := toldProceed_of_stopped waiting advanced
    rw [told, proceeds]
    exact does

theorem lines_start (instant : Float → Bool) (breath : Breath) {actors : List ActorId} {s : Stage}
    (present : ∀ actor ∈ actors, actor ∈ s.roster.ids) :
    Lines s (toldStart instant breath actors s) (start instant breath actors s).2 := by
  induction actors generalizing breath s with
  | nil => exact (lines_nil s).cons rfl trivial
  | cons actor waiting ih =>
      obtain ⟨here, present⟩ := List.forall_mem_cons.mp present
      rw [toldStart_cons, start_cons]
      exact .cons rfl (Stage.exists_program?_of_mem here)
        (lines_proceed_of (fun breath s => ih breath) present _)

/-- What is told of a pass from its beginning on. -/
theorem lines_begin (instant : Float → Bool) (breath : Breath) (s : Stage) :
    Lines s (.opens s.roster.ids :: toldStart instant breath s.roster.ids s)
      (start instant breath s.roster.ids s).2 :=
  .cons rfl rfl (lines_start instant breath fun _ mem => mem)

/-- **What is told of a pass is true, and it is all that happens.** -/
theorem lines_resume (instant : Float → Bool) (breath : Breath) (pass : Pass)
    (present : ∀ actor ∈ pass.waiting, actor ∈ s.roster.ids) :
    Lines s (pass.toldResume instant breath s) (pass.resume instant breath s).2 := by
  have kept := fun actor mem => (s.ids_hush pass.turn.actor).symm ▸ present actor mem
  exact .cons rfl trivial
    (lines_proceed_of (fun breath _ => lines_start instant breath) kept pass.turn)

end

/-- What has been told of a pass of these actors that came so far: whole turns, and perhaps a part
of one.  In that case the rest of it is what the pass still has in hand. -/
inductive Told (actors : List ActorId) : List Entry → Progress Pass → Prop
  | whole {turns : List (ActorId × Program)} {breath : Breath}
    (all : turns.map (·.1) = actors) : Told actors (Entry.ofPass turns) (.finished breath)
  | part {turns : List (ActorId × Program)} {program : Program} {done : List Operation}
    {line : Script} {pass : Pass}
    (all : turns.map (·.1) ++ pass.turn.actor :: pass.waiting = actors)
    (left : done ++ .hush pass.turn.actor :: Frame.deeds pass.turn.actor pass.turn.frames =
      Program.deeds pass.turn.actor program) :
    Told actors
      (.opens actors :: turns.flatMap Entry.ofTurn ++
        .turn pass.turn.actor program :: done.map .does)
      (.speaking line pass)

/-- Those who wait are among the actors of the pass. -/
theorem Told.waiting {actors : List ActorId} {line : Script} {pass : Pass}
    (told : Told actors entries (.speaking line pass)) :
    ∀ actor ∈ pass.waiting, actor ∈ actors := by
  cases told with
  | part all =>
      intro actor mem
      exact all ▸ List.mem_append_right _ (List.mem_cons_of_mem _ mem)

/-- It is the beginning of the account of a whole pass. -/
theorem Told.exists_ofPass {actors : List ActorId} {progress : Progress Pass}
    (told : Told actors entries progress) :
    ∃ turns rest, turns.map (·.1) = actors ∧ entries ++ rest = Entry.ofPass turns := by
  cases told with
  | whole all => exact ⟨_, [], all, List.append_nil _⟩
  | @part turns program done line pass all left =>
      -- Nothing is known yet about the turns to come.
      let coming := pass.waiting.map fun actor => (actor, ([] : Program))
      have names : (turns ++ (pass.turn.actor, program) :: coming).map (·.1) = actors := by
        simp [coming, ← all, Function.comp_def]
      let deeds := Frame.deeds pass.turn.actor pass.turn.frames
      refine ⟨_, (.hush pass.turn.actor :: deeds).map .does ++
        coming.flatMap Entry.ofTurn ++ [.closes], names, ?_⟩
      rw [Entry.ofPass, names]
      simp [Entry.ofTurn, ← left, deeds]

section

variable {actors : List ActorId} {turns : List (ActorId × Program)} {program : Program}
  {done : List Operation} {instant : Float → Bool} {waiting : List ActorId}

/-- What is told of a pass is what it does, if it is for the turns after this one. -/
theorem told_proceed_of (breath : Breath) (turn : Turn)
    (later : ∀ (turns : List (ActorId × Program)) (breath : Breath) (s : Stage),
      turns.map (·.1) ++ waiting = actors → (∀ actor ∈ waiting, actor ∈ s.roster.ids) →
      Told actors
        (.opens actors :: turns.flatMap Entry.ofTurn ++ toldStart instant breath waiting s)
        (start instant breath waiting s).1)
    (all : turns.map (·.1) ++ turn.actor :: waiting = actors)
    (left : done ++ Frame.deeds turn.actor turn.frames = Program.deeds turn.actor program)
    (present : ∀ actor ∈ turn.actor :: waiting, actor ∈ s.roster.ids) :
    Told actors
      (.opens actors :: turns.flatMap Entry.ofTurn ++ .turn turn.actor program :: done.map .does ++
        toldProceed instant breath ⟨turn, waiting⟩ s)
      (proceed instant breath ⟨turn, waiting⟩ s).1 := by
  obtain ⟨here, present⟩ := List.forall_mem_cons.mp present
  have kept := fun actor mem =>
    Stage.mem_ids_after (present actor mem) (Turn.told instant turn.actor breath s turn.frames)
  rw [← turn.snd_advance] at kept
  generalize advanced : turn.advance instant breath s = progress at kept
  rcases progress with ⟨left' | ⟨line, rest⟩, t⟩
  · have ended := Turn.told_of_finished here advanced
    obtain ⟨told, proceeds⟩ := toldProceed_of_finished waiting advanced
    have lines : (turns ++ [(turn.actor, program)]).flatMap Entry.ofTurn =
        turns.flatMap Entry.ofTurn ++
          .turn turn.actor program :: (done ++ Frame.deeds turn.actor turn.frames).map .does := by
      rw [List.flatMap_append, List.flatMap_singleton, Entry.ofTurn, left]
    have later := later (turns ++ [(turn.actor, program)]) left' t (by simp [all]) kept
    rw [told, proceeds, ended]
    simpa [lines] using later
  · obtain ⟨same, stopped⟩ := Turn.told_of_stopped here advanced
    obtain ⟨told, proceeds⟩ := toldProceed_of_stopped waiting advanced
    obtain ⟨other, frames⟩ := rest
    obtain rfl : other = turn.actor := same
    have whole : done ++ Turn.told instant turn.actor breath s turn.frames ++
        .hush turn.actor :: Frame.deeds turn.actor frames = Program.deeds turn.actor program := by
      rw [List.append_assoc, stopped, left]
    have part : Told actors _ (.speaking line ⟨⟨turn.actor, frames⟩, waiting⟩) := .part all whole
    rw [told, proceeds]
    simpa using part

theorem told_start (instant : Float → Bool) (breath : Breath)
    (all : turns.map (·.1) ++ waiting = actors)
    (present : ∀ actor ∈ waiting, actor ∈ s.roster.ids) :
    Told actors (.opens actors :: turns.flatMap Entry.ofTurn ++ toldStart instant breath waiting s)
      (start instant breath waiting s).1 := by
  induction waiting generalizing turns breath s with
  | nil =>
      obtain rfl : turns.map (·.1) = actors := (List.append_nil _).symm.trans all
      exact .whole rfl
  | cons actor waiting ih =>
      rw [toldStart_cons, start_cons]
      have whole : [] ++ Frame.deeds actor (Turn.of actor ((s.program? actor).getD [])).frames =
          Program.deeds actor ((s.program? actor).getD []) := Frame.deeds_of actor _
      have first := told_proceed_of breath (.of actor _) (fun turns breath s all => ih breath all)
        all whole present
      simpa [Turn.of] using first

/-- A pass that begins. -/
theorem told_begin (instant : Float → Bool) (breath : Breath) (s : Stage) :
    Told s.roster.ids (.opens s.roster.ids :: toldStart instant breath s.roster.ids s)
      (start instant breath s.roster.ids s).1 := by
  have none : ([] : List (ActorId × Program)).map (·.1) ++ s.roster.ids = s.roster.ids := rfl
  exact told_start instant breath none fun _ mem => mem

/-- **A pass that is taken up again goes on with its account.** -/
theorem Told.resume {line : Script} {pass : Pass} (told : Told actors entries (.speaking line pass))
    (present : ∀ actor ∈ actors, actor ∈ s.roster.ids) (instant : Float → Bool) (breath : Breath) :
    Told actors (entries ++ pass.toldResume instant breath s) (pass.resume instant breath s).1 := by
  cases told with
  | @part turns program done line pass all left =>
      have whole : (done ++ [.hush pass.turn.actor]) ++
          Frame.deeds pass.turn.actor pass.turn.frames =
          Program.deeds pass.turn.actor program := by
        rw [List.append_assoc, List.singleton_append, left]
      have next := told_proceed_of (s := s.hush pass.turn.actor) breath pass.turn
        (fun turns breath s all => told_start instant breath all) all whole fun actor mem =>
          (s.ids_hush pass.turn.actor).symm ▸ present actor (all ▸ List.mem_append_right _ mem)
      simpa [toldResume, resume] using next

end

/-! ## A pass with all that happens -/

/-- A pass that begins on a stage and comes to a stop again and again, with its account so far.
While it is suspended in dialogue, anything may be done by others. -/
inductive Course (first : Stage) : List Entry → Progress Pass × Stage → Prop
  | begun (instant : Float → Bool) (breath : Breath) :
    Course first
      (.opens first.roster.ids :: toldStart instant breath first.roster.ids first)
      (start instant breath first.roster.ids first)
  | disturbed {entries : List Entry} {line : Script} {pass : Pass} {s : Stage} {entry : Entry}
    (course : Course first entries (.speaking line pass, s)) (foreign : entry.isOfPass = false) :
    Course first (entries ++ [entry]) (.speaking line pass, entry.apply s)
  | resumed {entries : List Entry} {line : Script} {pass : Pass} {s : Stage}
    (course : Course first entries (.speaking line pass, s)) (instant : Float → Bool)
    (breath : Breath) :
    Course first (entries ++ pass.toldResume instant breath s) (pass.resume instant breath s)

/-- What is known of a pass with all that happened. -/
structure Accounted (first : Stage) (entries : List Entry) (reached : Progress Pass × Stage) :
    Prop where
  bears : first.Bears entries
  replays : first.replay entries = reached.2
  told : Told first.roster.ids (entries.filter Entry.isOfPass) reached.1

/-- **A pass is serial and runs on snapshots.**  Its account is true and complete, and whatever
others did in the meantime, the lines of the pass itself are those of whole turns, one after
another, of the actors that were there when it began. -/
theorem Course.accounted {first : Stage} {reached : Progress Pass × Stage}
    (course : Course first entries reached) : Accounted first entries reached := by
  induction course with
  | begun instant breath =>
      have lines := lines_begin instant breath first
      refine ⟨lines.bears, lines.replays, ?_⟩
      rw [List.filter_eq_self.mpr lines.own]
      exact told_begin instant breath first
  | @disturbed entries line pass s entry course foreign ih =>
      have holds : entry.Holds s := by
        cases entry with
        | outside | logs => trivial
        | opens | turn | does | closes => cases foreign
      refine ⟨Stage.bears_append.mpr ⟨ih.bears, ?_, trivial⟩, ?_, ?_⟩
      · exact ih.replays ▸ holds
      · rw [Stage.replay_append, ih.replays]
        rfl
      · rw [List.filter_append, List.filter_singleton, foreign]
        exact (List.append_nil _).symm ▸ ih.told
  | @resumed entries line pass s course instant breath ih =>
      have replays : first.replay entries = s := ih.replays
      have present : ∀ actor ∈ first.roster.ids, actor ∈ s.roster.ids := fun actor mem =>
        replays ▸ Stage.mem_ids_replay mem entries
      have waiting := fun actor mem => present actor (ih.told.waiting actor mem)
      have lines := lines_resume instant breath pass waiting
      refine ⟨Stage.bears_append.mpr ⟨ih.bears, ih.replays ▸ lines.bears⟩, ?_, ?_⟩
      · rw [Stage.replay_append, ih.replays, lines.replays]
      · rw [List.filter_append, List.filter_eq_self.mpr lines.own]
        exact ih.told.resume present instant breath

end Pass

end BlockStage
