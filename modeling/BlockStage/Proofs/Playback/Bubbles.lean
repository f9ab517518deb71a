import BlockStage.Proofs.Playback.Timeline

/-!
# Bubbles belong to dialogue

A bubble appears when an actor begins to speak, and goes when its dialogue is over; in between the
loop that lets it speak is suspended, and there is one loop at most.  So at every moment the bubbles
on the stage are those of the dialogue in which a loop is suspended, and without a pass under way
there are none (`bubbles_are_those_of_dialogue`).

What matters of a stage is who shows what (`Roster.shown`), and there are two cases: nobody shows
anything (`Silent`), or one actor shows a bubble and nobody else does (`Speaks`).  Only performances
and ends of dialogue lead from one to the other.
-/

namespace BlockStage

/-! ## Who shows what -/

/-- The bubble of every actor. -/
def Roster.shown (r : Roster) : List (ActorId × Option Bubble) :=
  r.actors.map fun x => (x.id, x.bubble)

/-- The bubbles that there are, with the actors that show them. -/
def Roster.bubbles (r : Roster) : List (ActorId × Bubble) :=
  r.actors.filterMap fun x => x.bubble.map (x.id, ·)

/-- Nobody shows a bubble. -/
def Stage.Silent (s : Stage) : Prop := ∀ row ∈ s.roster.shown, row.2 = none

/-- The first actor of an id shows a bubble, and nobody else does. -/
def Stage.Speaks (s : Stage) (id : ActorId) (bubble : Bubble) : Prop :=
  ∃ before after, s.roster.shown = before ++ (id, some bubble) :: after ∧
    (∀ row ∈ before, row.1 ≠ id) ∧ ∀ row ∈ before ++ after, row.2 = none

variable {s t : Stage} {id : ActorId} {bubble : Bubble}

theorem Roster.bubbles_eq (r : Roster) :
    r.bubbles = r.shown.filterMap fun row => row.2.map (row.1, ·) := by
  rw [Roster.shown, List.filterMap_map]
  rfl

theorem Stage.Silent.bubbles (h : s.Silent) : s.roster.bubbles = [] := by
  rw [Roster.bubbles_eq, List.filterMap_eq_nil_iff]
  intro row mem
  rw [h row mem]
  rfl

theorem Stage.Speaks.bubbles (h : s.Speaks id bubble) : s.roster.bubbles = [(id, bubble)] := by
  obtain ⟨before, after, shown, -, silent⟩ := h
  obtain ⟨earlier, later⟩ := List.forall_mem_append.mp silent
  have none (rows : List (ActorId × Option Bubble)) (silent : ∀ row ∈ rows, row.2 = none) :
      rows.filterMap (fun row => row.2.map (row.1, ·)) = [] := by
    rw [List.filterMap_eq_nil_iff]
    intro row mem
    rw [silent row mem]
    rfl
  rw [Roster.bubbles_eq, shown, List.filterMap_append, none before earlier, List.filterMap_cons,
    none after later]
  rfl

theorem Stage.Silent.congr (h : s.Silent) (same : t.roster.shown = s.roster.shown) : t.Silent := by
  rwa [Stage.Silent, same]

theorem Stage.Speaks.congr (h : s.Speaks id bubble) (same : t.roster.shown = s.roster.shown) :
    t.Speaks id bubble := by
  rwa [Stage.Speaks, same]

theorem Roster.shown_update {f : Actor → Actor}
    (kept : ∀ x, ((f x).id, (f x).bubble) = (x.id, x.bubble)) {r : Roster} :
    (r.update id f).shown = r.shown := Roster.map_updateFirst kept r.actors

theorem Stage.shown_place (s : Stage) (id : ActorId) (position : Position) :
    (s.place id position).2.roster.shown = s.roster.shown := by
  by_cases known : id ∈ s.roster.ids
  · rw [Stage.place_of_mem known]
    refine (Stage.map_settleAll (fun _ _ _ => rfl) _ _).trans ?_
    show (s.roster.update id _).shown = s.roster.shown
    rw [Roster.shown_update]
    exact fun _ => rfl
  · rw [Stage.place_of_not_mem known]

theorem Stage.shown_travelTo (s : Stage) (id : ActorId) (travel : Travel) (position : Position) :
    (s.travelTo id travel position).roster.shown = s.roster.shown := by
  rw [Stage.travelTo, Stage.recordPosition]
  split
  · exact s.shown_place id position
  · exact s.shown_place id position

theorem Stage.shown_face (s : Stage) (id : ActorId) (heading : Float) :
    (s.face id heading).2.roster.shown = s.roster.shown := by
  show (s.roster.update id _).shown = s.roster.shown
  rw [Roster.shown_update]
  exact fun _ => rfl

theorem Stage.shown_nudge (s : Stage) (script : Script) :
    (s.nudge script).2.roster.shown = s.roster.shown := by
  rw [Stage.nudge]
  split
  · rw [Stage.nudgeActor]
    split
    · split
      · exact s.shown_travelTo _ _ _
      · exact s.shown_face _ _
      · exact s.shown_face _ _
      · rfl
    · rfl
  · rfl

theorem Roster.shown_edited (r : Roster) (edit : Program → Program) :
    (r.updateAll (Actor.edit edit)).shown = r.shown := List.map_map

/-- Whether an operation is none of a turn: it neither performs a script nor ends dialogue. -/
def Operation.IsAside : Operation → Prop
  | .perform _ _ | .hush _ => False
  | .create | .place _ _ | .face _ _ | .select _ | .submit _ | .delete _ | .nudge _ | .note _
  | .take => True

instance : DecidablePred Operation.IsAside
  | .perform _ _ | .hush _ => inferInstanceAs (Decidable False)
  | .create | .place _ _ | .face _ _ | .select _ | .submit _ | .delete _ | .nudge _ | .note _
  | .take => inferInstanceAs (Decidable True)

/-- Beside turns, all that happens to bubbles is that new actors come without one. -/
theorem Operation.exists_shown {operation : Operation} (aside : operation.IsAside) (s : Stage) :
    ∃ fresh, (operation.apply s).roster.shown = s.roster.shown ++ fresh ∧
      ∀ row ∈ fresh, row.2 = none := by
  have same (kept : (operation.apply s).roster.shown = s.roster.shown) :
      ∃ fresh, (operation.apply s).roster.shown = s.roster.shown ++ fresh ∧
        ∀ row ∈ fresh, row.2 = none :=
    ⟨[], by rw [kept, List.append_nil], List.forall_mem_nil _⟩
  cases operation with
  | create => exact ⟨[(s.roster.nextId, none)], List.map_append, by simp⟩
  | place id position => exact same (s.shown_place id position)
  | face id heading => exact same (s.shown_face id heading)
  | select id =>
      refine same ?_
      rw [Operation.apply, Stage.select]
      by_cases known : s.roster.has id = true
      · rw [if_pos known]
        rfl
      · rw [if_neg known]
  | submit script =>
      refine same ?_
      show (s.submit script).2.roster.shown = _
      by_cases known : s.registry.has script.id = true
      · rw [Stage.submit_of_known known]
      · rw [Stage.submit_of_fresh known]
        exact s.roster.shown_edited _
  | delete id =>
      refine same ?_
      show (s.delete id).2.roster.shown = _
      rw [Stage.delete, Registry.remove]
      cases s.registry.has id <;> exact s.roster.shown_edited _
  | nudge script => exact same (s.shown_nudge script)
  | note | take => exact same rfl
  | perform | hush => cases aside

theorem Stage.Silent.aside (h : s.Silent) {operation : Operation} (aside : operation.IsAside) :
    (operation.apply s).Silent := by
  obtain ⟨fresh, shown, silent⟩ := Operation.exists_shown aside s
  rw [Stage.Silent, shown]
  exact List.forall_mem_append.mpr ⟨h, silent⟩

theorem Stage.Speaks.aside (h : s.Speaks id bubble) {operation : Operation}
    (aside : operation.IsAside) : (operation.apply s).Speaks id bubble := by
  obtain ⟨fresh, shown, silent⟩ := Operation.exists_shown aside s
  obtain ⟨before, after, was, first, others⟩ := h
  refine ⟨before, after ++ fresh, ?_, first, ?_⟩
  · rw [shown, was, List.append_assoc, List.cons_append]
  · rw [← List.append_assoc]
    exact List.forall_mem_append.mpr ⟨others, silent⟩

/-! ### Bubbles that come and go -/

/-- Sets the bubble of the first row of an id. -/
def Roster.setRow (id : ActorId) (bubble : Option Bubble) :
    List (ActorId × Option Bubble) → List (ActorId × Option Bubble)
  | [] => []
  | row :: rest =>
    if row.1 = id then (id, bubble) :: rest else row :: Roster.setRow id bubble rest

theorem Stage.shown_setBubble (s : Stage) (id : ActorId) (bubble : Option Bubble) :
    (s.setBubble id bubble).roster.shown = Roster.setRow id bubble s.roster.shown := by
  show (Roster.updateFirst id (fun x => { x with bubble }) s.roster.actors).map
    (fun x => (x.id, x.bubble)) = Roster.setRow id bubble (s.roster.actors.map _)
  induction s.roster.actors with
  | nil => rfl
  | cons x rest ih =>
      rw [Roster.updateFirst, List.map_cons, Roster.setRow]
      by_cases here : x.id = id
      · rw [if_pos here, if_pos here, ← here]
        rfl
      · rw [if_neg here, if_neg here, List.map_cons, ih]

theorem Roster.setRow_of_first {before after : List (ActorId × Option Bubble)}
    (first : ∀ row ∈ before, row.1 ≠ id) (was bubble : Option Bubble) :
    Roster.setRow id bubble (before ++ (id, was) :: after) = before ++ (id, bubble) :: after := by
  induction before with
  | nil => exact if_pos rfl
  | cons row rest ih =>
      obtain ⟨other, first⟩ := List.forall_mem_cons.mp first
      rw [List.cons_append, Roster.setRow, if_neg other, ih first, List.cons_append]

theorem Roster.exists_first_row {rows : List (ActorId × Option Bubble)}
    (known : id ∈ rows.map (·.1)) :
    ∃ before was after, rows = before ++ (id, was) :: after ∧ ∀ row ∈ before, row.1 ≠ id := by
  induction rows with
  | nil => cases known
  | cons row rest ih =>
      by_cases here : row.1 = id
      · exact ⟨[], row.2, rest, here ▸ rfl, List.forall_mem_nil _⟩
      · obtain ⟨before, was, after, split, first⟩ :=
          ih ((List.mem_cons.mp known).resolve_left (Ne.symm here))
        exact ⟨row :: before, was, after, congrArg (row :: ·) split,
          List.forall_mem_cons.mpr ⟨here, first⟩⟩

/-- An actor that begins to speak while nobody does. -/
theorem Stage.Silent.speaks_setBubble (h : s.Silent) (known : id ∈ s.roster.ids)
    (bubble : Bubble) : (s.setBubble id (some bubble)).Speaks id bubble := by
  have listed : id ∈ s.roster.shown.map (·.1) := by
    rw [Roster.shown, List.map_map]
    exact known
  obtain ⟨before, was, after, split, first⟩ := Roster.exists_first_row listed
  rw [Stage.Silent, split] at h
  obtain ⟨earlier, later⟩ := List.forall_mem_append.mp h
  refine ⟨before, after, ?_, first, ?_⟩
  · rw [s.shown_setBubble, split, Roster.setRow_of_first first]
  · exact List.forall_mem_append.mpr ⟨earlier, (List.forall_mem_cons.mp later).2⟩

/-- An actor that stops speaking was the only one that did. -/
theorem Stage.Speaks.silent_hush (h : s.Speaks id bubble) : (s.hush id).Silent := by
  obtain ⟨before, after, shown, first, silent⟩ := h
  obtain ⟨earlier, later⟩ := List.forall_mem_append.mp silent
  rw [Stage.Silent, Stage.hush, s.shown_setBubble, shown, Roster.setRow_of_first first]
  exact List.forall_mem_append.mpr ⟨earlier, List.forall_mem_cons.mpr ⟨rfl, later⟩⟩

/-! ## What a turn shows -/

/-- The bubble that a script shows. -/
def Script.bubble? (script : Script) : Option Bubble :=
  match script.block? with
  | some .say => some (.of .speech (script.label "message"))
  | some .think => some (.of .thought (script.label "message"))
  | _ => none

/-- What a performance leads to where nobody speaks: dialogue shows its bubble, and nothing else
shows one. -/
theorem Stage.Silent.perform (h : s.Silent) {actor : ActorId} {script : Script}
    {outcome : Outcome} (performed : s.perform actor script = (outcome, t)) :
    match outcome with
    | .speaking _ => ∃ bubble, script.bubble? = some bubble ∧ t.Speaks actor bubble
    | .done | .ignored | .repeating _ _ => t.Silent := by
  rw [Stage.perform] at performed
  cases found : s.actor? actor with
  | none =>
      rw [found] at performed
      cases performed
      exact h
  | some x =>
      have known : actor ∈ s.roster.ids := Roster.mem_ids_of_get? found
      rw [found] at performed
      cases shows : script.block? with
      | none =>
          rw [shows] at performed
          cases performed
          exact h
      | some block =>
          rw [shows] at performed
          cases block with
          | move | goTo =>
              cases performed
              exact h.congr (s.shown_travelTo _ _ _)
          | turnLeft | turnRight =>
              cases performed
              exact h.congr (s.shown_face _ _)
          | say | think =>
              cases performed
              refine ⟨_, ?_, h.speaks_setBubble known _⟩
              rw [Script.bubble?, shows]
          | repetition =>
              cases performed
              exact h

/-- What shows once something has come so far. -/
def Progress.Shown {α : Type} (speaker : α → ActorId) : Progress α × Stage → Prop
  | (.finished _, s) => s.Silent
  | (.speaking line rest, s) =>
    ∃ bubble, line.bubble? = some bubble ∧ s.Speaks (speaker rest) bubble

theorem Turn.shown_advanceFrames (instant : Float → Bool) (actor : ActorId) (breath : Breath)
    (frames : List Frame) (h : s.Silent) :
    Progress.Shown (fun _ => actor) (Turn.advanceFrames instant actor breath s frames) := by
  fun_induction Turn.advanceFrames instant actor breath s frames with
  | case1 => exact h
  | case2 _ _ _ _ ih => exact ih h
  | case3 _ _ _ _ _ ih => exact ih h
  | case4 _ _ _ _ _ _ ih => exact ih h
  | case5 _ _ script todo rounds body frames _ performed ih => exact ih (h.perform performed)
  | case6 _ _ script todo rounds body frames _ performed ih => exact ih (h.perform performed)
  | case7 _ _ script todo rounds body frames _ _ performed _ _ ih =>
      obtain ⟨_, -, speaks⟩ := h.perform performed
      exact ih speaks.silent_hush
  | case8 _ _ script todo rounds body frames _ _ performed => exact h.perform performed
  | case9 _ _ script todo rounds body frames _ _ _ performed ih => exact ih (h.perform performed)

theorem Turn.shown_advance (instant : Float → Bool) (breath : Breath) (turn : Turn)
    (h : s.Silent) : Progress.Shown Turn.actor (turn.advance instant breath s) := by
  have shown := Turn.shown_advanceFrames instant turn.actor breath turn.frames h
  rw [Turn.advance]
  generalize Turn.advanceFrames instant turn.actor breath s turn.frames = progress at shown
  rcases progress with ⟨_ | _, _⟩ <;> exact shown

namespace Pass

/-- The actor whose turn it is. -/
def speaker (pass : Pass) : ActorId := pass.turn.actor

theorem shown_start (instant : Float → Bool) (breath : Breath) (actors : List ActorId)
    (h : s.Silent) : Progress.Shown speaker (start instant breath actors s) := by
  induction actors generalizing breath s with
  | nil => exact h
  | cons actor waiting ih =>
      have shown := Turn.shown_advance instant breath (.of actor ((s.program? actor).getD [])) h
      rw [start]
      generalize Turn.advance instant breath _ s = progress at shown
      rcases progress with ⟨breath | ⟨line, rest⟩, next⟩
      · exact ih breath shown
      · exact shown

theorem shown_proceed (instant : Float → Bool) (breath : Breath) (pass : Pass) (h : s.Silent) :
    Progress.Shown speaker (pass.proceed instant breath s) := by
  have shown := Turn.shown_advance instant breath pass.turn h
  rw [proceed]
  generalize pass.turn.advance instant breath s = progress at shown
  rcases progress with ⟨breath | ⟨line, rest⟩, next⟩
  · exact shown_start instant breath pass.waiting shown
  · exact shown

/-- A pass that is taken up again clears its bubble first. -/
theorem shown_resume (instant : Float → Bool) (breath : Breath) (pass : Pass) {bubble : Bubble}
    (h : s.Speaks pass.speaker bubble) :
    Progress.Shown speaker (pass.resume instant breath s) :=
  pass.shown_proceed instant breath h.silent_hush

end Pass

/-! ## What a playback shows -/

/-- What shows while the loops of a playback are where they are. -/
inductive Playback.Showing (p : Playback) : Prop
  /-- No pass is under way, and nobody speaks. -/
  | nobody (outside : ∀ loop ∈ p.loops, loop.inPass = false) (silent : p.stage.Silent)
  /-- The one loop is suspended in dialogue, and its actor shows the bubble. -/
  | dialogue {loop : Loop} {line : Script} {pass : Pass} {bubble : Bubble}
    (loops : p.loops = [loop]) (suspension : loop.suspension = .speaking line pass)
    (said : line.bubble? = some bubble) (speaks : p.stage.Speaks pass.speaker bubble)

namespace Playback

variable {p q : Playback} {loop : Loop}

/-- Nothing shows otherwise while the loops and the actors' bubbles stay as they are. -/
theorem Showing.congr (h : p.Showing) (loops : q.loops = p.loops)
    (same : q.stage.roster.shown = p.stage.roster.shown) : q.Showing := by
  cases h with
  | nobody outside silent => exact .nobody (loops ▸ outside) (silent.congr same)
  | dialogue one suspension said speaks =>
      exact .dialogue (loops.trans one) suspension said (speaks.congr same)

theorem Showing.play (h : p.Showing) (oneLoop : p.OneLoop) : p.play.2.Showing := by
  by_cases running : p.state = .running
  · rwa [play_of_running running]
  · cases alive : p.loopActive with
    | true =>
        rw [play_of_active running alive]
        exact h.congr rfl rfl
    | false =>
        have none : p.loops = [] := by simpa [alive] using oneLoop.active
        rw [play_of_inactive running alive, none]
        cases h with
        | nobody outside silent => exact .nobody (by simp [Loop.inPass]) silent
        | dialogue loops => cases none.symm.trans loops

theorem Showing.stop (h : p.Showing) : p.stop.2.Showing := by
  by_cases running : p.state = .running
  · rw [stop_of_running running]
    exact h.congr rfl rfl
  · rwa [stop_of_idle running]

theorem roster_stop (p : Playback) : p.stop.2.stage.roster = p.stage.roster := by
  by_cases running : p.state = .running
  · rw [stop_of_running running]
    rfl
  · rw [stop_of_idle running]

/-- A pass that has come to its end leaves nobody speaking. -/
theorem showing_completePass (loop : Loop) (silent : p.stage.Silent) :
    (keep (p.completePass loop)).Showing := by
  by_cases reached : p.reachesLimit (loop.completed + 1) = true
  · rw [completePass_of_reached reached]
    exact .nobody (List.forall_mem_nil _) (silent.congr (congrArg Roster.shown (roster_stop _)))
  · rw [completePass_of_within reached]
    exact .nobody (by simp [keep, Loop.inPass]) silent

theorem showing_carryOn (loop : Loop) {progress : Progress Pass × Stage}
    (shown : Progress.Shown Pass.speaker progress) : (keep (p.carryOn loop progress)).Showing := by
  rcases progress with ⟨breath | ⟨line, pass⟩, stage⟩
  · exact showing_completePass loop shown
  · obtain ⟨bubble, said, speaks⟩ := shown
    exact .dialogue rfl rfl said speaks

/-- A loop that goes on clears the bubble that it has left, and may leave another. -/
theorem Showing.run (h : p.Showing) (loops : p.loops = [loop]) (breath : Breath) :
    (keep (p.run breath loop)).Showing := by
  rcases loop with ⟨number, completed, due, suspension⟩
  cases suspension with
  | speaking line pass =>
      cases h with
      | nobody outside => cases outside _ (loops ▸ List.mem_cons_self)
      | dialogue loops' suspension said speaks =>
          cases loops.symm.trans loops'
          cases suspension
          exact showing_carryOn _ (Pass.shown_resume p.instant breath pass speaks)
  | armed | resting =>
      cases h with
      | dialogue loops' suspension =>
          cases loops.symm.trans loops'
          cases suspension
      | nobody outside silent =>
          rw [Playback.run]
          dsimp only
          split
          · exact showing_carryOn _ (Pass.shown_start p.instant breath p.stage.roster.ids silent)
          · exact .nobody (List.forall_mem_nil _) silent

theorem Showing.resume (h : p.Showing) (oneLoop : p.OneLoop) (breath : Breath) (place : Nat) :
    (p.resume breath place).Showing := by
  cases found : p.loops[place]? with
  | none => rwa [resume_of_not_mem found]
  | some loop =>
      obtain ⟨loops, rfl⟩ := loops_of_found oneLoop.one found
      rw [resume_of_one loops]
      exact h.run loops breath

/-- Whether a move leaves performing to the loops. -/
def Move.IsAside : Move → Prop
  | .operate operation => operation.IsAside
  | .play | .stop | .resume _ _ | .elapse _ _ => True

instance : DecidablePred Move.IsAside
  | .operate operation => inferInstanceAs (Decidable operation.IsAside)
  | .play | .stop | .resume _ _ | .elapse _ _ => inferInstanceAs (Decidable True)

theorem Showing.apply (h : p.Showing) (oneLoop : p.OneLoop) {move : Move}
    (aside : move.IsAside) : (move.apply p).Showing := by
  cases move with
  | play => exact h.play oneLoop
  | stop => exact h.stop
  | resume breath place => exact h.resume oneLoop breath place
  | operate operation =>
      cases h with
      | nobody outside silent => exact .nobody outside (silent.aside aside)
      | dialogue loops suspension said speaks =>
          exact .dialogue loops suspension said (speaks.aside aside)
  | elapse time breath => exact h.congr rfl rfl

theorem Showing.after (h : p.Showing) (oneLoop : p.OneLoop) {moves : List Move}
    (aside : ∀ move ∈ moves, move.IsAside) : (p.after moves).Showing := by
  induction moves generalizing p with
  | nil => exact h
  | cons move rest ih =>
      obtain ⟨first, aside⟩ := List.forall_mem_cons.mp aside
      exact ih (h.apply oneLoop first) (oneLoop.apply move) aside

end Playback

end BlockStage
