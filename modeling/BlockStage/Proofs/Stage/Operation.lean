import BlockStage.Playback.Pass
import BlockStage.Proofs.Roster

/-!
# Histories of a stage

Whatever happens to a stage is an `Operation`: an edit, a placement, the performance of one
script, or the end of a dialogue.  A whole turn or pass adds nothing to these: up to its next
wait it performs scripts and clears bubbles (`Act.exists_operations`), and `Act` names such
stretches so that a history can also be told in whole passes.

`Operation.step` says what one operation can do to the parts of a stage that edits and
collisions read.  Headings, bubbles, the selection and the log are not among them
(`Stage.Alike`), so all that is left is a creation, a placement, a submission, a deletion, or
nothing; and `Operation.placement?` tells beforehand which actor is placed, and where.
-/

namespace BlockStage

/-! ## Operations -/

/-- One thing that is done to a stage. -/
inductive Operation where
  | create
  | place (actor : ActorId) (position : Position)
  | face (actor : ActorId) (heading : Float)
  | select (actor : ActorId)
  | submit (script : Script)
  | delete (id : ScriptId)
  | nudge (script : Script)
  | perform (actor : ActorId) (script : Script)
  /-- The dialogue of an actor is over. -/
  | hush (actor : ActorId)
  /-- An entry of somebody else is logged. -/
  | note (text : String)
  /-- The entries of the event log are taken out. -/
  | take

/-- The stage after an operation. -/
def Operation.apply : Operation → Stage → Stage
  | .create, s => s.create.2
  | .place actor position, s => (s.place actor position).2
  | .face actor heading, s => (s.face actor heading).2
  | .select actor, s =>
    match s.select actor with
    | .ok next => next
    | .error _ => s
  | .submit script, s => (s.submit script).2
  | .delete id, s => (s.delete id).2
  | .nudge script, s => (s.nudge script).2
  | .perform actor script, s => (s.perform actor script).2
  | .hush actor, s => s.hush actor
  | .note text, s => s.record (.note text)
  | .take, s => s.takeEvents.2

/-- The stage after some operations. -/
def Stage.after (s : Stage) (operations : List Operation) : Stage :=
  operations.foldl (fun s operation => operation.apply s) s

@[simp] theorem Stage.after_nil (s : Stage) : s.after [] = s := rfl

@[simp] theorem Stage.after_cons (s : Stage) (operation : Operation) (rest : List Operation) :
    s.after (operation :: rest) = (operation.apply s).after rest := rfl

theorem Stage.after_append (s : Stage) (first second : List Operation) :
    s.after (first ++ second) = (s.after first).after second := List.foldl_append

@[simp] theorem Stage.after_concat (s : Stage) (operations : List Operation)
    (operation : Operation) :
    s.after (operations ++ [operation]) = operation.apply (s.after operations) :=
  s.after_append operations [operation]

/-! ## What edits and collisions read -/

/-- An actor without what it shows: which way it looks and what it says. -/
def Actor.bare (x : Actor) : Actor := { x with heading := defaultHeading, bubble := none }

/-- Two stages that differ in headings, bubbles, selection and log at most. -/
structure Stage.Alike (s t : Stage) : Prop where
  registry : t.registry = s.registry
  collisions : t.collisions = s.collisions
  actors : t.roster.actors.map Actor.bare = s.roster.actors.map Actor.bare

theorem Stage.Alike.refl (s : Stage) : s.Alike s := ⟨rfl, rfl, rfl⟩

theorem Stage.Alike.trans {s t u : Stage} (first : s.Alike t) (second : t.Alike u) : s.Alike u :=
  ⟨second.registry.trans first.registry, second.collisions.trans first.collisions,
    second.actors.trans first.actors⟩

theorem Stage.Alike.symm {s t : Stage} (h : s.Alike t) : t.Alike s :=
  ⟨h.registry.symm, h.collisions.symm, h.actors.symm⟩

theorem Stage.Alike.ids {s t : Stage} (h : s.Alike t) : t.roster.ids = s.roster.ids := by
  have same := congrArg (List.map Actor.id) h.actors
  rw [List.map_map, List.map_map] at same
  exact same

/-- Every actor was there before, with the same id, place and programs. -/
theorem Stage.Alike.exists_bare {s t : Stage} (h : s.Alike t) {y : Actor}
    (mem : y ∈ t.roster.actors) : ∃ x ∈ s.roster.actors, x.bare = y.bare := by
  have bare : y.bare ∈ s.roster.actors.map Actor.bare := h.actors ▸ List.mem_map_of_mem mem
  exact List.mem_map.mp bare

/-- Alike stages find the same programs. -/
theorem Stage.Alike.exists_get? {s t : Stage} (h : s.Alike t) {a : ActorId} {y : Actor}
    (found : t.roster.get? a = some y) :
    ∃ x, s.roster.get? a = some x ∧ x.bare = y.bare := by
  have same : (t.roster.get? a).map Actor.bare = (s.roster.get? a).map Actor.bare := by
    have finds : ∀ r : Roster,
        (r.get? a).map Actor.bare = (r.actors.map Actor.bare).find? (·.id = a) := by
      intro r
      rw [List.find?_map]
      rfl
    rw [finds, finds, h.actors]
  rw [found, Option.map_some] at same
  obtain ⟨x, was, bare⟩ := Option.map_eq_some_iff.mp same.symm
  exact ⟨x, was, bare⟩

theorem Actor.program_eq_of_bare {x y : Actor} (h : x.bare = y.bare) : x.program = y.program :=
  show x.bare.program = y.bare.program from congrArg Actor.program h

theorem Actor.saved_eq_of_bare {x y : Actor} (h : x.bare = y.bare) : x.saved = y.saved :=
  show x.bare.saved = y.bare.saved from congrArg Actor.saved h

theorem Actor.id_eq_of_bare {x y : Actor} (h : x.bare = y.bare) : x.id = y.id :=
  show x.bare.id = y.bare.id from congrArg Actor.id h

theorem Stage.alike_record (s : Stage) (event : Event) : s.Alike (s.record event) :=
  ⟨rfl, rfl, rfl⟩

theorem Stage.alike_takeEvents (s : Stage) : s.Alike s.takeEvents.2 := ⟨rfl, rfl, rfl⟩

/-- Turning an actor, or showing a bubble beside it, changes what it shows only. -/
theorem Stage.alike_update (s : Stage) (id : ActorId) {f : Actor → Actor}
    (kept : ∀ x, (f x).bare = x.bare) : s.Alike { s with roster := s.roster.update id f } :=
  ⟨rfl, rfl, Roster.map_updateFirst kept s.roster.actors⟩

theorem Stage.alike_face (s : Stage) (id : ActorId) (heading : Float) :
    s.Alike (s.face id heading).2 := s.alike_update id fun _ => rfl

theorem Stage.alike_setBubble (s : Stage) (id : ActorId) (bubble : Option Bubble) :
    s.Alike (s.setBubble id bubble) := s.alike_update id fun _ => rfl

theorem Stage.alike_select (s : Stage) (id : ActorId) :
    s.Alike (Operation.apply (.select id) s) := by
  rw [Operation.apply, Stage.select]
  by_cases known : s.roster.has id = true
  · rw [if_pos known]
    exact ⟨rfl, rfl, rfl⟩
  · rw [if_neg known]
    exact .refl s

theorem Stage.alike_turnTo (s : Stage) (id : ActorId) (heading : Float) :
    s.Alike (s.turnTo id heading) := (s.alike_face id heading).trans (alike_record _ _)

theorem Stage.alike_speak (s : Stage) (id : ActorId) (style : BubbleStyle) (message : String) :
    s.Alike (s.speak id style message) := (s.alike_record _).trans (alike_setBubble _ _ _)

theorem Stage.alike_travelTo (s : Stage) (id : ActorId) (travel : Travel) (position : Position) :
    (s.place id position).2.Alike (s.travelTo id travel position) := by
  rw [Stage.travelTo, Stage.recordPosition]
  split
  · exact alike_record _ _
  · exact .refl _

/-! ## Placements -/

/-- The place that so many steps take an actor to. -/
def Actor.ahead (x : Actor) (steps : Float) : Position :=
  let (dx, dy) := Plane.direction x.heading
  ⟨x.position.x + steps * dx, x.position.y + steps * dy⟩

/-- Where a script places the actor that performs it, if it places it at all. -/
def Stage.destination? (s : Stage) (id : ActorId) (script : Script) : Option Position :=
  match s.actor? id, script.block? with
  | some actor, some .move => some (actor.ahead (script.numberOrZero "steps"))
  | some _, some .goTo => some ⟨script.numberOrZero "x", script.numberOrZero "y"⟩
  | _, _ => none

/-- Where the preview of a script places an actor, if it places it at all. -/
def Stage.preview? (s : Stage) (id : ActorId) (script : Script) : Option Position :=
  if script.category = .motion then
    match s.actor? id, script.block? with
    | some actor, some .move => some (actor.ahead nudgeSteps)
    | _, _ => none
  else none

/-- The actor that an operation places, and where. -/
def Operation.placement? (s : Stage) : Operation → Option (ActorId × Position)
  | .place actor position => some (actor, position)
  | .perform actor script => (s.destination? actor script).map (actor, ·)
  | .nudge script => s.selected.bind fun actor => (s.preview? actor script).map (actor, ·)
  | .create | .face _ _ | .select _ | .submit _ | .delete _ | .hush _ | .note _ | .take => none

/-- The stage after a placement, if there is one. -/
def Stage.placedAt (s : Stage) : Option (ActorId × Position) → Stage
  | some (id, position) => (s.place id position).2
  | none => s

/-- A script changes nothing but the place of its actor. -/
theorem Stage.alike_perform (s : Stage) (id : ActorId) (script : Script) :
    (s.placedAt ((s.destination? id script).map (id, ·))).Alike (s.perform id script).2 := by
  rw [Stage.perform, Stage.destination?]
  cases found : s.actor? id with
  | none => exact .refl s
  | some actor =>
      obtain rfl : actor.id = id := Roster.id_of_get? found
      cases script.block? with
      | none => exact .refl s
      | some block =>
          cases block with
          | move => exact s.alike_travelTo actor.id .move _
          | goTo => exact s.alike_travelTo actor.id .goTo _
          | turnLeft => exact s.alike_turnTo actor.id _
          | turnRight => exact s.alike_turnTo actor.id _
          | say => exact s.alike_speak actor.id .speech _
          | think => exact s.alike_speak actor.id .thought _
          | repetition => exact .refl s

/-- A preview changes nothing but the place of an actor. -/
theorem Stage.alike_nudgeActor (s : Stage) (id : ActorId) (script : Script) :
    (s.placedAt ((s.preview? id script).map (id, ·))).Alike (s.nudgeActor id script).2 := by
  rw [Stage.nudgeActor, Stage.preview?]
  split
  · cases found : s.actor? id with
    | none => exact .refl s
    | some actor =>
        obtain rfl : actor.id = id := Roster.id_of_get? found
        cases script.block? with
        | none => exact .refl s
        | some block =>
            cases block with
            | move => exact s.alike_travelTo actor.id .nudge _
            | turnLeft => exact s.alike_turnTo actor.id _
            | turnRight => exact s.alike_turnTo actor.id _
            | goTo | say | think | repetition => exact .refl s
  · exact .refl s

theorem Stage.alike_nudge (s : Stage) (script : Script) :
    (s.placedAt ((Operation.nudge script).placement? s)).Alike (s.nudge script).2 := by
  rw [Operation.placement?, Stage.nudge]
  cases s.selected with
  | none => exact .refl s
  | some actor => exact s.alike_nudgeActor actor script

/-! ## What an operation can change -/

/-- Whether an operation leaves the scripts alone, and who is on the stage. -/
def Operation.isQuiet : Operation → Bool
  | .create | .submit _ | .delete _ => false
  | .place _ _ | .face _ _ | .select _ | .nudge _ | .perform _ _ | .hush _ | .note _ | .take => true

/-- `t` comes from `s` by an operation, headings, bubbles, selection and log apart: a quiet one
makes its placement, if it has one, and no more. -/
inductive Stage.Step (s t : Stage) : Operation → Prop
  | created (alike : s.create.2.Alike t) : Stage.Step s t .create
  | submitted (script : Script) (alike : (s.submit script).2.Alike t) :
    Stage.Step s t (.submit script)
  | deleted (id : ScriptId) (alike : (s.delete id).2.Alike t) : Stage.Step s t (.delete id)
  | placed {operation : Operation} (quiet : operation.isQuiet = true)
    (alike : (s.placedAt (operation.placement? s)).Alike t) : Stage.Step s t operation

/-- **What an operation does to a stage.** -/
theorem Operation.step (operation : Operation) (s : Stage) :
    s.Step (operation.apply s) operation := by
  cases operation with
  | create => exact .created (.refl _)
  | place actor position => exact .placed rfl (.refl _)
  | face actor heading => exact .placed rfl (s.alike_face actor heading)
  | select actor => exact .placed rfl (s.alike_select actor)
  | submit script => exact .submitted script (.refl _)
  | delete id => exact .deleted id (.refl _)
  | nudge script => exact .placed rfl (s.alike_nudge script)
  | perform actor script => exact .placed rfl (s.alike_perform actor script)
  | hush actor => exact .placed rfl (s.alike_setBubble actor none)
  | note text => exact .placed rfl (s.alike_record _)
  | take => exact .placed rfl s.alike_takeEvents

/-- The ways in which `t` can come from `s`, headings, bubbles, selection and log apart. -/
inductive Stage.Change (s t : Stage) : Prop
  | still (alike : s.Alike t)
  | created (alike : s.create.2.Alike t)
  | placed (id : ActorId) (position : Position) (alike : (s.place id position).2.Alike t)
  | submitted (script : Script) (alike : (s.submit script).2.Alike t)
  | deleted (id : ScriptId) (alike : (s.delete id).2.Alike t)

theorem Stage.Step.change {s t : Stage} {operation : Operation} (step : s.Step t operation) :
    s.Change t := by
  cases step with
  | created alike => exact .created alike
  | submitted script alike => exact .submitted script alike
  | deleted id alike => exact .deleted id alike
  | placed _ alike =>
      cases placement : operation.placement? s with
      | none =>
          rw [placement] at alike
          exact .still alike
      | some place =>
          rw [placement] at alike
          exact .placed place.1 place.2 alike

/-- **What one operation can do to a stage.** -/
theorem Operation.change (operation : Operation) (s : Stage) : s.Change (operation.apply s) :=
  (operation.step s).change

/-! ## Turns and passes -/

/-- Whether a turn does this: it performs scripts and ends dialogue. -/
def Operation.InTurn : Operation → Prop
  | .perform _ _ | .hush _ => True
  | _ => False

/-- `t` is reached from `s` by what a turn does. -/
def Stage.Plays (s t : Stage) : Prop :=
  ∃ operations : List Operation, (∀ o ∈ operations, o.InTurn) ∧ t = s.after operations

theorem Stage.Plays.refl (s : Stage) : s.Plays s := ⟨[], List.forall_mem_nil _, rfl⟩

theorem Stage.Plays.trans {s t u : Stage} (first : s.Plays t) (second : t.Plays u) : s.Plays u := by
  obtain ⟨before, inTurn, rfl⟩ := first
  obtain ⟨later, inTurn', rfl⟩ := second
  refine ⟨before ++ later, fun o mem => ?_, (s.after_append before later).symm⟩
  exact (List.mem_append.mp mem).elim (inTurn o) (inTurn' o)

theorem Stage.plays_perform (s : Stage) (actor : ActorId) (script : Script) :
    s.Plays (s.perform actor script).2 :=
  ⟨[.perform actor script], fun o mem => by rw [List.mem_singleton.mp mem]; trivial, rfl⟩

theorem Stage.plays_hush (s : Stage) (actor : ActorId) : s.Plays (s.hush actor) :=
  ⟨[.hush actor], fun o mem => by rw [List.mem_singleton.mp mem]; trivial, rfl⟩

theorem Stage.Plays.of_perform {s t u : Stage} {actor : ActorId} {script : Script}
    {outcome : Outcome} (performed : s.perform actor script = (outcome, t)) (rest : t.Plays u) :
    s.Plays u := by
  have first := s.plays_perform actor script
  rw [performed] at first
  exact first.trans rest

theorem Turn.plays_advanceFrames (instant : Float → Bool) (actor : ActorId) (breath : Breath)
    (s : Stage) (frames : List Frame) :
    s.Plays (Turn.advanceFrames instant actor breath s frames).2 := by
  fun_induction Turn.advanceFrames instant actor breath s frames with
  | case1 => exact .refl _
  | case2 _ _ _ _ ih => exact ih
  | case3 _ _ _ _ _ ih => exact ih
  | case4 _ _ _ _ _ _ ih => exact ih
  | case5 _ _ _ _ _ _ _ _ performed ih => exact .of_perform performed ih
  | case6 _ _ _ _ _ _ _ _ performed ih => exact .of_perform performed ih
  | case7 _ _ _ _ _ _ _ _ next performed _ _ ih =>
      exact .of_perform performed ((next.plays_hush actor).trans ih)
  | case8 _ _ _ _ _ _ _ _ _ performed => exact .of_perform performed (.refl _)
  | case9 _ _ _ _ _ _ _ _ _ _ performed ih => exact .of_perform performed ih

theorem Turn.plays_advance (instant : Float → Bool) (breath : Breath) (turn : Turn) (s : Stage) :
    s.Plays (turn.advance instant breath s).2 := by
  have advanced := Turn.plays_advanceFrames instant turn.actor breath s turn.frames
  rw [Turn.advance]
  split
  · next stopped => rwa [stopped] at advanced
  · next stopped => rwa [stopped] at advanced

theorem Pass.plays_start (instant : Float → Bool) (breath : Breath) (actors : List ActorId)
    (s : Stage) : s.Plays (Pass.start instant breath actors s).2 := by
  induction actors generalizing breath s with
  | nil => exact .refl s
  | cons actor waiting ih =>
      have advanced :=
        Turn.plays_advance instant breath (.of actor ((s.program? actor).getD [])) s
      rw [Pass.start]
      split
      · next stopped =>
        rw [stopped] at advanced
        exact advanced.trans (ih _ _)
      · next stopped => rwa [stopped] at advanced

theorem Pass.plays_proceed (instant : Float → Bool) (breath : Breath) (pass : Pass) (s : Stage) :
    s.Plays (pass.proceed instant breath s).2 := by
  have advanced := Turn.plays_advance instant breath pass.turn s
  rw [Pass.proceed]
  split
  · next stopped =>
    rw [stopped] at advanced
    exact advanced.trans (Pass.plays_start _ _ _ _)
  · next stopped => rwa [stopped] at advanced

theorem Pass.plays_resume (instant : Float → Bool) (breath : Breath) (pass : Pass) (s : Stage) :
    s.Plays (pass.resume instant breath s).2 :=
  (s.plays_hush pass.turn.actor).trans (Pass.plays_proceed _ _ _ _)

/-! ## Acts -/

/-- One operation, or a stretch of a pass or of a program from one wait to the next.  Which pass
is taken up is left open, so several may be under way at a time and come in any order. -/
inductive Act where
  | operate (operation : Operation)
  | beginProgram (instant : Float → Bool) (breath : Breath) (actor : ActorId)
      (program : List Script)
  | beginPass (instant : Float → Bool) (breath : Breath)
  | resumePass (instant : Float → Bool) (breath : Breath) (pass : Pass)

/-- The stage after an act. -/
def Act.apply : Act → Stage → Stage
  | .operate operation, s => operation.apply s
  | .beginProgram instant breath actor program, s =>
    (Pass.proceed instant breath ⟨.of actor program, []⟩ s).2
  | .beginPass instant breath, s => (Pass.start instant breath s.roster.ids s).2
  | .resumePass instant breath pass, s => (pass.resume instant breath s).2

/-- The stage after some acts. -/
def Stage.afterActs (s : Stage) (acts : List Act) : Stage :=
  acts.foldl (fun s act => act.apply s) s

@[simp] theorem Stage.afterActs_concat (s : Stage) (acts : List Act) (act : Act) :
    s.afterActs (acts ++ [act]) = act.apply (s.afterActs acts) := List.foldl_append

/-- **A stretch is made of performances and ends of dialogue.** -/
theorem Act.exists_operations (act : Act) (s : Stage) :
    (∃ operation, act = .operate operation) ∨ s.Plays (act.apply s) := by
  cases act with
  | operate operation => exact .inl ⟨operation, rfl⟩
  | beginProgram instant breath actor program => exact .inr (Pass.plays_proceed _ _ _ s)
  | beginPass instant breath => exact .inr (Pass.plays_start _ _ _ s)
  | resumePass instant breath pass => exact .inr (Pass.plays_resume _ _ _ s)

/-- So every stage that acts lead to is one that operations lead to. -/
theorem Stage.exists_operations_afterActs (s : Stage) (acts : List Act) :
    ∃ operations, s.afterActs acts = s.after operations := by
  induction acts generalizing s with
  | nil => exact ⟨[], rfl⟩
  | cons act rest ih =>
      obtain ⟨later, same⟩ := ih (act.apply s)
      rcases act.exists_operations s with ⟨operation, rfl⟩ | ⟨operations, -, played⟩
      · exact ⟨operation :: later, same⟩
      · refine ⟨operations ++ later, ?_⟩
        rw [Stage.after_append, ← played]
        exact same

end BlockStage
