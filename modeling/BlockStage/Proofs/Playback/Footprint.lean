import BlockStage.Proofs.Playback.Stepwise
import BlockStage.Proofs.Stage.Performances

/-!
# What a script may touch

Whatever a script is, performing it leaves the scripts, the selection and the spawn places alone,
and of other actors all that shows (`Stage.Framed`).  Turns and dialogue touch nothing but their own
actor and the log.  A journey may trade programs, but only those of its actor and of actors whose
flag with it changes (`performances_touch_their_own`).
-/

namespace BlockStage

variable {r : Roster} {s t : Stage} {id a : ActorId} {f : Actor → Actor} {script : Script}
  {contacts : List Contact} {position : Position}

/-! ## What others show -/

/-- What shows of all actors but one. -/
def Roster.around (r : Roster) (id : ActorId) :
    List (ActorId × Position × Float × Option Bubble) :=
  (r.actors.map fun x => (x.id, x.position, x.heading, x.bubble)).filter (·.1 ≠ id)

/-- A change of the first actor of an id is nothing to whoever does not look at this id. -/
theorem Roster.filter_map_updateFirst {α : Type} {g : Actor → ActorId × α}
    (named : ∀ x, (g x).1 = x.id) (kept : ∀ x, (f x).id = x.id) (l : List Actor) :
    ((Roster.updateFirst id f l).map g).filter (·.1 ≠ id) = (l.map g).filter (·.1 ≠ id) := by
  induction l with
  | nil => rfl
  | cons x rest ih =>
      rw [Roster.updateFirst]
      split
      · next found => simp [named, kept, found]
      · next other => simpa [named, other] using ih

theorem Roster.around_update (kept : ∀ x, (f x).id = x.id) :
    (r.update id f).around id = r.around id :=
  Roster.filter_map_updateFirst (fun _ => rfl) kept r.actors

/-- Contacts change nothing that shows. -/
theorem Stage.around_place (s : Stage) (id : ActorId) (position : Position) :
    (s.place id position).2.roster.around id = s.roster.around id := by
  by_cases known : id ∈ s.roster.ids
  · have same := Stage.map_settleAll (g := fun x => (x.id, x.position, x.heading, x.bubble))
      (fun _ _ _ => rfl) (s.moved id position) (s.contacts id position)
    rw [Stage.place_of_mem known, Roster.around, same]
    exact Roster.around_update fun _ => rfl
  · rw [Stage.place_of_not_mem known]

/-! ## Contacts -/

/-- Every contact of a placement is with an actor whose flag it changes. -/
theorem Stage.colliding_ne_of_mem_contacts (nodup : s.roster.ids.Nodup)
    (known : id ∈ s.roster.ids) {c : Contact} (mem : c ∈ s.contacts id position) :
    (s.place id position).2.colliding id c.other ≠ s.colliding id c.other := by
  obtain ⟨-, -, -, between⟩ := (Stage.mem_contacts nodup known).mp mem
  intro same
  rw [same] at between
  cases flag : s.colliding id c.other <;> rw [flag] at between <;> cases between

/-- An actor is in no contact if its flag stays, or all flags if it is the one that is placed. -/
theorem Stage.not_names_of_mem_contacts (nodup : s.roster.ids.Nodup)
    (same : ∀ other, (a = other ∨ a = id) →
      (s.place id position).2.colliding id other = s.colliding id other) :
    ∀ c ∈ s.contacts id position, ¬ c.Names a := by
  intro c mem named
  obtain ⟨mover, known, -, -⟩ := Stage.within_of_mem_contacts mem
  refine Stage.colliding_ne_of_mem_contacts nodup known mem (same c.other ?_)
  rcases named with named | named
  · exact .inr (named.symm.trans mover)
  · exact .inl named.symm

/-! ## The frame of a performance -/

/-- What an actor leaves alone in whatever it does, if that brings about no contacts but these. -/
structure Stage.Framed (s : Stage) (id : ActorId) (contacts : List Contact) (t : Stage) : Prop where
  registry : t.registry = s.registry
  selected : t.selected = s.selected
  spawner : t.roster.spawner = s.roster.spawner
  /-- Who is there, in which order and by which name. -/
  badges : t.roster.badges = s.roster.badges
  /-- Where others are, which way they look and what they say. -/
  around : t.roster.around id = s.roster.around id
  flags : ∀ a b, a ≠ id → b ≠ id → t.collisions.flag? (.of a b) = s.collisions.flag? (.of a b)
  programs : ∀ a, (∀ c ∈ contacts, ¬ c.Names a) →
    t.program? a = s.program? a ∧ t.saved? a = s.saved? a

theorem Stage.framed_refl (s : Stage) (id : ActorId) (contacts : List Contact) :
    s.Framed id contacts s :=
  ⟨rfl, rfl, rfl, rfl, rfl, fun _ _ _ _ => rfl, fun _ _ => ⟨rfl, rfl⟩⟩

theorem Stage.framed_place (s : Stage) (id : ActorId) (position : Position) (event : Event) :
    s.Framed id (s.contacts id position) ((s.place id position).2.record event) where
  registry := s.registry_place id position
  selected := s.selected_place id position
  spawner := congrArg (·.2.1) (s.backdrop_place id position)
  badges := s.badges_place id position
  around := s.around_place id position
  flags _ _ left right := Stage.flag?_place_of_ne left right s position
  programs _ unnamed := Stage.programs_place_of_not_names unnamed

/-- What actors show has nothing to do with their programs. -/
theorem Stage.Alike.programs (h : s.Alike t) (a : ActorId) :
    t.program? a = s.program? a ∧ t.saved? a = s.saved? a := by
  have same {α : Type} {g : Actor → α} (kept : ∀ x, g x.bare = g x) :
      (t.actor? a).map g = (s.actor? a).map g := by
    have listed (u : Stage) : (u.roster.actors.map fun x => (x.id, g x)) =
        (u.roster.actors.map Actor.bare).map fun x => (x.id, g x) := by
      rw [List.map_map]
      exact List.map_congr_left fun x _ => Prod.ext rfl (kept x).symm
    refine Roster.map_get?_congr ?_ a
    rw [listed, listed, h.actors]
  have saved (u : Stage) : u.saved? a = ((u.actor? a).map (·.saved)).bind fun held => held := by
    rw [Option.bind_map]
    rfl
  refine ⟨same fun _ => rfl, ?_⟩
  rw [saved, saved, same fun _ => rfl]

/-- What an actor shows itself is its own business. -/
theorem Stage.framed_update (kept : ∀ x, (f x).bare = x.bare) (s : Stage) (id : ActorId)
    (contacts : List Contact) (log : EventLog) :
    s.Framed id contacts { s with roster := s.roster.update id f, log } where
  registry := rfl
  selected := rfl
  spawner := rfl
  badges := (s.alike_update id kept).badges
  around := Roster.around_update fun x => Actor.id_eq_of_bare (kept x)
  flags _ _ _ _ := rfl
  programs a _ := (s.alike_update id kept).programs a

/-- Turning touches a heading and the log. -/
theorem Stage.turnTo_eq (s : Stage) (id : ActorId) (heading : Float) :
    s.turnTo id heading = { s with
      roster := s.roster.update id fun x => { x with heading }
      log := s.log.record (.turned id heading) } := rfl

/-- Speaking touches a bubble and the log. -/
theorem Stage.speak_eq (s : Stage) (id : ActorId) (style : BubbleStyle) (message : String) :
    s.speak id style message = { s with
      roster := s.roster.update id fun x => { x with bubble := some (.of style message) }
      log := s.log.record (.spoke id style message) } := rfl

theorem Stage.contacts_perform_of_some {position : Position}
    (leads : s.destination? id script = some position) :
    (Operation.perform id script).contacts s = s.contacts id position := by
  rw [Operation.contacts, Operation.placement?, leads]
  rfl

/-- **Every performance keeps to its frame.** -/
theorem Stage.Performed.framed (h : s.Performed id script t) :
    s.Framed id ((Operation.perform id script).contacts s) t := by
  cases h with
  | still => exact s.framed_refl id _
  | travelled _ leads known travel =>
      rw [Stage.contacts_perform_of_some leads]
      exact s.framed_place id _ _
  | turned _ heading =>
      rw [Stage.turnTo_eq]
      refine Stage.framed_update ?_ s id _ _
      exact fun _ => rfl
  | spoke _ style message =>
      rw [Stage.speak_eq]
      refine Stage.framed_update ?_ s id _ _
      exact fun _ => rfl

/-! ## What a script may touch -/

/-- Who keeps its flag with the actor that performs is in no contact with it; and that actor is in
none if it keeps all flags. -/
theorem Stage.not_names_of_perform (nodup : s.roster.ids.Nodup)
    (same : ∀ other, (a = other ∨ a = id) →
      (s.perform id script).2.colliding id other = s.colliding id other) :
    ∀ c ∈ (Operation.perform id script).contacts s, ¬ c.Names a := by
  have alike := s.alike_perform id script
  cases leads : s.destination? id script with
  | none =>
      rw [Operation.contacts, Operation.placement?, leads]
      exact List.forall_mem_nil _
  | some position =>
      rw [leads] at alike
      have flags : (s.perform id script).2.collisions = (s.place id position).2.collisions :=
        alike.collisions
      rw [Stage.contacts_perform_of_some leads]
      refine Stage.not_names_of_mem_contacts nodup fun other near => ?_
      rw [Stage.colliding, ← flags]
      exact same other near

/-- The headings and bubbles of all actors. -/
def Roster.looks (r : Roster) : List (ActorId × Float × Option Bubble) :=
  r.actors.map fun x => (x.id, x.heading, x.bubble)

theorem Stage.looks_place (s : Stage) (id : ActorId) (position : Position) :
    (s.place id position).2.roster.looks = s.roster.looks :=
  Stage.map_place (fun _ _ _ => rfl) (fun _ _ => rfl) s id position

theorem Stage.Performed.of_turn (h : s.Performed id script t) (turn : script.action ∈ turnActions) :
    t = s ∨ ∃ heading log,
      t = { s with roster := s.roster.update id fun x => { x with heading }, log } := by
  cases h with
  | still => exact .inl rfl
  | travelled journey => exact absurd turn (not_mem_of_journey _ journey).1
  | turned _ heading => exact .inr ⟨heading, _, s.turnTo_eq id heading⟩
  | spoke dialogue => exact absurd turn (not_mem_of_dialogue _ dialogue).2

theorem Stage.Performed.of_dialogue (h : s.Performed id script t)
    (dialogue : script.action ∈ dialogueActions) :
    t = s ∨ ∃ bubble log,
      t = { s with roster := s.roster.update id fun x => { x with bubble }, log } := by
  cases h with
  | still => exact .inl rfl
  | travelled journey => exact absurd dialogue (not_mem_of_journey _ journey).2
  | turned turn => exact absurd dialogue (not_mem_of_turn _ turn).2
  | spoke _ style message => exact .inr ⟨_, _, s.speak_eq id style message⟩

theorem Stage.Performed.of_journey (h : s.Performed id script t)
    (journey : script.action ∈ journeyActions) : t.roster.looks = s.roster.looks := by
  cases h with
  | still => rfl
  | travelled _ _ known travel => exact s.looks_place id _
  | turned turn => exact absurd journey (not_mem_of_turn _ turn).1
  | spoke dialogue => exact absurd journey (not_mem_of_dialogue _ dialogue).1

theorem Stage.Performed.of_other (h : s.Performed id script t)
    (other : script.action ∉ journeyActions ++ turnActions ++ dialogueActions) : t = s := by
  rw [List.mem_append, List.mem_append, not_or, not_or] at other
  obtain ⟨⟨noJourney, noTurn⟩, noDialogue⟩ := other
  cases h with
  | still => rfl
  | travelled journey => exact absurd journey noJourney
  | turned turn => exact absurd turn noTurn
  | spoke dialogue => exact absurd dialogue noDialogue

/-- **A script touches only what its block may touch.**  Whatever script an actor performs, the
scripts, the selection, the spawn places and who is there stay as they are, and so do places,
headings and bubbles of the others, and the flags between others; and programs change only in
contacts, which are the actor's own.  A turn changes nothing but the actor's heading and the log,
dialogue nothing but its bubble and the log; a journey keeps all headings and bubbles, and any other
script keeps the whole stage.  As long as no two actors share an id, an actor whose flag with the
one that performs does not change keeps its programs, and if no flag does, so does the one that
performs. -/
theorem performances_touch_their_own (p : Playback) (reached : p.Reached) (id : ActorId)
    (script : Script) :
    let s := p.stage
    let t := (s.perform id script).2
    s.Framed id ((Operation.perform id script).contacts s) t ∧
    (script.action ∈ turnActions → t = s ∨ ∃ heading log,
      t = { s with roster := s.roster.update id fun x => { x with heading }, log }) ∧
    (script.action ∈ dialogueActions → t = s ∨ ∃ bubble log,
      t = { s with roster := s.roster.update id fun x => { x with bubble }, log }) ∧
    (script.action ∈ journeyActions → t.roster.looks = s.roster.looks) ∧
    (script.action ∉ journeyActions ++ turnActions ++ dialogueActions → t = s) ∧
    (s.roster.actors.length ≤ UInt32.size →
      (∀ a, a ≠ id → t.colliding id a = s.colliding id a →
        t.program? a = s.program? a ∧ t.saved? a = s.saved? a) ∧
      ((∀ a, t.colliding id a = s.colliding id a) →
        t.program? id = s.program? id ∧ t.saved? id = s.saved? id)) := by
  intro s t
  have performed : s.Performed id script t := s.performed_perform id script
  have framed := performed.framed
  refine ⟨framed, performed.of_turn, performed.of_dialogue, performed.of_journey,
    performed.of_other, fun few => ?_⟩
  have nodup := reached.wellFormed.nodup few
  constructor
  · intro a ne same
    refine framed.programs a (Stage.not_names_of_perform nodup fun other near => ?_)
    rcases near with rfl | here
    · exact same
    · exact absurd here ne
  · intro same
    exact framed.programs id (Stage.not_names_of_perform nodup fun other _ => same other)

/-- The third actor jumps from the first to the fourth, and the second stays beside it. -/
def crossing : Script :=
  Block.goTo.instantiate ⟨"cross"⟩ (.ofList [("x", .number 200), ("y", .number 100)])

theorem bystander_keeps_program : amidst.Reached ∧
    amidst.stage.roster.actors.length ≤ UInt32.size ∧
    (amidst.stage.perform ⟨3⟩ crossing).2.colliding ⟨3⟩ ⟨2⟩ = amidst.stage.colliding ⟨3⟩ ⟨2⟩ ∧
    (amidst.stage.perform ⟨3⟩ crossing).2.colliding ⟨3⟩ ⟨1⟩ ≠ amidst.stage.colliding ⟨3⟩ ⟨1⟩ ∧
    (amidst.stage.perform ⟨3⟩ crossing).2.program? ⟨2⟩ = amidst.stage.program? ⟨2⟩ := by
  have reached : amidst.Reached := ⟨_, _, _, .start _, rfl⟩
  have few : amidst.stage.roster.actors.length ≤ UInt32.size := by decide +kernel
  have stays : (amidst.stage.perform ⟨3⟩ crossing).2.colliding ⟨3⟩ ⟨2⟩ =
      amidst.stage.colliding ⟨3⟩ ⟨2⟩ := by decide +kernel
  obtain ⟨-, -, -, -, -, kept⟩ := performances_touch_their_own amidst reached ⟨3⟩ crossing
  exact ⟨reached, few, stays, by decide +kernel, ((kept few).1 ⟨2⟩ (by decide) stays).1⟩

end BlockStage
