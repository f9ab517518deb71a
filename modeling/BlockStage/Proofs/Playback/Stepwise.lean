import BlockStage.Proofs.Collision.Exactness
import BlockStage.Proofs.Playback.Numbering
import BlockStage.Proofs.Stage.Records
import BlockStage.Proofs.Swap.PileUp

/-!
# Placements step by step

A placement compares its actor with all others before any contact takes effect.  It might as well
go along the roster and let each contact take effect, and be logged, before it looks at the next
actor (`Stage.placeStepwise`), as a contact changes neither places nor flags, which are all that
later comparisons read: so the two come to the same stage (`Stage.place_eq_placeStepwise`).  For
the same reason a placement that is repeated finds all flags as it would set them, and nothing
happens (`Stage.place_place`).
-/

namespace BlockStage

variable {s t : Stage} {r : Roster} {id mover other a : ActorId} {position p q : Position}
  {others : List Actor} {table : CollisionTable}

/-! ## One actor after another -/

/-- An actor at `p` is compared with one at `q`: the flag of the two is brought up to date, and if
it has changed, their contact takes effect. -/
def Stage.compareWith (s : Stage) (mover : ActorId) (p : Position) (other : ActorId)
    (q : Position) : Stage :=
  let (edge, collisions) := s.collisions.update (.of mover other) (p.collides q)
  match edge with
  | some edge => { s with collisions }.settle ⟨mover, other, edge⟩
  | none => { s with collisions }

/-- An actor is compared with the `i`-th one, unless it is that itself; both are where the stage
has them by now. -/
def Stage.meet (mover : ActorId) (s : Stage) (i : Nat) : Stage :=
  match s.actor? mover, s.roster.actors[i]? with
  | some x, some y =>
    if y.id = mover then s else s.compareWith mover x.position y.id y.position
  | _, _ => s

/-- Places an actor and then goes along the roster. Tells whether the id has an actor. -/
def Stage.placeStepwise (s : Stage) (id : ActorId) (position : Position) : Bool × Stage :=
  match s.roster.place id position with
  | (true, roster) =>
    (true, (List.range roster.actors.length).foldl (Stage.meet id) { s with roster })
  | (false, _) => (false, s)

/-! ## Contacts do not meddle with comparisons -/

/-- It does not matter whether flags are written before contacts or after them. -/
theorem Stage.settleAll_collisions (s : Stage) (contacts : List Contact)
    (collisions : CollisionTable) :
    { s.settleAll contacts with collisions } = { s with collisions }.settleAll contacts := by
  induction contacts generalizing s with
  | nil => rfl
  | cons contact rest ih => exact ih (s.settle contact)

theorem Stage.compareWith_eq (s : Stage) (mover : ActorId) (p : Position) (y : Actor) :
    s.compareWith mover p y.id y.position =
      { s with collisions :=
          (s.collisions.update (.of mover y.id) (p.collides y.position)).2 }.settleAll
        (s.collisions.contact? mover p y).toList := by
  rw [Stage.compareWith, CollisionTable.contact?, CollisionTable.update]
  cases Edge.between? (s.collisions.colliding (.of mover y.id)) (p.collides y.position) <;> rfl

/-- **Comparisons whose contacts take effect at once come to the same as a comparison with all and
then all contacts.** -/
theorem Stage.foldl_compareWith (s : Stage) (mover : ActorId) (p : Position)
    (others : List Actor) :
    others.foldl (fun s y => s.compareWith mover p y.id y.position) s =
      { s with collisions := (CollisionTable.compare mover p others s.collisions).2 }.settleAll
        (CollisionTable.compare mover p others s.collisions).1 := by
  induction others generalizing s with
  | nil => rfl
  | cons y rest ih =>
      rw [List.foldl_cons, ih, Stage.compareWith_eq, Stage.collisions_settleAll,
        Stage.settleAll_collisions, CollisionTable.fst_compare_cons,
        CollisionTable.snd_compare_cons]
      exact List.foldl_append.symm

/-! ## Comparisons read places only -/

theorem Stage.places_compareWith (s : Stage) (mover : ActorId) (p : Position) (y : Actor) :
    (s.compareWith mover p y.id y.position).roster.places = s.roster.places := by
  rw [Stage.compareWith_eq, Stage.places_settleAll]

theorem Stage.meet_eq (same : s.roster.places = r.places) {x y : Actor}
    (found : r.get? mover = some x) {i : Nat} (here : r.actors[i]? = some y) :
    s.meet mover i =
      if y.id = mover then s else s.compareWith mover x.position y.id y.position := by
  have stands := Roster.map_get?_congr (g := (·.position)) same mover
  have listed := congrArg (·[i]?) same
  simp only [Roster.places, List.getElem?_map, here, found, Option.map_some] at stands listed
  obtain ⟨x', found', standing⟩ := Option.map_eq_some_iff.mp stands
  obtain ⟨y', here', alike⟩ := Option.map_eq_some_iff.mp listed
  obtain ⟨named, standing'⟩ := Prod.mk.inj alike
  rw [Stage.meet, Stage.actor?, found', here']
  dsimp only
  rw [named, standing, standing']

/-- Going along a part of the roster meets the actors of this part, other than the one placed. -/
theorem Stage.foldl_meet (same : s.roster.places = r.places) {x : Actor}
    (found : r.get? mover = some x) {rest : List Actor} {k : Nat}
    (listed : ∀ i, rest[i]? = r.actors[k + i]?) :
    (List.range' k rest.length).foldl (Stage.meet mover) s =
      (rest.filter (·.id ≠ mover)).foldl
        (fun s y => s.compareWith mover x.position y.id y.position) s := by
  induction rest generalizing s k with
  | nil => rfl
  | cons y rest ih =>
      have here : r.actors[k]? = some y := (listed 0).symm
      have later (i : Nat) : rest[i]? = r.actors[k + 1 + i]? := by
        rw [Nat.add_right_comm]
        exact listed (i + 1)
      rw [List.length_cons, List.range'_succ, List.foldl_cons, Stage.meet_eq same found here]
      by_cases self : y.id = mover
      · rw [if_pos self, List.filter_cons_of_neg (by simpa using self)]
        exact ih same later
      · rw [if_neg self, List.filter_cons_of_pos (by simpa using self), List.foldl_cons]
        exact ih ((s.places_compareWith mover _ y).trans same) later

/-- Going along the whole roster comes to a comparison with all others and then all contacts. -/
theorem Stage.foldl_meet_range {x : Actor} (found : s.roster.get? mover = some x) :
    (List.range s.roster.actors.length).foldl (Stage.meet mover) s =
      { s with collisions := (s.collisions.detect s.roster mover).2 }.settleAll
        (s.collisions.detect s.roster mover).1 := by
  rw [List.range_eq_range', Stage.foldl_meet rfl found fun i => by rw [Nat.zero_add],
    Stage.foldl_compareWith, CollisionTable.detect_of_get? found]

/-- **A placement might let its contacts take effect one by one on the way.** -/
theorem Stage.place_eq_placeStepwise (s : Stage) (id : ActorId) (position : Position) :
    s.place id position = s.placeStepwise id position := by
  by_cases known : id ∈ s.roster.ids
  · obtain ⟨x, found⟩ := Stage.exists_get?_moved known position
    have placed : s.roster.place id position = (true, (s.moved id position).roster) := by
      rw [Roster.place, Roster.has_iff_mem_ids.mpr known]
      rfl
    have walk := Stage.foldl_meet_range (s := { s with roster := (s.moved id position).roster })
      found
    rw [Stage.place, Stage.placeStepwise, placed]
    exact congrArg (Prod.mk true) walk.symm
  · have absent : s.roster.has id = false := by
      rw [← Bool.not_eq_true, Roster.has_iff_mem_ids]
      exact known
    rw [Stage.place_of_not_mem known, Stage.placeStepwise, Roster.place, absent]

/-! ## What a placement leaves alone -/

/-- The parts of a stage that a placement of an actor leaves alone, whatever contacts it finds. -/
structure Stage.Spared (s : Stage) (id : ActorId) (contacts : List Contact) (t : Stage) :
    Prop where
  flags : ∀ a b, a ≠ id → b ≠ id → t.collisions.flag? (.of a b) = s.collisions.flag? (.of a b)
  positions : ∀ a, a ≠ id → (t.actor? a).map (·.position) = (s.actor? a).map (·.position)
  looks : t.roster.actors.map (fun x => (x.id, x.name, x.heading, x.bubble)) =
    s.roster.actors.map fun x => (x.id, x.name, x.heading, x.bubble)
  programs : ∀ a, (∀ c ∈ contacts, ¬ c.Names a) →
    t.program? a = s.program? a ∧ t.saved? a = s.saved? a
  spawner : t.roster.spawner = s.roster.spawner
  registry : t.registry = s.registry
  selected : t.selected = s.selected

/-- Flags of pairs without the actor that is placed stay as they are. -/
theorem Stage.flag?_place_of_ne {b : ActorId} (left : a ≠ id) (right : b ≠ id) (s : Stage)
    (position : Position) :
    (s.place id position).2.collisions.flag? (.of a b) = s.collisions.flag? (.of a b) := by
  by_cases known : id ∈ s.roster.ids
  · rw [Stage.collisions_place known]
    refine CollisionTable.flag?_detect_of_ne fun other _ _ same => ?_
    rcases ActorPair.of_eq_of_iff.mp same with ⟨same, -⟩ | ⟨-, same⟩
    · exact left same
    · exact right same
  · rw [Stage.place_of_not_mem known]

theorem Stage.places_place (known : id ∈ s.roster.ids) (position : Position) :
    (s.place id position).2.roster.places = (s.moved id position).roster.places := by
  rw [Stage.place_of_mem known, Stage.places_settleAll]

/-- Whoever is not placed stays where it is. -/
theorem Stage.position_place_of_ne (ne : a ≠ id) (s : Stage) (position : Position) :
    ((s.place id position).2.actor? a).map (·.position) = (s.actor? a).map (·.position) := by
  by_cases known : id ∈ s.roster.ids
  · rw [Stage.place_of_mem known, Stage.position_settleAll, Stage.actor?,
      s.get?_moved id position a, if_neg ne]
    rfl
  · rw [Stage.place_of_not_mem known]

/-- Whoever is in no contact keeps both of its programs. -/
theorem Stage.programs_place_of_not_names (unnamed : ∀ c ∈ s.contacts id position, ¬ c.Names a) :
    (s.place id position).2.program? a = s.program? a ∧
      (s.place id position).2.saved? a = s.saved? a := by
  by_cases known : id ∈ s.roster.ids
  · have same : ((s.moved id position).settleAll (s.contacts id position)).actor? a =
        (s.moved id position).actor? a := Stage.actor?_settleAll_of_not_names unnamed
    rw [Stage.place_of_mem known, Stage.program?, Stage.saved?, same]
    exact ⟨s.program?_moved id position a, s.saved?_moved id position a⟩
  · rw [Stage.place_of_not_mem known]
    exact ⟨rfl, rfl⟩

theorem Stage.spared_place (s : Stage) (id : ActorId) (position : Position) :
    s.Spared id (s.contacts id position) (s.place id position).2 where
  flags _ _ left right := Stage.flag?_place_of_ne left right s position
  positions _ ne := Stage.position_place_of_ne ne s position
  looks := Stage.map_place (fun _ _ _ => rfl) (fun _ _ => rfl) s id position
  programs _ unnamed := Stage.programs_place_of_not_names unnamed
  spawner := congrArg (·.2.1) (s.backdrop_place id position)
  registry := s.registry_place id position
  selected := s.selected_place id position

/-! ## Placements repeated -/

/-- Writing a flag that stands there already changes nothing. -/
theorem CollisionTable.setFlag_of_find? {pair : ActorPair} {flag : Bool}
    {flags : List (ActorPair × Bool)}
    (stands : (flags.find? (·.1 = pair)).map (·.2) = some flag) :
    CollisionTable.setFlag pair flag flags = flags := by
  induction flags with
  | nil => cases stands
  | cons entry rest ih =>
      rw [List.find?_cons] at stands
      rw [CollisionTable.setFlag]
      by_cases row : entry.1 = pair
      · simp only [row, decide_true, Option.map_some, Option.some.injEq] at stands
        rw [if_pos row, ← row, ← stands]
      · simp only [row, decide_false] at stands
        rw [if_neg row, ih stands]

theorem CollisionTable.update_of_flag? {pair : ActorPair} {flag : Bool}
    (stands : table.flag? pair = some flag) : table.update pair flag = (none, table) := by
  have same : Edge.between? (table.colliding pair) flag = none := by
    rw [CollisionTable.colliding, stands, Option.getD_some]
    cases flag <;> rfl
  rw [CollisionTable.update, same, CollisionTable.setFlag_of_find? stands]

/-- A comparison that finds all flags as they are changes nothing. -/
theorem CollisionTable.compare_of_flag?
    (stand : ∀ y ∈ others, table.flag? (.of mover y.id) = some (p.collides y.position)) :
    CollisionTable.compare mover p others table = ([], table) := by
  induction others with
  | nil => rfl
  | cons y rest ih =>
      obtain ⟨here, later⟩ := List.forall_mem_cons.mp stand
      rw [CollisionTable.compare, CollisionTable.update_of_flag? here]
      dsimp only
      rw [ih later]

/-- After a placement the flags of its actor tell how it stands to the others. -/
theorem Stage.flag?_place (nodup : s.roster.ids.Nodup) (known : id ∈ s.roster.ids)
    (position : Position) {y : Actor} (mem : y ∈ (s.place id position).2.roster.actors)
    (ne : y.id ≠ id) :
    (s.place id position).2.collisions.flag? (.of id y.id) =
      some (position.clamped.collides y.position) := by
  obtain ⟨x, found⟩ := Roster.exists_get?_of_mem_ids known
  have moved := s.get?_moved id position id
  rw [if_pos rfl, found, Option.map_some] at moved
  rw [← s.ids_place id position] at nodup
  have present : y.id ∈ (s.moved id position).roster.ids := by
    rw [s.ids_moved id position, ← s.ids_place id position]
    exact List.mem_map_of_mem mem
  obtain ⟨o, among, -, same, flag⟩ :=
    CollisionTable.flag?_detect_of_mem (t := s.collisions) moved ⟨y.id, present, ne, rfl⟩
  -- the row was written for an actor of the same id, which is this one
  have standing : (y.id, o.position) ∈ (s.place id position).2.roster.places := by
    rw [Stage.places_place known]
    exact Roster.mem_places.mpr ⟨o, among, (ActorPair.of_right_injective same).symm, rfl⟩
  rw [Stage.collisions_place known, (Roster.mem_places_iff nodup mem).mp standing]
  exact flag

/-- **A placement that is repeated changes nothing.** -/
theorem Stage.place_place (nodup : s.roster.ids.Nodup) (id : ActorId) (position : Position) :
    ((s.place id position).2.place id position).2 = (s.place id position).2 := by
  by_cases known : id ∈ s.roster.ids
  · have flags {y : Actor} := Stage.flag?_place nodup known position (y := y)
    obtain ⟨x, found, stands⟩ := Option.map_eq_some_iff.mp (s.position_place known position)
    rw [← s.ids_place id position] at nodup known
    generalize (s.place id position).2 = t at nodup known flags found
    have still : (t.roster.place id position).2 = t.roster := by
      refine Roster.update_of_fixed fun y mem named => ?_
      have same : some y = some x := by
        rw [← Roster.get?_of_mem nodup mem, named]
        exact found
      rw [Option.some.inj same, ← stands]
    have detects : t.collisions.detect t.roster id = ([], t.collisions) := by
      rw [CollisionTable.detect_of_get? found, stands]
      refine CollisionTable.compare_of_flag? fun z among => ?_
      obtain ⟨mem, apart⟩ := List.mem_filter.mp among
      exact flags mem (by simpa using apart)
    rw [Stage.place_of_mem known, Stage.moved, Stage.contacts, still, detects]
    rfl
  · rw [Stage.place_of_not_mem known, Stage.place_of_not_mem known]

/-- **Contacts might take effect on the way.**  A placement comes to the same stage, log and all, as
one that goes along the roster and lets each contact take effect and be logged before it looks at
the next actor.  It leaves alone the flags of other pairs, the places of other actors, all
headings and bubbles, the scripts, the selection, and the programs of whoever is in no contact.
While no two actors share an id, it changes nothing if it is repeated. -/
theorem placements_settle_stepwise (p : Playback) (reached : p.Reached) (id : ActorId)
    (position : Position) :
    p.stage.place id position = p.stage.placeStepwise id position ∧
    p.stage.Spared id (p.stage.contacts id position) (p.stage.place id position).2 ∧
    (p.stage.roster.actors.length ≤ UInt32.size →
      ((p.stage.place id position).2.place id position).2 = (p.stage.place id position).2) := by
  refine ⟨p.stage.place_eq_placeStepwise id position, p.stage.spared_place id position,
    fun few => ?_⟩
  have nodup := reached.wellFormed.nodup few
  exact Stage.place_place nodup id position

/-- Two actors, a third one that touches both, and a fourth beyond the second. -/
def amidst : Playback :=
  (Playback.of .standard (.start ⟨0, true, 9⟩)).afterAll
    ([.submit (Block.move.instantiate ⟨"move"⟩ .nil), .create, .place ⟨2⟩ ⟨180, 100⟩, .create,
      .place ⟨3⟩ ⟨140, 100⟩, .create, .place ⟨4⟩ ⟨240, 100⟩].map (.move ∘ .operate))

/-- The third one leaves the first, stays with the second and comes to the fourth. -/
theorem crossing_settles_stepwise : amidst.Reached ∧
    amidst.stage.contacts ⟨3⟩ ⟨200, 100⟩ = [⟨⟨3⟩, ⟨1⟩, .fall⟩, ⟨⟨3⟩, ⟨4⟩, .rise⟩] ∧
    amidst.stage.roster.actors.length ≤ UInt32.size ∧
    amidst.stage.place ⟨3⟩ ⟨200, 100⟩ = amidst.stage.placeStepwise ⟨3⟩ ⟨200, 100⟩ ∧
    ((amidst.stage.place ⟨3⟩ ⟨200, 100⟩).2.place ⟨3⟩ ⟨200, 100⟩).2 =
      (amidst.stage.place ⟨3⟩ ⟨200, 100⟩).2 := by
  have reached : amidst.Reached := ⟨_, _, _, .start _, rfl⟩
  have few : amidst.stage.roster.actors.length ≤ UInt32.size := by decide +kernel
  obtain ⟨stepwise, -, again⟩ := placements_settle_stepwise amidst reached ⟨3⟩ ⟨200, 100⟩
  exact ⟨reached, by decide +kernel, few, stepwise, again few⟩

end BlockStage
