import BlockStage.Proofs.Playback.Arrivals

/-!
# Where the actors of a scenario stand

A coordinate that an actor of a scenario does not give is taken from the place where the actor
appeared.  That place was drawn when the actor was created, whether it is used or not, so it is the
place of the seed for the actor's number, whatever else the scenario says
(`Scenario.places_setUpActors`).
-/

namespace BlockStage

variable {s t : Stage} {id : ActorId}

/-- A change of the last actor. -/
theorem Roster.updateFirst_concat {f : Actor → Actor} {l : List Actor} {x : Actor}
    (absent : ∀ y ∈ l, y.id ≠ x.id) : Roster.updateFirst x.id f (l ++ [x]) = l ++ [f x] := by
  induction l with
  | nil => exact if_pos rfl
  | cons y rest ih =>
      obtain ⟨other, absent⟩ := List.forall_mem_cons.mp absent
      rw [List.cons_append, Roster.updateFirst, if_neg other, ih absent]
      rfl

/-- A placement of the last actor leaves all others where they are. -/
theorem Stage.places_place_concat {l : List Actor} {x : Actor}
    (actors : s.roster.actors = l ++ [x]) (absent : ∀ y ∈ l, y.id ≠ x.id) (position : Position) :
    (s.place x.id position).2.roster.places =
      (l.map fun y => (y.id, y.position)) ++ [(x.id, position.clamped)] := by
  have known : x.id ∈ s.roster.ids := by
    rw [Roster.ids, actors]
    exact List.mem_map_of_mem (List.mem_append_right _ (List.mem_singleton_self x))
  rw [Stage.place_of_mem known, Stage.places_settleAll]
  show (Roster.updateFirst x.id _ s.roster.actors).map _ = _
  rw [actors, Roster.updateFirst_concat absent, List.map_append]
  rfl

/-- While there are more ids than actors, the next one is new. -/
theorem Stage.WellFormed.nextId_not_mem (h : s.WellFormed)
    (few : s.roster.actors.length < UInt32.size) : s.roster.nextId ∉ s.roster.ids := by
  have distinct := ActorId.nodup_firsts (n := s.roster.actors.length + 1) few
  rw [ActorId.firsts_succ, ← h.ids] at distinct
  exact fun mem => (List.nodup_append.mp distinct).2.2 _ mem _ (List.mem_singleton_self _) rfl

/-! ## Setting actors up -/

/-- Where an actor is put that appeared at a spot. -/
def ActorSetup.standsAt (setup : ActorSetup) (spot : Position) : Position :=
  Position.clamped ⟨setup.x.getD spot.x, setup.y.getD spot.y⟩

namespace Scenario

theorem places_poses (new : s.roster.nextId ∉ s.roster.ids) (setup : ActorSetup) :
    (s.create.2.after (setup.poses s.roster.nextId (s.roster.spawner.nth 0))).roster.places =
      s.roster.places ++ [(s.roster.nextId, setup.standsAt (s.roster.spawner.nth 0))] := by
  have turned (u : Stage) :
      (u.after (setup.heading.map (Operation.face s.roster.nextId)).toList).roster.places =
        u.roster.places := by
    cases setup.heading with
    | none => rfl
    | some heading => exact (u.alike_face _ heading).places
  rw [ActorSetup.poses, Stage.after_append, turned]
  split
  · exact Stage.places_place_concat (s := s.create.2) (l := s.roster.actors)
      (x := .fresh s.roster.nextId (s.roster.spawner.nth 0) s.registry.scripts) rfl
      (fun y mem same => new (Roster.mem_ids.mpr ⟨y, mem, same⟩)) _
  · next given =>
    have neither := not_or.mp given
    rw [Bool.not_eq_true, Option.isSome_eq_false_iff, Option.isNone_iff_eq_none,
      Bool.not_eq_true, Option.isSome_eq_false_iff, Option.isNone_iff_eq_none] at neither
    rw [ActorSetup.standsAt, neither.1, neither.2]
    exact s.places_create

/-- **An actor is put where its setup says, and else where it appeared.** -/
theorem places_setUpActor (new : s.roster.nextId ∉ s.roster.ids) (setup : ActorSetup) :
    ∃ operations, setUpActor s setup = .ok (s.after operations) ∧
      (s.after operations).roster.ids = s.roster.ids ++ [s.roster.nextId] ∧
      (s.after operations).roster.spawner = s.roster.spawner.place.2 ∧
      (s.after operations).roster.places =
        s.roster.places ++ [(s.roster.nextId, setup.standsAt (s.roster.spawner.nth 0))] := by
  obtain ⟨x, found, setUp⟩ := setUpActor_eq s setup
  have finds := Roster.get?_spawnAt { s.roster with spawner := s.roster.spawner.place.2 }
    s.roster.spawner.place.1 s.registry.scripts s.roster.nextId
  have born : x.position = s.roster.spawner.nth 0 := by
    rcases Option.or_eq_some_iff.mp (finds.symm.trans found) with old | ⟨-, fresh⟩
    · exact absurd (Roster.mem_ids_of_get? old) new
    · split at fresh
      · cases fresh
        exact s.roster.spawner.clamped_nth 0
      · cases fresh
  have kept : (s.after (setup.operations s.roster.nextId x.position)).roster.spawner =
      s.create.2.roster.spawner :=
    Stage.kept_after (P := fun t => t.roster.spawner = s.create.2.roster.spawner)
      (s := s.create.2)
      (fun o mem t same =>
        (Operation.spawner_apply (setup.forall_mem_poses _ _ o mem).ne_create t).trans same) rfl
  rw [born] at setUp kept
  exact ⟨_, setUp, (setup.after_operations s _ _).1, kept, places_poses new setup⟩

/-- **The actors of a scenario stand where their setups and the seed say.** -/
theorem places_setUpActors (setups : List ActorSetup) (h : s.WellFormed)
    (few : s.roster.actors.length + setups.length ≤ UInt32.size) :
    ∃ t, setUpActors setups s = .ok t ∧
      t.roster.places.map Prod.snd = s.roster.places.map Prod.snd ++
        setups.mapIdx fun k setup => setup.standsAt (s.roster.spawner.nth k) := by
  induction setups generalizing s with
  | nil => exact ⟨s, rfl, (List.append_nil _).symm⟩
  | cons setup rest ih =>
      rw [List.length_cons] at few
      obtain ⟨operations, first, ids, spawner, places⟩ :=
        places_setUpActor (h.nextId_not_mem (by omega)) setup
      have grown := congrArg List.length ids
      rw [Roster.length_ids, List.length_append, Roster.length_ids, List.length_singleton] at grown
      obtain ⟨t, later, stand⟩ := ih (h.after operations) (by omega)
      refine ⟨t, ?_, ?_⟩
      · rw [setUpActors, first]
        exact later
      · rw [stand, places, spawner, List.map_append, List.mapIdx_cons, List.append_assoc]
        rfl

theorem places_opening (scenario : Scenario) (seed : UInt64) :
    (scenario.opening seed).roster.places.map Prod.snd =
      if scenario.starter then [starterPosition.clamped] else [] := by
  rw [opening, Stage.start]
  split <;> rfl

theorem places_selectActor (selected : selectActor s id = .ok t) :
    t.roster.places = s.roster.places := by
  by_cases known : id ∈ s.roster.ids
  · rw [selectActor_of_mem known] at selected
    cases selected
    exact (s.alike_select id).places
  · rw [selectActor_of_not_mem known] at selected
    cases selected

theorem places_selectEditor {wanted : Option ActorId} (selected : selectEditor wanted s = .ok t) :
    t.roster.places = s.roster.places := by
  rw [selectEditor.eq_def] at selected
  split at selected
  · exact places_selectActor selected
  · exact places_selectActor selected
  · cases selected
    rfl

/-- Selecting somebody, authoring and removing leave all actors where they are. -/
theorem places_build {scenario : Scenario} {seed : UInt64}
    (setUp : setUpActors scenario.actors (scenario.opening seed) = .ok s)
    (built : (scenario.build seed).2 = .ok t) : t.roster.places = s.roster.places := by
  obtain ⟨prepared, scripts, prepares, rfl⟩ := exists_history built
  have selects : selectEditor scenario.select s = .ok prepared := by
    rw [← prepares]
    exact (congrArg (· >>= selectEditor scenario.select) setUp).symm
  rw [← places_selectEditor selects]
  refine Stage.kept_after (P := fun t => t.roster.places = prepared.roster.places) ?_ rfl
  intro o mem t same
  rcases List.mem_append.mp mem with submits | deletes
  · obtain ⟨script, -, rfl⟩ := List.mem_map.mp submits
    exact (t.places_submit script).trans same
  · obtain ⟨id, -, rfl⟩ := List.mem_map.mp deletes
    exact (t.places_delete id).trans same

end Scenario

/-- **Where an actor appears depends on the seed and on how many were created before, and on
nothing else.**  The actors of a run appear at the first spots of its seed, all of them in the
spawn square, whatever else happens between the creations; so two runs with one seed agree at every
creation that both have.  Actors of a scenario that are not put elsewhere stand at these spots, a
missing coordinate is taken from them, and nothing that follows moves anybody. -/
theorem spawn_spots_depend_on_seed_and_count :
    (∀ settings (setup : StageSetup) (run : List Playback.Happening),
      (Playback.of settings (.start setup)).arrivals run =
        (List.range (run.countP Playback.Happening.creates)).map (Spawner.spot setup.seed)) ∧
    (∀ seed k, (Spawner.spot seed k).InSpawnSquare) ∧
    ∀ (scenario : Scenario) seed, scenario.actorCount ≤ UInt32.size →
      ∃ s, Scenario.setUpActors scenario.actors (scenario.opening seed) = .ok s ∧
        s.roster.actors.map (·.position) =
          (if scenario.starter then [starterPosition.clamped] else []) ++
            scenario.actors.mapIdx (fun k setup => setup.standsAt (Spawner.spot seed k)) ∧
        ∀ t, (scenario.build seed).2 = .ok t →
          t.roster.actors.map (·.position) = s.roster.actors.map (·.position) := by
  refine ⟨fun settings setup run => ?_, fun seed k => Spawner.inSpawnSquare_nth _ k,
    fun scenario seed few => ?_⟩
  · rw [Playback.arrivals_eq, Spawner.spot, ← Stage.spawner_start]
    rfl
  · have opened : (scenario.opening seed).roster.actors.length + scenario.actors.length =
        scenario.actorCount := by
      rw [Scenario.length_opening, Nat.add_comm]
      rfl
    obtain ⟨s, setUp, stand⟩ := Scenario.places_setUpActors (s := scenario.opening seed)
      scenario.actors (Stage.wellFormed_start _) (by omega)
    rw [Scenario.places_opening, Scenario.opening, Stage.spawner_start] at stand
    have positions (r : Roster) : r.places.map Prod.snd = r.actors.map (·.position) := List.map_map
    refine ⟨s, setUp, (positions s.roster).symm.trans stand, fun t built => ?_⟩
    rw [← positions, ← positions, Scenario.places_build setUp built]

/-- The first of two actors gives one coordinate, and the second one none. -/
def halfPlaced : Scenario where
  seed := none
  starter := true
  actors := [⟨some 7, none, none⟩, ⟨none, none, some 45⟩]
  select := some ⟨2⟩
  scripts := []
  removed := []

/-- What they do not give they have from the first two spots, which the starter leaves to them. -/
theorem half_placed_at_spots : halfPlaced.actorCount ≤ UInt32.size ∧
    ∃ t, (halfPlaced.build 0).2 = .ok t ∧ t.roster.actors.map (·.position) =
      [starterPosition.clamped, Position.clamped ⟨7, (Spawner.spot 0 0).y⟩,
        Position.clamped (Spawner.spot 0 1)] := by
  have few : halfPlaced.actorCount ≤ UInt32.size := by decide
  rcases halfPlaced.prepare_cases 0 with ⟨a, wanted, absent, -⟩ | ⟨-, operations, prepared, -⟩
  · cases wanted
    exact absurd (by decide) absent
  · have built : (halfPlaced.build 0).2 =
        .ok ((halfPlaced.opening 0).after operations) := by
      rw [Scenario.build, prepared]
      rfl
    obtain ⟨s, -, stand, settled⟩ :=
      spawn_spots_depend_on_seed_and_count.2.2 halfPlaced 0 few
    have setups (f : Nat → ActorSetup → Position) : halfPlaced.actors.mapIdx f =
        [f 0 ⟨some 7, none, none⟩, f 1 ⟨none, none, some 45⟩] := rfl
    have half (spot : Position) : (⟨some 7, none, none⟩ : ActorSetup).standsAt spot =
        Position.clamped ⟨7, spot.y⟩ := rfl
    have not (spot : Position) : (⟨none, none, some 45⟩ : ActorSetup).standsAt spot =
        spot.clamped := rfl
    rw [setups, half, not] at stand
    exact ⟨few, _, built, (settled _ built).trans stand⟩

end BlockStage
