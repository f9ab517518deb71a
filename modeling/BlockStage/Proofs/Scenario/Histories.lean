import BlockStage.Proofs.Scenario.Authoring
import BlockStage.Proofs.Stage.WellFormed

/-!
# Building as a history

Nothing is done to the stage of a scenario that could not be done to any stage: setting an actor up
is a creation, a placement if a coordinate is given, and a turn if a heading is
(`ActorSetup.operations`), so whatever is built is the start of a stage after some operations
(`Scenario.exists_history`).  Actors can always be set up, because the one that was just created is
found again; only the wanted selection may fail (`Scenario.prepare_cases`).
-/

namespace BlockStage

variable {s t : Stage}

/-! ## Actors -/

theorem Stage.selected_place (s : Stage) (id : ActorId) (position : Position) :
    (s.place id position).2.selected = s.selected :=
  congrArg (·.2.2) (s.backdrop_place id position)

/-- Some actor is found under the id that was just handed out. -/
theorem Stage.exists_actor?_create (s : Stage) :
    ∃ x, s.create.2.actor? s.roster.nextId = some x := by
  refine Roster.exists_get?_of_mem_ids ?_
  rw [Stage.ids_create]
  exact List.mem_append_right _ (List.mem_singleton_self _)

/-- Whether an operation puts an actor in its place or turns it. -/
def Operation.Poses : Operation → Prop
  | .place _ _ | .face _ _ => True
  | _ => False

/-- Posing adds no actor and selects none. -/
theorem Stage.after_poses {operations : List Operation} (poses : ∀ o ∈ operations, o.Poses) :
    (s.after operations).roster.ids = s.roster.ids ∧
      (s.after operations).selected = s.selected := by
  induction operations generalizing s with
  | nil => exact ⟨rfl, rfl⟩
  | cons operation rest ih =>
      obtain ⟨pose, poses⟩ := List.forall_mem_cons.mp poses
      obtain ⟨ids, selected⟩ := ih (s := operation.apply s) poses
      cases operation with
      | place id position =>
          exact ⟨ids.trans (s.ids_place id position), selected.trans (s.selected_place id position)⟩
      | face id heading => exact ⟨ids.trans (s.alike_face id heading).ids, selected⟩
      | _ => cases pose

namespace ActorSetup

/-- What puts an actor in its place that was created at `born`. -/
def poses (setup : ActorSetup) (id : ActorId) (born : Position) : List Operation :=
  (if setup.x.isSome ∨ setup.y.isSome then
    [.place id ⟨setup.x.getD born.x, setup.y.getD born.y⟩] else []) ++
  (setup.heading.map (Operation.face id)).toList

/-- What sets an actor up. -/
def operations (setup : ActorSetup) (id : ActorId) (born : Position) : List Operation :=
  .create :: setup.poses id born

theorem forall_mem_poses (setup : ActorSetup) (id : ActorId) (born : Position) :
    ∀ o ∈ setup.poses id born, o.Poses := by
  intro o mem
  rcases List.mem_append.mp mem with placing | facing
  · split at placing
    · rw [List.mem_singleton.mp placing]
      trivial
    · cases placing
  · cases heading : setup.heading with
    | none =>
        rw [heading] at facing
        cases facing
    | some heading' =>
        rw [heading] at facing
        rw [List.mem_singleton.mp facing]
        trivial

/-- One actor more, and nobody else selected. -/
theorem after_operations (setup : ActorSetup) (s : Stage) (id : ActorId) (born : Position) :
    (s.after (setup.operations id born)).roster.ids = s.roster.ids ++ [s.roster.nextId] ∧
      (s.after (setup.operations id born)).selected = s.selected := by
  obtain ⟨ids, selected⟩ := Stage.after_poses (s := s.create.2) (setup.forall_mem_poses id born)
  exact ⟨ids.trans s.ids_create, selected⟩

end ActorSetup

namespace Scenario

/-- **An actor can always be set up.** -/
theorem setUpActor_eq (s : Stage) (setup : ActorSetup) :
    ∃ x, s.create.2.actor? s.roster.nextId = some x ∧
      setUpActor s setup = .ok (s.after (setup.operations s.roster.nextId x.position)) := by
  obtain ⟨x, found⟩ := s.exists_actor?_create
  refine ⟨x, found, ?_⟩
  have created : s.create = (s.roster.nextId, s.create.2) := rfl
  rw [setUpActor, created, ActorSetup.operations, ActorSetup.poses]
  dsimp only
  rw [found]
  split
  · cases setup.heading <;> rfl
  · cases setup.heading <;> rfl

/-- And so can many. -/
theorem setUpActors_eq (setups : List ActorSetup) (s : Stage) :
    ∃ operations, setUpActors setups s = .ok (s.after operations) ∧
      (s.after operations).roster.actors.length = s.roster.actors.length + setups.length ∧
      (s.after operations).selected = s.selected := by
  induction setups generalizing s with
  | nil => exact ⟨[], rfl, rfl, rfl⟩
  | cons setup rest ih =>
      obtain ⟨x, -, first⟩ := setUpActor_eq s setup
      obtain ⟨ids, selected⟩ := setup.after_operations s s.roster.nextId x.position
      generalize setup.operations s.roster.nextId x.position = operations at first ids selected
      obtain ⟨later, setUp, length, kept⟩ := ih (s.after operations)
      have grown := congrArg List.length ids
      rw [Roster.length_ids, List.length_append, Roster.length_ids, List.length_singleton] at grown
      refine ⟨operations ++ later, ?_, ?_, ?_⟩
      · rw [setUpActors, first, Stage.after_append]
        exact setUp
      · rw [Stage.after_append, length, grown, List.length_cons]
        omega
      · rw [Stage.after_append, kept, selected]

/-! ## The selection -/

theorem selectActor_of_mem {id : ActorId} (known : id ∈ s.roster.ids) :
    selectActor s id = .ok ((Operation.select id).apply s) := by
  rw [selectActor, Operation.apply, Stage.select, if_pos (Roster.has_iff_mem_ids.mpr known)]

theorem selectActor_of_not_mem {id : ActorId} (unknown : id ∉ s.roster.ids) :
    selectActor s id = .error (.unknownActor id) := by
  rw [selectActor, Stage.select, if_neg fun known => unknown (Roster.has_iff_mem_ids.mp known)]

theorem selected_of_select {id : ActorId} (known : id ∈ s.roster.ids) :
    ((Operation.select id).apply s).selected = some id := by
  rw [Operation.apply, Stage.select, if_pos (Roster.has_iff_mem_ids.mpr known)]
  rfl

/-- Without a wish somebody is selected if there is anybody. -/
theorem selectEditor_none (s : Stage) :
    ∃ operations, selectEditor none s = .ok (s.after operations) ∧
      ((s.after operations).selected = none ↔ s.selected = none ∧ s.roster.ids = []) := by
  cases selected : s.selected with
  | some id =>
      refine ⟨[], ?_, ?_⟩
      · rw [selectEditor.eq_def, selected]
        rfl
      · rw [Stage.after_nil, selected]
        constructor
        · intro none
          cases none
        · rintro ⟨none, -⟩
          cases none
  | none =>
      cases ids : s.roster.ids with
      | nil =>
          refine ⟨[], ?_, ?_⟩
          · rw [selectEditor.eq_def, selected, ids]
            rfl
          · rw [Stage.after_nil, selected]
            exact ⟨fun _ => ⟨rfl, rfl⟩, fun _ => rfl⟩
      | cons first rest =>
          have known : first ∈ s.roster.ids := ids ▸ List.mem_cons_self
          refine ⟨[.select first], ?_, ?_⟩
          · rw [selectEditor.eq_def, selected, ids]
            exact selectActor_of_mem known
          · rw [Stage.after_cons, Stage.after_nil, selected_of_select known]
            constructor
            · intro none
              cases none
            · rintro ⟨-, nobody⟩
              cases nobody

/-! ## Preparing a stage -/

/-- How many actors a scenario has. -/
def actorCount (scenario : Scenario) : Nat :=
  scenario.actors.length + if scenario.starter then 1 else 0

/-- The stage of a scenario before its actors are set up. -/
def opening (scenario : Scenario) (seed : UInt64) : Stage :=
  .start { seed := seed, starter := scenario.starter, capacity := defaultCapacity }

theorem length_opening (scenario : Scenario) (seed : UInt64) :
    (scenario.opening seed).roster.actors.length = if scenario.starter then 1 else 0 := by
  rw [opening, Stage.start]
  split <;> rfl

theorem selected_opening (scenario : Scenario) (seed : UInt64)
    (alone : ¬ scenario.starter = true) : (scenario.opening seed).selected = none := by
  rw [opening, Stage.start]
  exact congrArg Stage.selected (if_neg alone)

/-- **Of all that is done before scripts are authored, only the wanted selection can fail.** -/
theorem prepare_cases (scenario : Scenario) (seed : UInt64) :
    (∃ a, scenario.select = some a ∧ a ∉ ActorId.firsts scenario.actorCount ∧
      scenario.prepare seed = .error (.unknownActor a)) ∨
    (∀ a, scenario.select = some a → a ∈ ActorId.firsts scenario.actorCount) ∧
      ∃ operations, scenario.prepare seed = .ok ((scenario.opening seed).after operations) ∧
        (((scenario.opening seed).after operations).selected = none ↔
          scenario.actorCount = 0) := by
  obtain ⟨operations, setUp, length, selected⟩ :=
    setUpActors_eq scenario.actors (scenario.opening seed)
  have wellFormed : ((scenario.opening seed).after operations).WellFormed :=
    (Stage.wellFormed_start _).after operations
  have ids := wellFormed.ids
  have prepared : scenario.prepare seed =
      selectEditor scenario.select ((scenario.opening seed).after operations) :=
    congrArg (· >>= selectEditor scenario.select) setUp
  rw [length, length_opening, Nat.add_comm] at ids
  change _ = ActorId.firsts scenario.actorCount at ids
  rw [prepared]
  cases wanted : scenario.select with
  | some a =>
      by_cases known : a ∈ ActorId.firsts scenario.actorCount
      · refine .inr ⟨fun b same => Option.some.inj same ▸ known, operations ++ [.select a], ?_, ?_⟩
        · rw [Stage.after_concat]
          exact selectActor_of_mem (ids ▸ known)
        · rw [Stage.after_concat, selected_of_select (ids ▸ known)]
          refine ⟨nofun, fun none => ?_⟩
          rw [none] at known
          cases known
      · exact .inl ⟨a, rfl, known, selectActor_of_not_mem (ids ▸ known)⟩
  | none =>
      obtain ⟨more, selects, noneSelected⟩ :=
        selectEditor_none ((scenario.opening seed).after operations)
      refine .inr ⟨nofun, operations ++ more, ?_, ?_⟩
      · rw [Stage.after_append]
        exact selects
      · rw [Stage.after_append, noneSelected, ids, selected]
        constructor
        · rintro ⟨-, nobody⟩
          simpa [ActorId.firsts] using nobody
        · intro nobody
          have alone : ¬ scenario.starter = true := by
            intro starts
            rw [actorCount, if_pos starts] at nobody
            cases nobody
          rw [nobody]
          exact ⟨selected_opening scenario seed alone, rfl⟩

/-! ## Scripts and removals -/

/-- Authoring submits one script after another. -/
theorem exists_history_author {entries : List ScriptEntry} {ids : IdAllocator}
    (authored : (author entries ids s).2 = .ok t) :
    ∃ scripts : List Script, t = s.after (scripts.map .submit) := by
  induction entries generalizing ids s with
  | nil =>
      cases authored
      exact ⟨[], rfl⟩
  | cons entry rest ih =>
      rw [author] at authored
      split at authored
      · cases authored
      · next script ids _ =>
        have submits : (author rest ids (s.submit script).2).2 = .ok t := by
          split at authored <;> next submitted => rw [submitted]; exact authored
        obtain ⟨scripts, rfl⟩ := ih submits
        exact ⟨script :: scripts, rfl⟩

/-- Removing deletes one script after another. -/
theorem remove_eq (ids : List ScriptId) (s : Stage) :
    (remove ids s).2 = s.after (ids.map .delete) := by
  induction ids generalizing s with
  | nil => rfl
  | cons id rest ih =>
      rw [remove]
      split <;>
      · next deleted =>
        exact (ih _).trans (congrArg (Stage.after · _) (congrArg Prod.snd deleted).symm)

/-- **Whatever is built comes about by operations.** -/
theorem exists_history {scenario : Scenario} {seed : UInt64}
    (built : (scenario.build seed).2 = .ok t) :
    ∃ (prepared : Stage) (scripts : List Script), scenario.prepare seed = .ok prepared ∧
      t = prepared.after (scripts.map .submit ++ scenario.removed.map .delete) := by
  rw [build] at built
  split at built
  · cases built
  · next prepared prepares =>
    refine ⟨prepared, ?_⟩
    split at built
    · cases built
    · next authored authors =>
      cases built
      rw [remove_eq]
      rw [authorScripts] at authors
      split at authors
      · cases authors
        exact ⟨[], prepares, rfl⟩
      · split at authors
        · cases authors
        · obtain ⟨scripts, rfl⟩ := exists_history_author (congrArg Prod.snd authors)
          exact ⟨scripts, prepares, (Stage.after_append _ _ _).symm⟩

end Scenario

end BlockStage
