import BlockStage.Proofs.Registry.Batches
import BlockStage.Proofs.Registry.Holdings
import BlockStage.Proofs.Scenario.Entries

/-!
# Building a scenario

While actors are set up nobody holds a script (`Stage.Blank`), so actors that are put together trade
empty programs.  From then on every program is the registry (`Stage.Unison`), the saved ones of
such actors as well, because scripts come to all programs and go from all of them.
-/

namespace BlockStage

variable {s t : Stage} {entries : List ScriptEntry} {scripts : List Script} {n : Nat}

/-! ## Stages whose programs are the registry -/

/-- Every program is the registry, and so is every saved one. -/
def Stage.Unison (s : Stage) : Prop := s.Holds (· = s.registry.scripts)

theorem Stage.Unison.of_alike (h : s.Unison) (alike : s.Alike t) : t.Unison := by
  have holds : t.Holds (· = s.registry.scripts) := Stage.Holds.of_alike h alike
  rw [Stage.Unison, alike.registry]
  exact holds

theorem Stage.Unison.edited (h : s.Unison) (edit : Program → Program) : (s.edited edit).Unison :=
  Stage.Holds.edited h fun _ same => congrArg edit same

theorem Stage.Unison.submit (h : s.Unison) (script : Script) :
    (s.submit script).2.Unison ∧
      (s.submit script).2.registry.scripts = Program.append s.registry.scripts script := by
  by_cases known : s.registry.has script.id = true
  · rw [submit_of_known known, Program.append]
    exact ⟨h, (if_pos known).symm⟩
  · have alike := alike_submit known
    exact ⟨(h.edited _).of_alike alike, congrArg Registry.scripts alike.registry⟩

theorem Stage.Unison.delete (h : s.Unison) (id : ScriptId) :
    (s.delete id).2.Unison ∧
      (s.delete id).2.registry.scripts = Program.drop s.registry.scripts id :=
  ⟨(h.edited _).of_alike (s.alike_delete id),
    congrArg Registry.scripts (s.alike_delete id).registry⟩

/-- Nothing is authored yet. -/
structure Stage.Blank (s : Stage) : Prop where
  registry : s.registry.scripts = []
  holds : s.Holds (· = [])

theorem Stage.Blank.unison (h : s.Blank) : s.Unison := by
  rw [Stage.Unison, h.registry]
  exact h.holds

theorem Stage.Blank.of_alike (h : s.Blank) (alike : s.Alike t) : t.Blank :=
  ⟨alike.registry ▸ h.registry, h.holds.of_alike alike⟩

theorem Stage.blank_start (setup : StageSetup) : (Stage.start setup).Blank := by
  have nobody : (Stage.empty setup.seed setup.capacity).roster.Holds (· = []) := by
    intro x mem
    cases mem
  rw [Stage.start]
  split
  · exact ⟨rfl, nobody.spawnAt starterPosition rfl⟩
  · exact ⟨rfl, nobody⟩

theorem Stage.Blank.create (h : s.Blank) : s.create.2.Blank :=
  ⟨h.registry, h.holds.create h.registry⟩

/-- Actors that come together trade empty programs. -/
theorem Stage.Blank.place (h : s.Blank) (id : ActorId) (position : Position) :
    (s.place id position).2.Blank := by
  refine ⟨s.registry_place id position ▸ h.registry, h.holds.place ?_ id position⟩
  rintro _ rfl
  rfl

namespace Scenario

/-- What follows a step that may fail follows a step that did not. -/
theorem exists_of_bind {first : Except ScenarioError Stage}
    {next : Stage → Except ScenarioError Stage} (ok : (first >>= next) = .ok t) :
    ∃ s, first = .ok s ∧ next s = .ok t := by
  cases first with
  | error e => cases ok
  | ok s => exact ⟨s, rfl, ok⟩

theorem blank_setUpActor {setup : ActorSetup} (h : s.Blank) (ok : setUpActor s setup = .ok t) :
    t.Blank := by
  have created := h.create
  rw [setUpActor] at ok
  generalize s.create = born at created ok
  obtain ⟨id, s'⟩ := born
  dsimp only at ok created
  split at ok
  · split at ok
    · obtain ⟨placed, places, faces⟩ := exists_of_bind ok
      cases places
      split at faces <;> cases faces
      · exact (created.place id _).of_alike (Stage.alike_face _ id _)
      · exact created.place id _
    · cases ok
  · obtain ⟨placed, places, faces⟩ := exists_of_bind ok
    cases places
    split at faces <;> cases faces
    · exact created.of_alike (Stage.alike_face _ id _)
    · exact created

theorem blank_setUpActors {setups : List ActorSetup} (h : s.Blank)
    (ok : setUpActors setups s = .ok t) : t.Blank := by
  induction setups generalizing s with
  | nil =>
      cases ok
      exact h
  | cons setup rest ih =>
      rw [setUpActors] at ok
      obtain ⟨next, first, later⟩ := exists_of_bind ok
      exact ih (blank_setUpActor h first) later

theorem blank_selectActor {id : ActorId} (h : s.Blank) (ok : selectActor s id = .ok t) :
    t.Blank := by
  have alike := s.alike_select id
  rw [Operation.apply] at alike
  rw [selectActor] at ok
  cases selected : s.select id with
  | ok next =>
      rw [selected] at ok alike
      cases ok
      exact h.of_alike alike
  | error e =>
      rw [selected] at ok
      cases ok

/-- **While actors are set up and selected, nobody holds a script.** -/
theorem blank_prepare {scenario : Scenario} {seed : UInt64}
    (ok : scenario.prepare seed = .ok t) : t.Blank := by
  obtain ⟨next, first, later⟩ := exists_of_bind ok
  have blank := blank_setUpActors (Stage.blank_start _) first
  rw [selectEditor.eq_def] at later
  split at later
  · exact blank_selectActor blank later
  · exact blank_selectActor blank later
  · cases later
    exact blank

/-! ## Scripts and removals -/

/-- Authoring appends what the entries stand for, one script after another. -/
theorem denotes_author {warnings : List ScenarioWarning} (h : s.Unison)
    (authored : author entries (.past n) s = (warnings, .ok t)) :
    ∃ scripts, ScriptEntry.Denotes n entries scripts ∧ t.Unison ∧
      t.registry.scripts = scripts.foldl Program.append s.registry.scripts := by
  induction entries generalizing n s warnings with
  | nil =>
      cases authored
      exact ⟨[], .nil n, h, rfl⟩
  | cons entry rest ih =>
      rw [author] at authored
      split at authored
      · cases authored
      · next script ids denoted =>
        obtain ⟨k, rfl, denotes⟩ := ScriptEntry.denotes_cons denoted
        obtain ⟨unison, registry⟩ := h.submit script
        split at authored
        · next submitted =>
          rw [submitted] at unison registry
          obtain ⟨scripts, rest, same, appended⟩ := ih unison authored
          rw [registry] at appended
          exact ⟨script :: scripts, denotes rest, same, appended⟩
        · next submitted =>
          rw [submitted] at unison registry
          generalize later : author rest (.past k) _ = result at authored
          obtain ⟨more, out⟩ := result
          cases authored
          obtain ⟨scripts, rest, same, appended⟩ := ih unison later
          rw [registry] at appended
          exact ⟨script :: scripts, denotes rest, same, appended⟩

/-- Removing drops the ids one after another. -/
theorem unison_remove (ids : List ScriptId) (h : s.Unison) :
    (remove ids s).2.Unison ∧
      (remove ids s).2.registry.scripts = ids.foldl Program.drop s.registry.scripts := by
  induction ids generalizing s with
  | nil => exact ⟨h, rfl⟩
  | cons id rest ih =>
      obtain ⟨unison, registry⟩ := h.delete id
      rw [remove, List.foldl_cons, ← registry]
      split <;>
      · next deleted =>
        rw [deleted] at unison ⊢
        exact ih unison

/-- The allocator of a scenario goes on past all ids that are written out. -/
theorem allocator_eq (entries : List ScriptEntry) :
    allocator entries = .past (ScriptEntry.largestNumber entries) := by
  rw [allocator, IdAllocator.fresh_eq, IdAllocator.foldl_observe (by decide), Nat.zero_max,
    ScriptEntry.largestNumber]

end Scenario

/-! ## What is built -/

/-- A stage as a scenario specifies it. -/
structure Scenario.Specifies (scenario : Scenario) (scripts : List Script) (stage : Stage) :
    Prop where
  /-- The scripts are what the entries stand for; ids that are left out get the numbers past the
  largest one that is written out. -/
  denotes :
    ScriptEntry.Denotes (ScriptEntry.largestNumber scenario.scripts) scenario.scripts scripts
  /-- The first script of each id is registered, unless it is removed. -/
  registry : stage.registry.scripts =
    (Program.firsts [] scripts).filter (·.id ∉ scenario.removed)
  /-- The script of an entry without an id has a number that says how many of these entries there
  are up to it, and no earlier script has the same id, so that it is not dropped. -/
  minted : ∀ (i : Nat) (entry : ScriptEntry) (script : Script),
    scenario.scripts[i]? = some entry → entry.mints = true → scripts[i]? = some script →
      script.id = .numbered (ScriptEntry.largestNumber scenario.scripts +
        (scenario.scripts.take i).countP ScriptEntry.mints + 1) ∧
      script.id ∉ Program.ids (scripts.take i) ∧ script ∈ Program.firsts [] scripts
  /-- All programs are the registry, those that are saved as well. -/
  programs : ∀ x ∈ stage.roster.actors, x.program = stage.registry.scripts ∧
    ∀ saved, x.saved = some saved → saved = stage.registry.scripts

namespace Scenario

/-- The scripts of a scenario on a blank stage. -/
theorem denotes_authorScripts {scenario : Scenario} {warnings : List ScenarioWarning}
    (blank : s.Blank) (authored : scenario.authorScripts s = (warnings, .ok t)) :
    ∃ scripts,
      ScriptEntry.Denotes (ScriptEntry.largestNumber scenario.scripts) scenario.scripts scripts ∧
      t.Unison ∧ t.registry.scripts = Program.firsts [] scripts := by
  rw [authorScripts] at authored
  split at authored
  · next empty =>
    cases authored
    rw [List.isEmpty_iff.mp empty]
    exact ⟨[], .nil _, blank.unison, blank.registry⟩
  · split at authored
    · cases authored
    · rw [allocator_eq] at authored
      obtain ⟨scripts, denotes, unison, registry⟩ := denotes_author blank.unison authored
      rw [blank.registry, Program.foldl_append [] fun _ => Iff.rfl,
        List.nil_append] at registry
      exact ⟨scripts, denotes, unison, registry⟩

/-- What the entries of a scenario stand for gets on its stage. -/
theorem denotes_build {scenario : Scenario} {seed : UInt64}
    (built : (scenario.build seed).2 = .ok t) :
    ∃ scripts,
      ScriptEntry.Denotes (ScriptEntry.largestNumber scenario.scripts) scenario.scripts scripts ∧
      t.Unison ∧
      t.registry.scripts = (Program.firsts [] scripts).filter (·.id ∉ scenario.removed) := by
  rw [build] at built
  split at built
  · cases built
  · next s prepared =>
    split at built
    · cases built
    · next authored =>
      obtain ⟨scripts, denotes, unison, registry⟩ :=
        denotes_authorScripts (blank_prepare prepared) authored
      obtain ⟨unison, removed⟩ := unison_remove scenario.removed unison
      rw [registry, Program.foldl_drop] at removed
      cases built
      exact ⟨scripts, denotes, unison, removed⟩

/-- **A stage is built as its scenario specifies.**  Whenever a stage is built, its registry has
the scripts that the entries stand for, without duplicates and removals, and every actor has just
these in its program, and in its saved program if it has one. -/
theorem specifies_built_stage (scenario : Scenario) (seed : UInt64) (stage : Stage)
    (built : (scenario.build seed).2 = .ok stage) :
    ∃ scripts, scenario.Specifies scripts stage := by
  obtain ⟨scripts, denotes, unison, registry⟩ := denotes_build built
  refine ⟨scripts, denotes, registry, ?_,
    fun x mem => ⟨(unison x mem).program, (unison x mem).saved⟩⟩
  intro i entry script here mints found
  have new := denotes.id_not_mem_take here mints found
  exact ⟨(denotes.id_minted here mints found).1, new,
    Program.mem_firsts found List.not_mem_nil new⟩

/-- A stage that looks as told is built. -/
theorem exists_built {scenario : Scenario} {seed : UInt64} {α : Type} {view : Stage → α} {seen : α}
    (checked : (scenario.build seed).2.toOption.map view = some seen) :
    ∃ stage, (scenario.build seed).2 = .ok stage ∧ view stage = seen := by
  obtain ⟨stage, built, looks⟩ := Option.map_eq_some_iff.mp checked
  refine ⟨stage, ?_, looks⟩
  cases result : (scenario.build seed).2 with
  | error e =>
      rw [result] at built
      cases built
  | ok other =>
      rw [result] at built
      exact congrArg Except.ok (Option.some.inj built)

/-- Two actors on one spot; two scripts of one id, and one is removed that was written out with
zeros ahead of its number. -/
def crowded : Scenario where
  seed := none
  starter := true
  actors := [⟨some 100, some 110, none⟩]
  select := none
  scripts := [.palette "move" none (.ofList [("steps", .number 5)]),
    .palette "say" (some ⟨"script-007"⟩) .nil,
    .full (Block.move.instantiate ⟨"jump"⟩ .nil),
    .palette "think" (some ⟨"jump"⟩) .nil,
    .palette "goto" none .nil]
  removed := [⟨"script-007"⟩, ⟨"unknown"⟩]

/-- Both actors of the crowded scenario end up with the same three scripts, and both of them have
saved these as well. -/
theorem crowded_stage_is_specified : ∃ scripts stage, (crowded.build 0).2 = .ok stage ∧
    crowded.Specifies scripts stage ∧
    Program.ids stage.registry.scripts = [⟨"script-8"⟩, ⟨"jump"⟩, ⟨"script-9"⟩] ∧
    stage.roster.actors.map Actor.isSwapped = [true, true] := by
  have checked : (crowded.build 0).2.toOption.map (fun stage =>
      (Program.ids stage.registry.scripts, stage.roster.actors.map Actor.isSwapped)) =
      some ([⟨"script-8"⟩, ⟨"jump"⟩, ⟨"script-9"⟩], [true, true]) := by
    decide +kernel
  obtain ⟨stage, built, looks⟩ := exists_built checked
  obtain ⟨ids, swapped⟩ := Prod.mk.inj looks
  obtain ⟨scripts, specified⟩ := specifies_built_stage crowded 0 stage built
  exact ⟨scripts, stage, built, specified, ids, swapped⟩

end Scenario

end BlockStage
