import BlockStage.Proofs.CommandLine.Snapshot
import BlockStage.Proofs.Playback.Reachable
import BlockStage.Proofs.Playback.Snapshots
import BlockStage.Proofs.Playback.Unattended
import BlockStage.Proofs.Scenario.Numbers

/-!
# What a run writes

A run of the command line reads a scenario, builds its stage, plays it and writes a snapshot of
what it comes to (`CommandLine.run_success`).  Numbers are finite as they are read, and playing only
hands programs about and negates steps that read as finite numbers, so the programs of the snapshot
are found again (`scripts_survive_json`).
-/

namespace BlockStage

variable {P : Stage → Prop} {s : Stage}

/-! ## Playing -/

/-- Passes keep what turns and entries of the log keep. -/
theorem Stage.kept_afterPasses (turn : ∀ (o : Operation), o.InTurn → ∀ s, P s → P (o.apply s))
    (record : ∀ s event, P s → P (s.record event)) (h : P s) (made more : Nat) :
    P (s.afterPasses made more) := by
  have turns (actors : List ActorId) {s : Stage} (h : P s) : P (s.turns actors) := by
    induction actors generalizing s with
    | nil => exact h
    | cons actor waiting ih =>
        refine ih (s := s.turn actor) (Stage.kept_after (fun o mem => turn o ?_) h)
        obtain ⟨script, -, mem⟩ := List.mem_flatMap.mp mem
        exact Script.inTurn_of_mem_deeds mem
  induction more generalizing s made with
  | zero => exact h
  | succ more ih => exact ih (record _ _ (turns s.roster.ids h)) (made + 1)

/-- What a turn does hands programs about and reverses them. -/
theorem Stage.Holds.inTurn {Q : Program → Prop} (h : s.Holds Q)
    (closed : ∀ program, Q program → Q program.reversed) {operation : Operation}
    (inTurn : operation.InTurn) : (operation.apply s).Holds Q := by
  cases operation with
  | perform actor script => exact (h.placedAt closed _).of_alike (s.alike_perform actor script)
  | hush actor => exact h.of_alike (s.alike_setBubble actor none)
  | _ => cases inTurn

/-- **Playing keeps the programs of a stage in what reversal keeps.** -/
theorem CommandLine.holds_playPasses {Q : Program → Prop} {settings : PlaySettings} {limit : Nat}
    (limited : settings.passLimit = some limit) (positive : 1 ≤ limit) (h : s.Holds Q)
    (closed : ∀ program, Q program → Q program.reversed) :
    (playPasses settings s).2.Holds Q := by
  have record (s : Stage) (event : Event) (h : s.Holds Q) : (s.record event).Holds Q :=
    h.of_alike (s.alike_record event)
  rw [playPasses_eq limited positive]
  refine record _ _ (Stage.kept_afterPasses (P := (·.Holds Q)) ?_ record (record _ _ h) 0 limit)
  exact fun o inTurn s h => h.inTurn closed inTurn

namespace CommandLine

variable {folder : Folder} {options : Options} {passes : Nat} {stage : Stage}

/-! ## Writing -/

/-- What a writing leaves in the folder. -/
def Folder.written (folder : Folder) (name text : String) : Folder :=
  ⟨(name, text.toUTF8) :: folder.files⟩

theorem Folder.content?_written (folder : Folder) (name text : String) :
    (folder.written name text).content? name = some text.toUTF8 := by
  rw [Folder.content?, Folder.written, List.lookup_cons_self]

theorem Folder.run_write (folder : Folder) (path text : String) :
    (Folder.access.write path text).run folder =
      match Folder.name? path with
      | some name => (true, folder.written name text)
      | none => (false, folder) := by
  simp only [Folder.access]
  cases Folder.name? path <;> rfl

/-- Saves a snapshot and says so after other lines. -/
def saveSnapshot (path : String) (passes : Nat) (stage : Stage) (lines : List String) :
    StateM Folder (List String × Option String) := do
  if ← Folder.access.write path (snapshotJson passes stage).pretty then
    return (lines ++ ["Saved stage snapshot to " ++ path], none)
  else return (lines, some ("writing stage snapshot to " ++ path))

theorem content?_saveSnapshot {path : String} {lines : List String}
    (ok : ((saveSnapshot path passes stage lines).run folder).1.2 = none) :
    ∃ name, Folder.name? path = some name ∧
      ((saveSnapshot path passes stage lines).run folder).2.content? name =
        some (snapshotJson passes stage).pretty.toUTF8 := by
  rw [saveSnapshot, StateT.run_bind, Folder.run_write] at ok ⊢
  cases named : Folder.name? path with
  | none =>
      rw [named] at ok
      cases ok
  | some name => exact ⟨name, rfl, folder.content?_written _ _⟩

/-- The snapshot is saved last. -/
theorem content?_save {path : String} (wanted : options.snapshot = some path)
    (ok : ((save Folder.access options passes stage).run folder).1.2 = none) :
    ∃ name, Folder.name? path = some name ∧
      ((save Folder.access options passes stage).run folder).2.content? name =
        some (snapshotJson passes stage).pretty.toUTF8 := by
  unfold save at ok ⊢
  rw [wanted] at ok ⊢
  cases log : options.eventLog with
  | none =>
      rw [log] at ok
      exact content?_saveSnapshot ok
  | some log' =>
      rw [log] at ok
      dsimp only at ok ⊢
      rw [StateT.run_bind, Folder.run_write] at ok ⊢
      cases named : Folder.name? log' with
      | none =>
          rw [named] at ok
          cases ok
      | some name =>
          rw [named] at ok
          exact content?_saveSnapshot ok

/-! ## Runs -/

/-- The stage that a run comes to, with the passes that it has made: the run reads its scenario,
builds the stage for its seed and plays it with its limit, which is at least one. -/
def IsPlayed (folder : Folder) (entropy : UInt64) (options : Options) (passes : Nat)
    (stage : Stage) : Prop :=
  ∃ (scenario : Scenario) (built : Stage) (settings : PlaySettings) (limit : Nat),
    ((loadScenario Folder.access options.scenario).run folder).1 = .ok scenario ∧
    (scenario.build (((options.seed.map UInt64.ofNat).or scenario.seed).getD entropy)).2 =
      .ok built ∧
    settings.passLimit = some limit ∧ limit = options.passes.getD 1 ∧ 1 ≤ limit ∧
    playPasses settings built = (passes, stage)

/-- The numbers of a scenario that the command line takes up are finite. -/
theorem numbersFinite_of_loadScenario {path : Option String} {scenario : Scenario}
    (loads : ((loadScenario Folder.access path).run folder).1 = .ok scenario) :
    scenario.NumbersFinite := by
  unfold loadScenario at loads
  cases path with
  | none =>
      cases loads
      exact List.forall_mem_nil _
  | some path =>
      dsimp only at loads
      rw [StateT.run_bind] at loads
      simp only [Folder.access] at loads
      generalize StateT.run _ folder = reads at loads
      dsimp only [bind, pure] at loads
      split at loads
      · cases loads
      · split at loads
        · next parsed =>
          cases loads
          exact Scenario.numbersFinite_of_parse parsed
        · cases loads

theorem play_success {entropy : UInt64} {scale : Float} {path : String}
    (limit : passes = options.passes.getD 1) (positive : 1 ≤ passes)
    (wanted : options.snapshot = some path)
    (success : ((play Folder.access entropy options passes scale).run folder).1.ending = .success) :
    ∃ (name : String) (completed : Nat) (stage : Stage), Folder.name? path = some name ∧
      ((play Folder.access entropy options passes scale).run folder).2.content? name =
        some (snapshotJson completed stage).pretty.toUTF8 ∧
      IsPlayed folder entropy options completed stage := by
  unfold play at success ⊢
  rw [StateT.run_bind] at success ⊢
  cases loads : (loadScenario Folder.access options.scenario).run folder with
  | mk loaded after =>
  rw [loads] at success
  cases loaded with
  | error message => cases success
  | ok scenario =>
      dsimp only [bind, pure] at success ⊢
      split at success
      · cases success
      · next built builds =>
        generalize settled : (PlaySettings.mk
          (options.passInterval.getD PlaySettings.standard.interval) scale
          (some passes)) = settings at success ⊢
        generalize played : playPasses settings built = result at success ⊢
        obtain ⟨completed, stage⟩ := result
        dsimp only at success ⊢
        have saved : ((save Folder.access options completed stage).run after).1.2 = none := by
          dsimp only [StateT.run, StateT.bind, StateT.pure, bind, pure] at success ⊢
          generalize save Folder.access options completed stage after = report at success ⊢
          obtain ⟨⟨told, _ | message⟩, left⟩ := report
          · rfl
          · cases success
        obtain ⟨name, named, content⟩ := content?_save wanted saved
        exact ⟨name, completed, stage, named, content, scenario, built, settings, passes,
          congrArg Prod.fst loads, builds, settled ▸ rfl, limit, positive, played⟩

/-- **A run that succeeds has written the snapshot of the stage that it played.** -/
theorem run_success {entropy : UInt64} {args : List String} {path : String}
    (request : Request.of? args = some (.run options)) (plays : options.listBlocks = false)
    (wanted : options.snapshot = some path)
    (success : ((run Folder.access entropy args).run folder).1.ending = .success) :
    ∃ (name : String) (passes : Nat) (stage : Stage), Folder.name? path = some name ∧
      ((run Folder.access entropy args).run folder).2.content? name =
        some (snapshotJson passes stage).pretty.toUTF8 ∧
      IsPlayed folder entropy options passes stage := by
  unfold run at success ⊢
  rw [request] at success ⊢
  dsimp only at success ⊢
  unfold runOptions at success ⊢
  rw [plays] at success ⊢
  simp only [Bool.false_eq_true, ↓reduceIte] at success ⊢
  split at success
  · cases success
  · next nonzero =>
    split at success
    · cases success
    · next scaled =>
      rw [if_neg nonzero, if_neg scaled]
      exact play_success rfl (Nat.one_le_iff_ne_zero.mpr nonzero) wanted success

/-- All programs that a run comes to have finite numbers. -/
theorem IsPlayed.holds {entropy : UInt64}
    (played : IsPlayed folder entropy options passes stage) :
    stage.Holds Program.NumbersFinite := by
  obtain ⟨scenario, built, settings, limit, loads, builds, limited, -, positive, comes⟩ := played
  have finite := numbersFinite_of_loadScenario loads
  have holds := holds_playPasses limited positive (finite.holds_build builds)
    fun _ finite => finite.reversed
  rwa [comes] at holds

/-- Only a success has the code zero. -/
theorem success_of_code {ending : Ending} (code : ending.code = 0) : ending = .success := by
  cases ending with
  | success => rfl
  | usage | failure => cases code

end CommandLine

/-! ## Scripts survive -/

/-- **Scripts survive their JSON form.**  Exactly the scripts with finite numbers are found again in
their trees, also if the fields of the objects stand in another order, and so are the programs of
all actors in the snapshot of a stage.  A run of the command line that succeeds has written the
snapshot of the stage that it played, and that one tells what program every actor holds. -/
theorem scripts_survive_json :
    (∀ script : Script, Script.ofJson? script.toJson = some script ↔ script.NumbersFinite) ∧
    (∀ (script : Script) (tree : Json), script.NumbersFinite → script.toJson.Reordered tree →
      Script.ofJson? tree = some script) ∧
    (∀ (passes : Nat) (stage : Stage) (tree : Json),
      (∀ x ∈ stage.roster.actors, Program.NumbersFinite x.program) →
      (CommandLine.snapshotJson passes stage).Reordered tree →
        Stage.heldOfJson? tree = some (stage.roster.actors.map fun x => (x.id, x.program))) ∧
    ∀ (folder : CommandLine.Folder) (entropy : UInt64) (args : List String)
      (options : CommandLine.Options) (path : String),
      CommandLine.Request.of? args = some (.run options) → options.listBlocks = false →
      options.snapshot = some path →
      ((CommandLine.run CommandLine.Folder.access entropy args).run folder).1.ending = .success →
        ∃ (name : String) (passes : Nat) (stage : Stage),
          CommandLine.Folder.name? path = some name ∧
          ((CommandLine.run CommandLine.Folder.access entropy args).run folder).2.content? name =
            some (CommandLine.snapshotJson passes stage).pretty.toUTF8 ∧
          CommandLine.IsPlayed folder entropy options passes stage ∧
          ∀ tree, (CommandLine.snapshotJson passes stage).Reordered tree →
            Stage.heldOfJson? tree =
              some (stage.roster.actors.map fun x => (x.id, x.program)) := by
  refine ⟨Script.ofJson?_toJson_iff, fun script tree => script.ofJson?_of_reordered,
    fun passes stage tree finite => Stage.heldOfJson?_of_reordered finite passes, ?_⟩
  intro folder entropy args options path request plays wanted success
  obtain ⟨name, passes, stage, named, content, played⟩ :=
    CommandLine.run_success request plays wanted success
  have finite := fun x mem => (played.holds x mem).program
  exact ⟨name, passes, stage, named, content, played,
    fun tree => Stage.heldOfJson?_of_reordered finite passes⟩

/-- A repetition, whose count is a text, of a repetition of nothing. -/
def medley : Script :=
  let nothing := Block.repetition.instantiate ⟨"nothing"⟩ .nil
  Block.repetition.instantiate ⟨"medley"⟩
    (.ofList [("count", .text " 2 "), ("scripts", .scripts [nothing])])

/-- A folder with a scenario of one script. -/
def shelf : CommandLine.Folder :=
  ⟨[("in", "\x7b\"scripts\": [\x7b\"block\": \"repeat\"\x7d]\x7d".toUTF8)]⟩

/-- The medley is found again in its tree, and a run over the folder tells its programs. -/
theorem medley_survives_json :
    Script.ofJson? medley.toJson = some medley ∧
    ∃ (name : String) (passes : Nat) (stage : Stage), CommandLine.Folder.name? "./out" = some name ∧
      ((CommandLine.run CommandLine.Folder.access 0
        ["--scenario=./in", "--snapshot-json=./out"]).run shelf).2.content? name =
          some (CommandLine.snapshotJson passes stage).pretty.toUTF8 ∧
      Stage.heldOfJson? (CommandLine.snapshotJson passes stage) =
        some (stage.roster.actors.map fun x => (x.id, x.program)) := by
  have finite : ∀ x ∈ medley.numbers, x.isFinite = true := by decide +kernel
  have code : ((CommandLine.run CommandLine.Folder.access 0
      ["--scenario=./in", "--snapshot-json=./out"]).run shelf).1.ending.code = 0 := by
    decide +kernel
  have request : CommandLine.Request.of? ["--scenario=./in", "--snapshot-json=./out"] =
      some (.run { CommandLine.Options.unset with
        scenario := some "./in", snapshot := some "./out" }) := by
    rfl
  obtain ⟨survives, -, -, runs⟩ := scripts_survive_json
  refine ⟨(survives medley).mpr finite, ?_⟩
  obtain ⟨name, passes, stage, named, content, -, tells⟩ :=
    runs shelf 0 _ _ "./out" request rfl rfl (CommandLine.success_of_code code)
  exact ⟨name, passes, stage, named, content, tells _ (.refl _)⟩

end BlockStage
