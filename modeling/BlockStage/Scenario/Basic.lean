import BlockStage.Script.Ids
import BlockStage.Script.Palette
import BlockStage.Stage.Basic

/-!
Scenarios: which actors stand where, and which scripts are authored on the stage in which order.
A script is given in full or as a block of the palette with some parameters; the latter may
leave its id to the allocator, which stays clear of all ids that are written out.
-/

namespace BlockStage

/-- An actor of a scenario. What is missing stays as it is for any new actor. -/
structure ActorSetup where
  x : Option Float
  y : Option Float
  heading : Option Float

/-- A script of a scenario. -/
inductive ScriptEntry where
  | full (script : Script)
  | palette (block : String) (id : Option ScriptId) (params : Params none)

/-- What a stage is to look like before it is played. -/
structure Scenario where
  seed : Option UInt64
  starter : Bool
  actors : List ActorSetup
  /-- The actor to select; without it, one is selected all the same if there is any. -/
  select : Option ActorId
  scripts : List ScriptEntry
  /-- Scripts to remove after all were authored. -/
  removed : List ScriptId

/-- The scenario when none is given: one actor and no scripts. -/
def Scenario.standard : Scenario where
  seed := none
  starter := true
  actors := []
  select := none
  scripts := []
  removed := []

/-- Why a scenario has no stage. -/
inductive ScenarioError where
  | unknownBlock (e : UnknownBlock)
  | unknownActor (actor : ActorId)
  | noActors
  | idsExhausted (block : Block)
  deriving DecidableEq, Repr

/-- What is said about a scenario without a stage. -/
def ScenarioError.message : ScenarioError → String
  | .unknownBlock e => e.message
  | .unknownActor actor => "scenario selects " ++ actor.label ++ ", which is not on the stage"
  | .noActors => "scenario authors scripts but has no actor to author them on"
  | .idsExhausted block =>
    "no `script-\x7bn\x7d` ids left to allocate for `" ++ block.tag ++ "`"

/-- A part of a scenario that has no effect. -/
inductive ScenarioWarning where
  | duplicateId (id : ScriptId)
  | unknownRemoval (id : ScriptId)
  deriving DecidableEq, Repr

/-- What is said about such a part. -/
def ScenarioWarning.message : ScenarioWarning → String
  | .duplicateId id => "duplicate script id " ++ id.text ++ " ignored"
  | .unknownRemoval id => "cannot remove unknown script " ++ id.text

/-- The id that is written out in an entry. -/
def ScriptEntry.explicitId? : ScriptEntry → Option ScriptId
  | .full script => some script.id
  | .palette _ id _ => id

/-- The script that an entry stands for, with the allocator after it. -/
def ScriptEntry.script (ids : IdAllocator) :
    ScriptEntry → Except ScenarioError (Script × IdAllocator)
  | .full script => .ok (script, ids)
  | .palette block id params =>
    match Block.ofTag block with
    | .error e => .error (.unknownBlock e)
    | .ok block =>
      match id with
      | some id => .ok (block.instantiate id params, ids)
      | none =>
        match ids.allocate with
        | some (id, ids) => .ok (block.instantiate id params, ids)
        | none => .error (.idsExhausted block)

namespace Scenario

/-- Adds an actor and puts it in its place. -/
def setUpActor (stage : Stage) (setup : ActorSetup) : Except ScenarioError Stage := do
  let (id, stage) := stage.create
  let stage ←
    if setup.x.isSome ∨ setup.y.isSome then
      match stage.actor? id with
      | some actor =>
        let x := setup.x.getD actor.position.x
        let y := setup.y.getD actor.position.y
        pure (stage.place id ⟨x, y⟩).2
      | none => throw (.unknownActor id)
    else pure stage
  match setup.heading with
  | some heading => return (stage.face id heading).2
  | none => return stage

/-- Adds actors one after another. -/
def setUpActors : List ActorSetup → Stage → Except ScenarioError Stage
  | [], stage => .ok stage
  | setup :: rest, stage => do setUpActors rest (← setUpActor stage setup)

/-- Selects an actor, which has to be on the stage. -/
def selectActor (stage : Stage) (id : ActorId) : Except ScenarioError Stage :=
  match stage.select id with
  | .ok stage => .ok stage
  | .error e => .error (.unknownActor e.actor)

/-- Selects the wanted actor; if none is wanted and none is selected, the first one. -/
def selectEditor (wanted : Option ActorId) (stage : Stage) : Except ScenarioError Stage :=
  match wanted, stage.selected, stage.roster.ids with
  | some id, _, _ => selectActor stage id
  | none, none, id :: _ => selectActor stage id
  | none, _, _ => .ok stage

/-- Authors scripts one after another. Warnings are given even if a later entry fails. -/
def author : List ScriptEntry → IdAllocator → Stage →
    List ScenarioWarning × Except ScenarioError Stage
  | [], _, stage => ([], .ok stage)
  | entry :: rest, ids, stage =>
    match entry.script ids with
    | .error e => ([], .error e)
    | .ok (script, ids) =>
      match stage.submit script with
      | (true, stage) => author rest ids stage
      | (false, stage) =>
        let (warnings, result) := author rest ids stage
        (.duplicateId script.id :: warnings, result)

/-- Removes scripts one after another. -/
def remove : List ScriptId → Stage → List ScenarioWarning × Stage
  | [], stage => ([], stage)
  | id :: rest, stage =>
    match stage.delete id with
    | (true, stage) => remove rest stage
    | (false, stage) =>
      let (warnings, result) := remove rest stage
      (.unknownRemoval id :: warnings, result)

/-- An allocator that has seen all ids written out in a list of entries. -/
def allocator (entries : List ScriptEntry) : IdAllocator :=
  (entries.filterMap ScriptEntry.explicitId?).foldl IdAllocator.observe .fresh

/-- The stage of a scenario up to its selection. -/
def prepare (scenario : Scenario) (seed : UInt64) : Except ScenarioError Stage := do
  let stage := Stage.start
    { seed := seed, starter := scenario.starter, capacity := defaultCapacity }
  selectEditor scenario.select (← setUpActors scenario.actors stage)

/-- The scripts of a scenario on a stage; without scripts nobody is needed there. -/
def authorScripts (scenario : Scenario) (stage : Stage) :
    List ScenarioWarning × Except ScenarioError Stage :=
  if scenario.scripts.isEmpty then ([], .ok stage)
  else if stage.selected.isNone then ([], .error .noActors)
  else author scenario.scripts (allocator scenario.scripts) stage

/-- The stage of a scenario: actors first, then the selection, the scripts and the removals. -/
def build (scenario : Scenario) (seed : UInt64) :
    List ScenarioWarning × Except ScenarioError Stage :=
  match scenario.prepare seed with
  | .error e => ([], .error e)
  | .ok stage =>
    match scenario.authorScripts stage with
    | (warnings, .error e) => (warnings, .error e)
    | (warnings, .ok stage) =>
      let (more, stage) := remove scenario.removed stage
      (warnings ++ more, .ok stage)

end Scenario

end BlockStage
