import BlockStage.CommandLine.Folder
import BlockStage.CommandLine.Options
import BlockStage.CommandLine.Report
import BlockStage.Playback.Schedule
import BlockStage.Scenario.Reader

/-!
A run of the command line, from its arguments to what it prints and writes. It is the same over
any kind of files, and all it takes from outside beside them is a seed for the case that none
is given.
-/

namespace BlockStage.CommandLine

/-- How a run ends. -/
inductive Ending where
  | success
  /-- The arguments are not a proper command line. -/
  | usage
  /-- Something failed, perhaps because of something else. -/
  | failure (message : String) (cause : Option String)

def Ending.code : Ending → Nat
  | .success => 0
  | .failure _ _ => 1
  | .usage => 2

/-- What is said about an ending that is no success. The cause of a failure is set in. -/
def Ending.complaint : Ending → List String
  | .success => []
  | .usage => ["error: invalid arguments", "", "For more information, try '--help'."]
  | .failure message none => ["Error: " ++ message]
  | .failure message (some cause) =>
    ["Error: " ++ message, "", "Caused by:"] ++ (cause.splitOn "\n").map ("    " ++ ·)

/-- What a run leaves behind beside its files. -/
structure Outcome where
  ending : Ending
  output : List String
  warnings : List String

def warningLine (text : String) : String := "[sprite_stage] warning: " ++ text

/-- What is said about a time scale that is not a number from zero on. -/
def timeScaleMessage (scale : Float) : String :=
  "--time-scale must be a non-negative number (got " ++ Decimal.plain.write scale ++ ")"

/-- A scenario to be read from a path, or the standard one. -/
def loadScenario [Monad m] (files : Files m) :
    Option String → m (Except String Scenario)
  | none => return .ok .standard
  | some path => do
    match (← files.read path).bind String.fromUTF8? with
    | none => return .error ("reading scenario from " ++ path)
    | some text =>
      match Scenario.parse text with
      | .ok scenario => return .ok scenario
      | .error _ => return .error ("parsing scenario JSON from " ++ path)

/-- Plays a stage for so many passes; gives the passes completed and the stage afterwards. -/
def playPasses (settings : PlaySettings) (stage : Stage) : Nat × Stage :=
  match (Playback.of settings stage).play with
  | (some number, p) =>
    let (completed, p) := p.await number
    (completed.getD p.passes, p.stage)
  | (none, p) => (p.passes, p.stage)

/-- Writes the files that were asked for, the event log first; gives the lines that say so, and
what failed. -/
def save [Monad m] (files : Files m) (options : Options) (passes : Nat) (stage : Stage) :
    m (List String × Option String) := do
  let mut saved := []
  if let some path := options.eventLog then
    if ← files.write path (eventLogJson stage.log).pretty then
      saved := ["Saved event log to " ++ path]
    else return (saved, some ("writing event log to " ++ path))
  if let some path := options.snapshot then
    if ← files.write path (snapshotJson passes stage).pretty then
      saved := saved ++ ["Saved stage snapshot to " ++ path]
    else return (saved, some ("writing stage snapshot to " ++ path))
  return (saved, none)

/-- Builds the stage, plays it and reports. -/
def play [Monad m] (files : Files m) (entropy : UInt64) (options : Options) (passes : Nat)
    (timeScale : Float) : m Outcome := do
  match ← loadScenario files options.scenario with
  | .error message => return ⟨.failure message none, [], []⟩
  | .ok scenario =>
    let seed := ((options.seed.map UInt64.ofNat).or scenario.seed).getD entropy
    let (warnings, result) := scenario.build seed
    let warnings := warnings.map fun w => warningLine w.message
    match result with
    | .error e =>
      return ⟨.failure "building stage from scenario" (some e.message), [], warnings⟩
    | .ok stage =>
      let settings := {
        interval := options.passInterval.getD PlaySettings.standard.interval
        timeScale
        passLimit := some passes }
      let (completed, stage) := playPasses settings stage
      let output := summaryLines completed stage ++
        if options.verbose then eventLines stage.log else []
      let (saved, failed) ← save files options completed stage
      let ending := match failed with
        | none => Ending.success
        | some message => .failure message none
      return ⟨ending, output ++ saved, warnings⟩

/-- Runs with given options. Listing the palette comes before any check of the others. -/
def runOptions [Monad m] (files : Files m) (entropy : UInt64) (options : Options) :
    m Outcome := do
  if options.listBlocks then
    let warnings := match options.scenario with
      | some _ => [warningLine "--scenario is ignored with --list-blocks"]
      | none => []
    return ⟨.success, paletteLines, warnings⟩
  let passes := options.passes.getD 1
  let timeScale := options.timeScale.getD PlaySettings.standard.timeScale
  if passes = 0 then return ⟨.failure "--passes must be at least 1" none, [], []⟩
  else if timeScale.isFinite = false ∨ timeScale < 0 then
    return ⟨.failure (timeScaleMessage timeScale) none, [], []⟩
  else play files entropy options passes timeScale

def run [Monad m] (files : Files m) (entropy : UInt64) (args : List String) : m Outcome :=
  match Request.of? args with
  | none => return ⟨.usage, [], []⟩
  | some .help => return ⟨.success, helpLines, []⟩
  | some .version => return ⟨.success, [versionLine], []⟩
  | some (.run options) => runOptions files entropy options

end BlockStage.CommandLine
