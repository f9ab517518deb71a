import BlockStage.Json.Printer
import BlockStage.Script.Palette
import BlockStage.Stage.View

/-!
What the command line writes: the palette, the summary of a playback, the event log and the
snapshot of the stage.
-/

namespace BlockStage.CommandLine

/-- A text followed by spaces up to a width. -/
def padRight (width : Nat) (text : String) : String :=
  text ++ String.ofList (List.replicate (width - text.length) ' ')

/-- A block with its category and default parameters. -/
def blockLine (block : Block) : String :=
  padRight 8 block.category.name ++ " " ++ padRight 11 block.tag ++ " " ++
    block.defaults.toJson.compact

/-- The palette, one block per line. -/
def paletteLines : List String := Block.all.map blockLine

/-- An actor after the playback; numbers have one place. -/
def actorLine (a : Actor) : String :=
  "  " ++ a.id.label ++ " (" ++ a.name ++ ") at (" ++ Decimal.fixed 1 a.position.x ++ ", " ++
    Decimal.fixed 1 a.position.y ++ ") heading " ++ Decimal.fixed 1 a.heading ++ ", " ++
    toString a.program.length ++ " scripts"

def summaryLines (passes : Nat) (stage : Stage) : List String :=
  ("Playback summary (" ++ toString passes ++ " passes)") :: stage.roster.actors.map actorLine

/-- All events that the log keeps. -/
def eventLines (log : EventLog) : List String := log.entries.map fun event => "  " ++ event.label

/-- The event log with the place of each entry in the whole history. -/
def eventLogJson (log : EventLog) : Json :=
  .object [("events", .array (log.numbered.map fun (n, event) =>
    .object [("sequence", .nat n), ("label", .text event.label)]))]

def snapshotJson (passes : Nat) (stage : Stage) : Json :=
  .object [("passes", .nat passes), ("actors", stage.actorsToJson)]

/-- The name and the version of the program. -/
def versionLine : String := "sprite_stage 0.1.0"

def helpLines : List String :=
  ["Headless stage that plays sprite scripts authored in a scenario file",
   "",
   "Usage: sprite_stage [OPTIONS]",
   "",
   "Options:",
   "      --scenario <SCENARIO>                  Scenario JSON with actor placements and authored scripts (default: one starter actor, no scripts)",
   "      --passes <PASSES>                      Number of playback passes to run before stopping [default: 1]",
   "      --seed <SEED>                          Seed for spawn positions (overrides the scenario's seed)",
   "      --time-scale <TIME_SCALE>              Multiplier for say/think durations; 0 makes dialogue instantaneous [default: 1]",
   "      --pass-interval-ms <PASS_INTERVAL_MS>  Delay between passes in milliseconds [default: 16]",
   "      --event-log-json <EVENT_LOG_JSON>      Path to write the engine event log as JSON",
   "      --snapshot-json <SNAPSHOT_JSON>        Path to write the final actor read model as JSON",
   "      --list-blocks                          Print the palette blocks with their default parameters and exit",
   "      --verbose                              Print every engine event after playback",
   "  -h, --help                                 Print help",
   "  -V, --version                              Print version"]

end BlockStage.CommandLine
