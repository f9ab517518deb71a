import BlockStage.CommandLine.Report
import BlockStage.Proofs.Playback.Timeline
import BlockStage.Proofs.Stage.Records

/-!
# The history that a log is the end of

The account of a playback tells line by line what is done to the log of its stage
(`Stage.uses`), so the log is the one that is used in this way from the beginning on
(`Playback.log_after`).  All events that were ever logged are the history of these uses, and the
log keeps the end of it with its places (`log_is_numbered_end_of_history`).
-/

namespace BlockStage

/-! ## Accounts and logs -/

/-- What a line of an account does to the log. -/
def Entry.uses (s : Stage) : Entry → List EventLog.Use
  | .does operation | .outside operation => operation.uses s
  | .logs event => [.record event]
  | .opens _ | .turn _ _ | .closes => []

/-- What the lines of an account do to the log one after another. -/
def Stage.uses : Stage → List Entry → List EventLog.Use
  | _, [] => []
  | s, entry :: rest => entry.uses s ++ (entry.apply s).uses rest

variable {s : Stage}

theorem Entry.log_apply (entry : Entry) (s : Stage) :
    (entry.apply s).log = s.log.used (entry.uses s) := by
  cases entry with
  | does operation | outside operation => exact operation.log_apply s
  | logs | opens | turn | closes => rfl

theorem Stage.log_replay (s : Stage) (entries : List Entry) :
    (s.replay entries).log = s.log.used (s.uses entries) := by
  induction entries generalizing s with
  | nil => rfl
  | cons entry rest ih =>
      rw [Stage.replay_cons, ih, entry.log_apply, Stage.uses, EventLog.used_append]

/-! ## From the beginning on -/

/-- What is done to the log before anything happens: the actor of the beginning is logged. -/
def StageSetup.uses (setup : StageSetup) : List EventLog.Use :=
  if setup.starter then [.record (.created (Roster.empty setup.seed).nextId)] else []

theorem Stage.log_start (setup : StageSetup) :
    (Stage.start setup).log = (EventLog.empty setup.capacity).used setup.uses := by
  rw [Stage.start, StageSetup.uses]
  split <;> rfl

/-- What is done to the log of a stage from its beginning on, by a playback and by others. -/
def Playback.uses (settings : PlaySettings) (setup : StageSetup) (moves : List Playback.Move) :
    List EventLog.Use :=
  setup.uses ++
    (Stage.start setup).uses ((Playback.of settings (.start setup)).timeline moves)

theorem Playback.log_after (settings : PlaySettings) (setup : StageSetup)
    (moves : List Playback.Move) :
    ((Playback.of settings (.start setup)).after moves).stage.log =
      (EventLog.empty setup.capacity).used (Playback.uses settings setup moves) := by
  rw [← (Playback.recorded_timeline settings setup moves).replays, Stage.log_replay,
    Stage.log_start, Playback.uses, EventLog.used_append]

/-- What is written of the log is the history with its places, without the dropped events. -/
theorem EventLog.Keeps.eventLogJson {log : EventLog} {past fresh : List Event}
    (h : log.Keeps past fresh) :
    CommandLine.eventLogJson log =
      .object [("events", .array ((past.zipIdx.drop log.dropped).map fun (event, place) =>
        .object [("sequence", .nat place), ("label", .text event.label)]))] := by
  rw [CommandLine.eventLogJson, h.numbered, List.map_map]
  rfl

/-- **A log is the end of its history, with its places.**  Whatever is done to a stage and its
playback, with whatever capacity and however often the log is emptied: the log never holds more
than its capacity; it holds the newest of the events that were logged since it was last emptied,
so none of them was dropped early; it is the history without its first `dropped` events; it is
taken out as such, and counts on from there; and what is written of it gives each event its place
in the history. -/
theorem log_is_numbered_end_of_history (settings : PlaySettings) (setup : StageSetup)
    (moves : List Playback.Move) :
    let log := ((Playback.of settings (.start setup)).after moves).stage.log
    let uses := Playback.uses settings setup moves
    let history := EventLog.history uses
    log = (EventLog.empty setup.capacity).used uses ∧
      log.entries.length ≤ setup.capacity ∧
      log.entries = (EventLog.recent uses).rtake setup.capacity ∧
      log.entries = history.drop log.dropped ∧
      log.dropped + log.entries.length = history.length ∧
      log.take.1 = history.drop log.dropped ∧
      log.take.2.entries = [] ∧ log.take.2.dropped = history.length ∧
      CommandLine.eventLogJson log =
        .object [("events", .array ((history.zipIdx.drop log.dropped).map fun (event, place) =>
          .object [("sequence", .nat place), ("label", .text event.label)]))] := by
  intro log uses history
  have used : log = (EventLog.empty setup.capacity).used uses :=
    Playback.log_after settings setup moves
  have keeps : log.Keeps history (EventLog.recent uses) :=
    used ▸ EventLog.keeps_used setup.capacity uses
  have capacity : log.capacity = setup.capacity := by
    rw [used, EventLog.capacity_used]
    rfl
  refine ⟨used, capacity ▸ keeps.length_le, capacity ▸ keeps.newest, keeps.entries, keeps.counted,
    keeps.entries, rfl, ?_, keeps.eventLogJson⟩
  rw [log.dropped_take, keeps.counted]

end BlockStage
