import BlockStage.Proofs.Playback.Reachable
import BlockStage.Proofs.Registry.Broadcast

/-!
# What is refused changes nothing

An operation says by its answer that it was refused (`Operation.Refused`); a play is refused while
the playback is running, and a stop while it is idle.  Whatever is refused leaves everything as it
is.  A deletion, though, is carried out on all programs before anybody asks whether the id is
registered: that it changes nothing otherwise is known only because programs stay in step with the
registry.
-/

namespace BlockStage

variable {s : Stage} {p : Playback}

/-! ## Operations -/

/-- Whether the answer to an operation is a refusal.  A script that is ignored counts as one, and so
does a repetition, since it is left to others to run its body. -/
def Operation.Refused (s : Stage) : Operation → Prop
  | .place actor position => (s.place actor position).1 = false
  | .face actor heading => (s.face actor heading).1 = false
  | .select actor => ∃ e, s.select actor = .error e
  | .submit script => (s.submit script).1 = false
  | .delete id => (s.delete id).1 = false
  | .nudge script => (s.nudge script).1 = false
  | .perform actor script => (s.perform actor script).1 = .ignored ∨
      ∃ times body, (s.perform actor script).1 = .repeating times body
  | .create | .hush _ | .note _ | .take => False

namespace Stage

theorem place_of_refused {id : ActorId} {position : Position}
    (refused : (s.place id position).1 = false) : (s.place id position).2 = s := by
  by_cases known : id ∈ s.roster.ids
  · rw [Stage.place, Roster.place, Roster.has_iff_mem_ids.mpr known] at refused
    cases refused
  · rw [Stage.place_of_not_mem known]

theorem face_of_refused {id : ActorId} {heading : Float}
    (refused : (s.face id heading).1 = false) : (s.face id heading).2 = s := by
  have unknown : id ∉ s.roster.ids := by
    intro known
    rw [Stage.face, Roster.face, Roster.has_iff_mem_ids.mpr known] at refused
    cases refused
  rw [Stage.face, Roster.face, Roster.update_of_not_mem unknown]

theorem submit_of_refused {script : Script} (refused : (s.submit script).1 = false) :
    (s.submit script).2 = s := by
  by_cases known : s.registry.has script.id = true
  · rw [Stage.submit_of_known known]
  · rw [Stage.submit_of_fresh known] at refused
    cases refused

theorem nudgeActor_of_refused {id : ActorId} {script : Script}
    (refused : (s.nudgeActor id script).1 = false) : (s.nudgeActor id script).2 = s := by
  generalize result : s.nudgeActor id script = answer at refused ⊢
  rw [Stage.nudgeActor] at result
  split at result
  · split at result <;> cases result
    · cases refused
    · cases refused
    · cases refused
    · rfl
  · cases result
    rfl

theorem nudge_of_refused {script : Script} (refused : (s.nudge script).1 = false) :
    (s.nudge script).2 = s := by
  generalize result : s.nudge script = answer at refused ⊢
  rw [Stage.nudge] at result
  split at result <;> cases result
  · exact nudgeActor_of_refused refused
  · rfl

/-- A script that is ignored does nothing, and a repetition does nothing by itself. -/
theorem perform_of_refused {id : ActorId} {script : Script}
    (refused : (Operation.perform id script).Refused s) : (s.perform id script).2 = s := by
  rw [Operation.Refused] at refused
  generalize result : s.perform id script = answer at refused ⊢
  rw [Stage.perform] at result
  split at result
  · cases result
    rfl
  · cases result
    rfl
  · next block _ _ =>
    cases block with
    | repetition =>
        cases result
        rfl
    | move | turnLeft | turnRight | goTo | say | think =>
        cases result
        rcases refused with ignored | ⟨times, body, repeats⟩
        · cases ignored
        · cases repeats

end Stage

theorem Program.drop_of_not_mem {program : Program} {id : ScriptId}
    (absent : id ∉ Program.ids program) : program.drop id = program := by
  rw [Program.drop, List.filter_eq_self]
  intro script mem
  refine decide_eq_true fun same => absent ?_
  exact List.mem_map.mpr ⟨script, mem, same⟩

/-- An actor that lists other ids is none the worse for a deletion. -/
theorem Actor.Lists.edit_drop {ids : List ScriptId} {x : Actor} (lists : x.Lists ids)
    {id : ScriptId} (absent : id ∉ ids) : x.edit (Program.drop · id) = x := by
  have program := Program.drop_of_not_mem (lists.program ▸ absent)
  have saved : x.saved.map (Program.drop · id) = x.saved := by
    cases held : x.saved with
    | none => rfl
    | some program => exact congrArg some (Program.drop_of_not_mem (lists.saved _ held ▸ absent))
  rw [Actor.edit, program, saved]

/-- **In step, no program has a script of an id that is not registered**, so nobody loses one. -/
theorem Stage.InStep.delete_of_refused (h : s.InStep) {id : ScriptId}
    (refused : (s.delete id).1 = false) : (s.delete id).2 = s := by
  rw [Stage.fst_delete] at refused
  have absent : id ∉ Program.ids s.registry.scripts := by
    rw [← Registry.has_iff, refused]
    exact Bool.false_ne_true
  have kept : s.roster.updateAll (Actor.edit (Program.drop · id)) = s.roster := by
    have same : s.roster.actors.map (Actor.edit (Program.drop · id)) = s.roster.actors :=
      (List.map_congr_left fun x mem => (h.held x mem).edit_drop absent).trans (List.map_id _)
    rw [Roster.updateAll, same]
  rw [Stage.delete, Registry.remove, refused, Program.drop_of_not_mem absent, kept]

/-- **A refused operation changes nothing.** -/
theorem Stage.InStep.apply_of_refused (h : s.InStep) {operation : Operation}
    (refused : operation.Refused s) : operation.apply s = s := by
  cases operation with
  | place actor position => exact Stage.place_of_refused refused
  | face actor heading => exact Stage.face_of_refused refused
  | select actor =>
      obtain ⟨e, failed⟩ := refused
      rw [Operation.apply, failed]
  | submit script => exact Stage.submit_of_refused refused
  | delete id => exact h.delete_of_refused refused
  | nudge script => exact Stage.nudge_of_refused refused
  | perform actor script => exact Stage.perform_of_refused refused
  | create | hush | note | take => cases refused

/-! ## Playback -/

/-- Stages that can be reached are in step. -/
theorem Playback.Reached.inStep (reached : p.Reached) : p.stage.InStep :=
  reached.kept Stage.inStep_start (fun operation _ h => h.apply operation)
    fun _ _ h => h.of_alike (Stage.alike_record _ _)

/-- Whether a move is refused. -/
def Playback.Move.Refused (p : Playback) : Playback.Move → Prop
  | .play => p.state = .running
  | .stop => p.state = .idle
  | .operate operation => operation.Refused p.stage
  | .resume _ _ | .elapse _ _ => False

/-- **What is refused leaves no trace.**  Whatever has happened, a refused operation leaves the
whole stage as it is, and the playback too; so does a play while the playback is running, and a
stop while it is idle.  A preview that is refused leaves the stage alone on whatever actor it is
tried. -/
theorem refused_moves_change_nothing (p : Playback) (reached : p.Reached) :
    (∀ move : Playback.Move, move.Refused p → move.apply p = p) ∧
      ∀ actor script, (p.stage.nudgeActor actor script).1 = false →
        (p.stage.nudgeActor actor script).2 = p.stage := by
  refine ⟨fun move refused => ?_, fun actor script => Stage.nudgeActor_of_refused⟩
  cases move with
  | play => exact congrArg Prod.snd (Playback.play_of_running refused)
  | stop =>
      have idle : ¬ p.state = .running := by
        rw [show p.state = .idle from refused]
        exact nofun
      exact congrArg Prod.snd (Playback.stop_of_idle idle)
  | operate operation =>
      rw [Playback.Move.apply, reached.inStep.apply_of_refused refused]
  | resume | elapse => cases refused

/-- Two actors that have traded their programs, on a stage that is being played. -/
def playedTrade : Playback :=
  (Playback.of .standard (.start ⟨0, true, 3⟩)).afterAll
    [.move (.operate (.submit (Block.repetition.instantiate ⟨"again"⟩ .nil))),
      .move (.operate .create), .move (.operate (.place ⟨2⟩ ⟨100, 110⟩)), .move .play]

/-- There a script that nobody knows is not deleted, and the play under way not started again. -/
theorem refusals_while_playing : playedTrade.Reached ∧
    playedTrade.stage.roster.actors.map Actor.isSwapped = [true, true] ∧
    (Playback.Move.operate (.delete ⟨"unknown"⟩)).Refused playedTrade ∧
    (Playback.Move.operate (.delete ⟨"unknown"⟩)).apply playedTrade = playedTrade ∧
    Playback.Move.play.Refused playedTrade ∧
    Playback.Move.play.apply playedTrade = playedTrade := by
  have reached : playedTrade.Reached := ⟨_, _, _, .start _, rfl⟩
  have unknown : (Playback.Move.operate (.delete ⟨"unknown"⟩)).Refused playedTrade :=
    show (playedTrade.stage.delete ⟨"unknown"⟩).1 = false by decide +kernel
  have running : Playback.Move.play.Refused playedTrade :=
    show playedTrade.state = .running by decide +kernel
  obtain ⟨unchanged, -⟩ := refused_moves_change_nothing playedTrade reached
  exact ⟨reached, by decide +kernel, unknown, unchanged _ unknown, running,
    unchanged _ running⟩

end BlockStage
