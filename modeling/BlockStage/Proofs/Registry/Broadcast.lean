import BlockStage.Proofs.Registry.Holdings
import Mathlib.Data.List.Induction

/-!
# Every program lists what was authored

A submitted script is appended once to the registry and to every program, a deleted one is taken
out of all of them, and trades only copy programs or flip signs in them.  So the registry and all
programs, those set aside during a swap included, list the same ids in the same order
(`Stage.InStep`), whatever trades and returns come between the edits.

`registry_and_programs_follow_history` ties this to the history itself: `authored` folds it into a
plain list of scripts, and in every reached state that list is the registry.
-/

namespace BlockStage

/-! ## Actors that list given ids -/

/-- The program of an actor lists `ids`, and so does its saved program if it has one. -/
structure Actor.Lists (ids : List ScriptId) (x : Actor) : Prop where
  program : Program.ids x.program = ids
  saved : ∀ program, x.saved = some program → Program.ids program = ids

variable {ids : List ScriptId} {r : Roster} {s t : Stage}

/-- All actors of a roster list the same ids. -/
def Roster.Lists (ids : List ScriptId) (r : Roster) : Prop := ∀ x ∈ r.actors, x.Lists ids

theorem Roster.lists_iff_holds : r.Lists ids ↔ r.Holds (Program.ids · = ids) :=
  forall₂_congr fun _ _ =>
    ⟨fun lists => ⟨lists.program, lists.saved⟩, fun holds => ⟨holds.program, holds.saved⟩⟩

/-! ## Stages in step -/

/-- The registered ids are distinct, and every program lists them. -/
structure Stage.InStep (s : Stage) : Prop where
  distinct : (Program.ids s.registry.scripts).Nodup
  held : s.roster.Lists (Program.ids s.registry.scripts)

theorem Stage.InStep.holds (h : s.InStep) :
    s.Holds (Program.ids · = Program.ids s.registry.scripts) := Roster.lists_iff_holds.mp h.held

/-- In step with the same registry. -/
theorem Stage.InStep.of_holds (h : s.InStep) (same : t.registry = s.registry)
    (holds : t.Holds (Program.ids · = Program.ids s.registry.scripts)) : t.InStep :=
  ⟨same ▸ h.distinct, same ▸ Roster.lists_iff_holds.mpr holds⟩

theorem Stage.InStep.of_alike (h : s.InStep) (alike : s.Alike t) : t.InStep :=
  h.of_holds alike.registry (h.holds.of_alike alike)

/-- In step, nobody holds a script that is not registered. -/
theorem Stage.InStep.divergence?_eq_none (h : s.InStep) :
    s.registry.divergence? s.roster = none := by
  rw [Registry.divergence?, List.findSome?_eq_none_iff]
  intro x mem
  rw [Option.map_eq_none_iff, List.find?_eq_none]
  intro script held
  obtain ⟨program, lists, among⟩ := (h.holds x mem).exists_of_mem_held held
  have listed : script.id ∈ Program.ids s.registry.scripts := by
    rw [← lists]
    exact List.mem_map_of_mem among
  simpa using Registry.has_iff.mpr listed

theorem Stage.InStep.isConsistent (h : s.InStep) : s.isConsistent = true := by
  rw [Stage.isConsistent, h.divergence?_eq_none]
  rfl

theorem Stage.inStep_start (setup : StageSetup) : (Stage.start setup).InStep := by
  have bare : (Stage.empty setup.seed setup.capacity).roster.Holds (Program.ids · = []) := by
    intro x mem
    cases mem
  rw [Stage.start]
  split
  · exact ⟨List.nodup_nil, Roster.lists_iff_holds.mpr (bare.spawnAt starterPosition rfl)⟩
  · exact ⟨List.nodup_nil, Roster.lists_iff_holds.mpr bare⟩

theorem Stage.InStep.create (h : s.InStep) : s.create.2.InStep :=
  h.of_holds rfl (h.holds.create rfl)

/-! ### Placements, contact by contact -/

/-- A placement in the middle: the actor stands at its place and all flags are up to date, but
only the first `k` contacts have taken effect. -/
def Stage.midPlacement (s : Stage) (id : ActorId) (position : Position) (k : Nat) : Stage :=
  (s.moved id position).settleAll ((s.contacts id position).take k)

theorem Program.ids_reversed_eq {program : Program} (lists : Program.ids program = ids) :
    Program.ids program.reversed = ids := program.ids_reversed.trans lists

theorem Stage.InStep.midPlacement (h : s.InStep) (id : ActorId) (position : Position) (k : Nat) :
    (s.midPlacement id position k).InStep :=
  h.of_holds (Stage.registry_settleAll _ _)
    ((h.holds.moved id position).settleAll (fun _ => Program.ids_reversed_eq) _)

theorem Stage.InStep.place (h : s.InStep) (id : ActorId) (position : Position) :
    (s.place id position).2.InStep :=
  h.of_holds (s.registry_place id position)
    (h.holds.place (fun _ => Program.ids_reversed_eq) id position)

/-! ### Edits -/

theorem Stage.InStep.submit (h : s.InStep) (script : Script) : (s.submit script).2.InStep := by
  by_cases known : s.registry.has script.id = true
  · rw [Stage.submit_of_known known]
    exact h
  · have fresh : script.id ∉ Program.ids s.registry.scripts :=
      fun mem => known (Registry.has_iff.mpr mem)
    have appended := Program.ids_append fresh
    refine Stage.InStep.of_alike ⟨?_, Roster.lists_iff_holds.mpr ?_⟩ (Stage.alike_submit known)
    · show (Program.ids (Program.append s.registry.scripts script)).Nodup
      rw [appended, List.nodup_append]
      refine ⟨h.distinct, List.nodup_singleton _, fun x mem y new => ?_⟩
      rw [List.mem_singleton.mp new]
      rintro rfl
      exact fresh mem
    · refine h.holds.edited fun program lists => ?_
      rw [Program.ids_append (lists ▸ fresh), lists]
      exact appended.symm

theorem Stage.InStep.delete (h : s.InStep) (id : ScriptId) : (s.delete id).2.InStep := by
  have dropped := Program.ids_drop s.registry.scripts id
  refine Stage.InStep.of_alike ⟨?_, Roster.lists_iff_holds.mpr ?_⟩ (s.alike_delete id)
  · show (Program.ids (Program.drop s.registry.scripts id)).Nodup
    rw [dropped]
    exact h.distinct.filter _
  · refine h.holds.edited fun program lists => ?_
    rw [Program.ids_drop, lists]
    exact dropped.symm

/-- **Every operation keeps a stage in step.** -/
theorem Stage.InStep.apply (h : s.InStep) (operation : Operation) :
    (operation.apply s).InStep := by
  cases operation.change s with
  | still alike => exact h.of_alike alike
  | created alike => exact h.create.of_alike alike
  | placed id position alike => exact (h.place id position).of_alike alike
  | submitted script alike => exact (h.submit script).of_alike alike
  | deleted id alike => exact (h.delete id).of_alike alike

theorem Stage.InStep.after (h : s.InStep) (operations : List Operation) :
    (s.after operations).InStep := by
  induction operations generalizing s with
  | nil => exact h
  | cons operation rest ih => exact ih (h.apply operation)

theorem Stage.InStep.act (h : s.InStep) (act : Act) : (act.apply s).InStep := by
  rcases act.exists_operations s with ⟨operation, rfl⟩ | ⟨operations, _, same⟩
  · exact h.apply operation
  · rw [same]
    exact h.after operations

/-! ## The authored list -/

/-- What an act does to a plain list of scripts: a submission appends a script whose id is new, a
deletion drops the script of its id, and nothing else matters. -/
def Act.edit (scripts : List Script) : Act → List Script
  | .operate (.submit script) =>
    if script.id ∈ Program.ids scripts then scripts else scripts ++ [script]
  | .operate (.delete id) => scripts.eraseP (·.id = id)
  | _ => scripts

/-- The scripts that a history has authored and not deleted again. -/
def authored (history : List Act) : List Script := history.foldl Act.edit []

@[simp] theorem authored_concat (history : List Act) (act : Act) :
    authored (history ++ [act]) = act.edit (authored history) := List.foldl_append

theorem Stage.registry_submit (s : Stage) (script : Script) :
    (s.submit script).2.registry.scripts =
      Act.edit s.registry.scripts (.operate (.submit script)) := by
  rw [Act.edit]
  by_cases known : s.registry.has script.id = true
  · rw [Stage.submit_of_known known, if_pos (Registry.has_iff.mp known)]
  · rw [Stage.submit_of_fresh known, if_neg fun mem => known (Registry.has_iff.mpr mem)]
    rfl

theorem Stage.InStep.registry_delete (h : s.InStep) (id : ScriptId) :
    (s.delete id).2.registry.scripts = Act.edit s.registry.scripts (.operate (.delete id)) := by
  rw [(s.alike_delete id).registry]
  exact Program.drop_eq_eraseP h.distinct id

theorem Stage.registry_placedAt (s : Stage) (placement : Option (ActorId × Position)) :
    (s.placedAt placement).registry = s.registry := by
  cases placement with
  | none => rfl
  | some place => exact s.registry_place place.1 place.2

/-- What a turn does leaves the registry alone. -/
theorem Stage.Plays.registry {t : Stage} (h : s.Plays t) : t.registry = s.registry := by
  obtain ⟨operations, inTurn, rfl⟩ := h
  induction operations generalizing s with
  | nil => rfl
  | cons operation rest ih =>
      obtain ⟨first, inTurn⟩ := List.forall_mem_cons.mp inTurn
      refine (ih inTurn).trans ?_
      cases operation with
      | perform actor script =>
          exact (s.alike_perform actor script).registry.trans (s.registry_placedAt _)
      | hush actor => rfl
      | create | place | face | select | submit | delete | nudge | note | take => cases first

/-- **An act changes the registry as it changes the authored list.** -/
theorem Stage.InStep.registry_act (h : s.InStep) (act : Act) :
    (act.apply s).registry.scripts = act.edit s.registry.scripts := by
  cases act with
  | beginProgram instant breath actor program =>
      exact congrArg Registry.scripts (Pass.plays_proceed _ _ _ s).registry
  | beginPass instant breath =>
      exact congrArg Registry.scripts (Pass.plays_start _ _ _ s).registry
  | resumePass instant breath pass =>
      exact congrArg Registry.scripts (Pass.plays_resume _ _ _ s).registry
  | operate operation =>
      cases operation with
      | submit script => exact s.registry_submit script
      | delete id => exact h.registry_delete id
      | place id position => exact congrArg Registry.scripts (s.registry_place id position)
      | nudge script =>
          exact congrArg Registry.scripts
            ((s.alike_nudge script).registry.trans (s.registry_placedAt _))
      | perform actor script =>
          exact congrArg Registry.scripts (s.plays_perform actor script).registry
      | select actor => exact congrArg Registry.scripts (s.alike_select actor).registry
      | create | face | hush | note | take => rfl

/-! ## Whole histories -/

/-- The stage that a history of acts reaches from its beginning. -/
def Stage.reached (setup : StageSetup) (history : List Act) : Stage :=
  (Stage.start setup).afterActs history

@[simp] theorem Stage.reached_concat (setup : StageSetup) (history : List Act) (act : Act) :
    Stage.reached setup (history ++ [act]) = act.apply (Stage.reached setup history) :=
  Stage.afterActs_concat _ _ _

/-- In step with each other, and with the authored list. -/
theorem Stage.inStep_reached (setup : StageSetup) (history : List Act) :
    (Stage.reached setup history).InStep ∧
      (Stage.reached setup history).registry.scripts = authored history := by
  induction history using List.reverseRecOn with
  | nil =>
      refine ⟨Stage.inStep_start setup, ?_⟩
      show (Stage.start setup).registry.scripts = []
      rw [Stage.start]
      split <;> rfl
  | append_singleton before act ih =>
      obtain ⟨inStep, registered⟩ := ih
      rw [Stage.reached_concat, authored_concat]
      exact ⟨inStep.act act, (inStep.registry_act act).trans (congrArg (Act.edit · act) registered)⟩

theorem Act.edit_submit_eq_append_iff {scripts : List Script} {script : Script} :
    Act.edit scripts (.operate (.submit script)) = scripts ++ [script] ↔
      script.id ∉ Program.ids scripts := by
  rw [Act.edit]
  split
  · next known => simp [known]
  · next fresh => simp [fresh]

theorem Act.edit_delete_ne_iff {scripts : List Script} {id : ScriptId} :
    Act.edit scripts (.operate (.delete id)) ≠ scripts ↔ id ∈ Program.ids scripts := by
  rw [Act.edit, ne_eq, List.eraseP_eq_self_iff]
  simp [Program.ids]

theorem Stage.submit_added_iff {script : Script} :
    (s.submit script).1 = true ↔ script.id ∉ Program.ids s.registry.scripts := by
  by_cases known : s.registry.has script.id = true
  · rw [Stage.submit_of_known known]
    simpa using Registry.has_iff.mp known
  · rw [Stage.submit_of_fresh known]
    simpa using fun mem => known (Registry.has_iff.mpr mem)

/-- **The registry is the authored list, and every program lists its ids.**  In every reached
stage the registered scripts are those that the history has submitted and not deleted again, in
order and with distinct ids; programs and saved programs list the same ids; a submission tells
whether it appended and a deletion whether it dropped; and nobody ever holds a script that is not
registered, also not between two operations of a turn or two contacts of a placement. -/
theorem registry_and_programs_follow_history (setup : StageSetup) (history : List Act) :
    (Stage.reached setup history).registry.scripts = authored history ∧
    (Program.ids (authored history)).Nodup ∧
    (∀ x ∈ (Stage.reached setup history).roster.actors,
      Program.ids x.program = Program.ids (authored history) ∧
      ∀ saved, x.saved = some saved → Program.ids saved = Program.ids (authored history)) ∧
    (∀ script, ((Stage.reached setup history).submit script).1 = true ↔
      authored (history ++ [.operate (.submit script)]) = authored history ++ [script]) ∧
    (∀ id, ((Stage.reached setup history).delete id).1 = true ↔
      authored (history ++ [.operate (.delete id)]) ≠ authored history) ∧
    (Stage.reached setup history).registry.divergence?
      (Stage.reached setup history).roster = none ∧
    ∀ operations actor position k,
      (((Stage.reached setup history).after operations).midPlacement
        actor position k).isConsistent = true := by
  obtain ⟨inStep, registered⟩ := Stage.inStep_reached setup history
  rw [← registered]
  refine ⟨rfl, inStep.distinct, fun x mem => ?_, fun script => ?_, fun id => ?_,
    inStep.divergence?_eq_none, fun operations actor position k => ?_⟩
  · exact ⟨(inStep.held x mem).program, (inStep.held x mem).saved⟩
  · rw [Stage.submit_added_iff, authored_concat, ← registered, Act.edit_submit_eq_append_iff]
  · rw [Stage.fst_delete, Registry.has_iff, authored_concat, ← registered, Act.edit_delete_ne_iff]
  · exact ((inStep.after operations).midPlacement actor position k).isConsistent

end BlockStage
