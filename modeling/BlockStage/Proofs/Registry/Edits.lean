import BlockStage.Proofs.Script.Steps
import BlockStage.Proofs.Stage.Operation

/-!
# What an edit of the registry does

A submission of a known id does nothing at all; one of a new id appends the script everywhere
(`Stage.alike_submit`), and a deletion takes an id out of everything (`Stage.alike_delete`).
What an edit does to a program is said by the ids that the program lists.
-/

namespace BlockStage

/-! ## Ids of a program -/

/-- The ids of a program's scripts, in order. -/
def Program.ids (program : Program) : List ScriptId := program.map (·.id)

theorem Script.id_reversed (script : Script) : script.reversed.id = script.id :=
  script.reversal_reversed.id

/-- A program that runs backwards lists the same ids. -/
theorem Program.Reversal.ids_eq {program back : Program} (h : Program.Reversal program back) :
    Program.ids back = Program.ids program := by
  rw [Program.Reversal] at h
  induction h with
  | nil => rfl
  | cons here _ ih => exact congrArg₂ List.cons here.id ih

@[simp] theorem Program.ids_reversed (program : Program) :
    Program.ids program.reversed = Program.ids program :=
  (Program.reversal_iff.mpr rfl).ids_eq

theorem Program.has_iff_mem_ids {program : Program} {id : ScriptId} :
    program.has id = true ↔ id ∈ Program.ids program := by
  simp [Program.has, Program.ids]

theorem Program.append_of_not_mem {program : Program} {script : Script}
    (fresh : script.id ∉ Program.ids program) : program.append script = program ++ [script] := by
  rw [Program.append, if_neg fun known => fresh (Program.has_iff_mem_ids.mp known)]

theorem Program.ids_append {program : Program} {script : Script}
    (fresh : script.id ∉ Program.ids program) :
    Program.ids (program.append script) = Program.ids program ++ [script.id] := by
  rw [Program.append_of_not_mem fresh, Program.ids, List.map_append]
  rfl

theorem Program.ids_drop (program : Program) (id : ScriptId) :
    Program.ids (program.drop id) = (Program.ids program).filter (· ≠ id) := by
  rw [Program.ids, Program.ids, Program.drop, List.filter_map]
  rfl

/-- Where ids are distinct, dropping an id drops one script at most. -/
theorem Program.drop_eq_eraseP {program : Program} (distinct : (Program.ids program).Nodup)
    (id : ScriptId) : program.drop id = program.eraseP (·.id = id) := by
  induction program with
  | nil => rfl
  | cons script rest ih =>
      obtain ⟨fresh, distinct⟩ := List.nodup_cons.mp distinct
      by_cases hit : script.id = id
      · have unmet : ∀ other ∈ rest, ¬ other.id = id := by
          rintro other mem rfl
          exact fresh (List.mem_map.mpr ⟨other, mem, hit.symm⟩)
        rw [List.eraseP_cons_of_pos (by simpa using hit), Program.drop,
          List.filter_cons_of_neg (by simpa using hit), List.filter_eq_self]
        intro other mem
        simpa using unmet other mem
      · rw [List.eraseP_cons_of_neg (by simpa using hit), ← ih distinct, Program.drop,
          List.filter_cons_of_pos (by simpa using hit)]
        rfl

/-! ## Edits of a stage -/

variable {s : Stage}

theorem Stage.submit_of_known {script : Script} (known : s.registry.has script.id = true) :
    s.submit script = (false, s) := by
  rw [Stage.submit, Registry.add, if_pos known]

theorem Stage.submit_of_fresh {script : Script} (fresh : ¬ s.registry.has script.id = true) :
    s.submit script = (true, { s with
      registry := ⟨s.registry.scripts ++ [script]⟩
      roster := s.roster.updateAll (Actor.edit (Program.append · script)) }.record
        (.added script.id)) := by
  rw [Stage.submit, Registry.add, if_neg fresh]

/-- An edit that reaches the registry and every program. -/
def Stage.edited (s : Stage) (edit : Program → Program) : Stage :=
  { s with
    registry := ⟨edit s.registry.scripts⟩
    roster := s.roster.updateAll (Actor.edit edit) }

theorem Stage.alike_submit {script : Script} (fresh : ¬ s.registry.has script.id = true) :
    (s.edited (Program.append · script)).Alike (s.submit script).2 := by
  have unlisted : script.id ∉ Program.ids s.registry.scripts :=
    fun mem => fresh (Program.has_iff_mem_ids.mpr mem)
  rw [Stage.submit_of_fresh fresh, Stage.edited, Program.append_of_not_mem unlisted]
  exact alike_record _ _

/-- A deletion takes the id out of everything, whether it is registered or not. -/
theorem Stage.alike_delete (s : Stage) (id : ScriptId) :
    (s.edited (Program.drop · id)).Alike (s.delete id).2 := by
  rw [Stage.delete, Registry.remove]
  cases s.registry.has id
  · exact .refl _
  · exact alike_record _ _

theorem Stage.fst_delete (s : Stage) (id : ScriptId) : (s.delete id).1 = s.registry.has id := by
  rw [Stage.delete, Registry.remove]
  cases s.registry.has id <;> rfl

theorem Registry.has_iff {registry : Registry} {id : ScriptId} :
    registry.has id = true ↔ id ∈ Program.ids registry.scripts := Program.has_iff_mem_ids

theorem Stage.ids_submit (s : Stage) (script : Script) :
    (s.submit script).2.roster.ids = s.roster.ids := by
  by_cases known : s.registry.has script.id = true
  · rw [Stage.submit_of_known known]
  · rw [Stage.submit_of_fresh known]
    exact Roster.ids_updateAll (f := Actor.edit _) fun _ => rfl

theorem Stage.collisions_submit (s : Stage) (script : Script) :
    (s.submit script).2.collisions = s.collisions := by
  by_cases known : s.registry.has script.id = true
  · rw [Stage.submit_of_known known]
  · rw [Stage.submit_of_fresh known]
    rfl

theorem Stage.ids_delete (s : Stage) (id : ScriptId) :
    (s.delete id).2.roster.ids = s.roster.ids := by
  rw [(s.alike_delete id).ids]
  exact Roster.ids_updateAll (f := Actor.edit _) fun _ => rfl

theorem Stage.collisions_delete (s : Stage) (id : ScriptId) :
    (s.delete id).2.collisions = s.collisions := (s.alike_delete id).collisions

end BlockStage
