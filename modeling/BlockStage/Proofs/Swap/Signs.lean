import BlockStage.Proofs.Registry.Broadcast
import BlockStage.Proofs.Script.Steps
import BlockStage.Proofs.Swap.Partners
import Mathlib.Data.List.Forall2

/-!
# What swaps leave of a script

Swaps copy programs, reverse their moves, set them aside and take them up again, in any order and
with edits in between, so the scripts of one program may have been reversed more or less often than
each other.  Still every program goes along with the registry script by script, each one up to the
sign of its steps (`Stage.Signed`): this is kept by one more reversal, by copies, and by every edit.
-/

namespace BlockStage

variable {s t : Stage} {registered program : Program}

/-- The scripts of a program come of the registered ones by reversals. -/
def Program.Signed (registered program : Program) : Prop :=
  List.Forall₂ Script.Signed registered program

theorem Program.signed_refl (registered : Program) : Program.Signed registered registered :=
  List.forall₂_same.mpr fun _ _ => .same

theorem Program.Signed.reversed (h : Program.Signed registered program) :
    Program.Signed registered program.reversed :=
  List.forall₂_map_right_iff.mpr (h.imp fun _ _ => Script.Signed.reversed)

theorem Program.Signed.ids_eq (h : Program.Signed registered program) :
    Program.ids program = Program.ids registered := by
  induction h with
  | nil => rfl
  | cons first _ ih => exact congrArg₂ List.cons first.id_eq ih

theorem Program.Signed.append (h : Program.Signed registered program) {script : Script}
    (fresh : script.id ∉ Program.ids registered) :
    Program.Signed (Program.append registered script) (program.append script) := by
  rw [Program.append_of_not_mem fresh, Program.append_of_not_mem (h.ids_eq ▸ fresh)]
  exact List.rel_append h (Program.signed_refl [script])

theorem Program.Signed.drop (h : Program.Signed registered program) (id : ScriptId) :
    Program.Signed (Program.drop registered id) (program.drop id) := by
  refine List.rel_filter (fun r e signed => ?_) h
  simp [signed.id_eq]

theorem Program.Signed.exists_of_mem (h : Program.Signed registered program) {e : Script}
    (mem : e ∈ program) : ∃ r ∈ registered, Script.Signed r e := by
  induction h with
  | nil => cases mem
  | cons first _ ih =>
      rcases List.mem_cons.mp mem with rfl | later
      · exact ⟨_, List.mem_cons_self, first⟩
      · obtain ⟨r, registered, signed⟩ := ih later
        exact ⟨r, List.mem_cons_of_mem _ registered, signed⟩

/-! ## Stages -/

/-- Every program goes along with the registry, up to signs. -/
def Stage.Signed (s : Stage) : Prop := s.Holds (Program.Signed s.registry.scripts)

theorem Stage.Signed.of_alike (h : s.Signed) (alike : s.Alike t) : t.Signed := by
  rw [Stage.Signed, alike.registry]
  exact Stage.Holds.of_alike h alike

theorem Stage.Signed.create (h : s.Signed) : s.create.2.Signed :=
  Stage.Holds.create h (Program.signed_refl _)

theorem Stage.Signed.submit (h : s.Signed) (script : Script) : (s.submit script).2.Signed := by
  by_cases known : s.registry.has script.id = true
  · rw [Stage.submit_of_known known]
    exact h
  · have fresh : script.id ∉ Program.ids s.registry.scripts :=
      fun mem => known (Registry.has_iff.mpr mem)
    have edited : (s.edited (Program.append · script)).Signed :=
      Stage.Holds.edited h fun _ signed => signed.append fresh
    exact edited.of_alike (Stage.alike_submit known)

theorem Stage.Signed.delete (h : s.Signed) (id : ScriptId) : (s.delete id).2.Signed := by
  have edited : (s.edited (Program.drop · id)).Signed :=
    Stage.Holds.edited h fun _ signed => signed.drop id
  exact edited.of_alike (s.alike_delete id)

theorem Stage.Signed.placedAt (h : s.Signed) (placement : Option (ActorId × Position)) :
    (s.placedAt placement).Signed := by
  rw [Stage.Signed, s.registry_placedAt]
  exact Stage.Holds.placedAt h (fun _ => Program.Signed.reversed) placement

/-- **Every operation keeps programs and registry together.** -/
theorem Stage.Signed.step (h : s.Signed) {operation : Operation} (step : s.Step t operation) :
    t.Signed := by
  cases step with
  | created alike => exact h.create.of_alike alike
  | submitted script alike => exact (h.submit script).of_alike alike
  | deleted id alike => exact (h.delete id).of_alike alike
  | placed _ alike => exact (h.placedAt _).of_alike alike

theorem Stage.Signed.after (h : s.Signed) (operations : List Operation) :
    (s.after operations).Signed := by
  induction operations generalizing s with
  | nil => exact h
  | cons operation rest ih => exact ih (h.step (operation.step s))

theorem Stage.signed_start (setup : StageSetup) : (Stage.start setup).Signed := by
  have bare : (Stage.empty setup.seed setup.capacity).roster.Holds (Program.Signed []) := by
    intro x mem
    cases mem
  rw [Stage.start]
  split
  · exact bare.spawnAt starterPosition .nil
  · exact bare

theorem Stage.signed_reached (setup : StageSetup) (history : List Act) :
    (Stage.reached setup history).Signed := by
  obtain ⟨operations, same⟩ := (Stage.start setup).exists_operations_afterActs history
  rw [Stage.reached, same]
  exact (Stage.signed_start setup).after operations

/-! ## Registered scripts -/

theorem Act.mem_of_mem_edit {scripts : List Script} {act : Act} {r : Script}
    (mem : r ∈ act.edit scripts) : r ∈ scripts ∨ act = .operate (.submit r) := by
  unfold Act.edit at mem
  split at mem
  · split at mem
    · exact .inl mem
    · rcases List.mem_append.mp mem with old | new
      · exact .inl old
      · rw [List.mem_singleton.mp new]
        exact .inr rfl
  · exact .inl (List.mem_of_mem_eraseP mem)
  · exact .inl mem

/-- Only what was submitted is authored. -/
theorem submit_mem_of_authored {history : List Act} {r : Script} (mem : r ∈ authored history) :
    Act.operate (.submit r) ∈ history := by
  induction history using List.reverseRecOn with
  | nil => cases mem
  | append_singleton before act ih =>
      rw [authored_concat] at mem
      rcases Act.mem_of_mem_edit mem with old | rfl
      · exact List.mem_append_left _ (ih old)
      · exact List.mem_concat_self

theorem Stage.InStep.get?_of_mem (h : s.InStep) {r : Script} (mem : r ∈ s.registry.scripts) :
    s.registry.get? r.id = some r := find?_of_nodup_map h.distinct mem

/-- **Programs differ from the registry in signs only.**  In every reached stage, whatever an actor
holds or has set aside is the script that is registered, and was submitted, under the same id; or
this is a move whose steps read as a finite number, and all that differs is that the steps are this
number or its opposite.  So scripts that are not moves, moves without such steps, and whatever is
nested in a repetition stay as they were submitted, and the steps of a move keep their size. -/
theorem programs_match_registry_up_to_sign (setup : StageSetup) (history : List Act) (x : Actor)
    (e : Script) (mem : x ∈ (Stage.reached setup history).roster.actors) (held : e ∈ x.held) :
    ∃ r, (Stage.reached setup history).registry.get? e.id = some r ∧
      Act.operate (.submit r) ∈ history ∧
      (e = r ∨ r.action = "move" ∧ ∃ v, r.number? "steps" = some v ∧ v.isFinite = true ∧
        e.id = r.id ∧ e.category = r.category ∧ e.action = r.action ∧
        (∀ name, name ≠ "steps" → e.params.get? name = r.params.get? name) ∧
        (e.params.get? "steps" = some (.number v) ∨
          e.params.get? "steps" = some (.number (-v)))) ∧
      (r.action ≠ "move" ∨ r.number? "steps" = none → e = r) ∧
      (e.numberOrZero "steps").abs = (r.numberOrZero "steps").abs := by
  obtain ⟨inStep, registered⟩ := Stage.inStep_reached setup history
  obtain ⟨program, along, among⟩ :=
    (Stage.signed_reached setup history x mem).exists_of_mem_held held
  obtain ⟨r, entry, signed⟩ := along.exists_of_mem among
  refine ⟨r, signed.id_eq ▸ inStep.get?_of_mem entry, submit_mem_of_authored (registered ▸ entry),
    signed.eq_or_of_move, fun unmoved => ?_, signed.abs_steps⟩
  rcases signed.eq_or_of_move with same | ⟨move, v, reads, -⟩
  · exact same
  · rw [reads] at unmoved
    rcases unmoved with other | unread
    · exact absurd move other
    · cases unread

/-- On the visit, somebody holds a move that runs backwards, by as many steps as it was submitted
with. -/
theorem visitor_moves_backward :
    ∃ x ∈ (Stage.reached quietSetup (visit.map .operate)).roster.actors, ∃ e ∈ x.held, ∃ r,
      Act.operate (.submit r) ∈ visit.map .operate ∧ e.numberOrZero "steps" < 0 ∧
      (e.numberOrZero "steps").abs = (r.numberOrZero "steps").abs := by
  have checked : ∃ x ∈ (Stage.reached quietSetup (visit.map .operate)).roster.actors,
      ∃ e ∈ x.held, e.numberOrZero "steps" < 0 := by
    decide +kernel
  obtain ⟨x, mem, e, held, backward⟩ := checked
  obtain ⟨r, -, submitted, -, -, size⟩ :=
    programs_match_registry_up_to_sign quietSetup (visit.map .operate) x e mem held
  exact ⟨x, mem, e, held, r, submitted, backward, size⟩

end BlockStage
