import BlockStage.Proofs.Registry.Broadcast
import BlockStage.Proofs.Stage.Twin
import BlockStage.Proofs.Swap.Partners

/-!
# A deleted script leaves no trace

Dropping an id from the registry and from all programs (`Stage.without`) commutes with every
operation that neither submits nor deletes that id (`Operation.apply_without`): trades, returns
and creations copy programs whole, and a reversal keeps ids.  So a history in which a script is
submitted and later deleted runs beside the history without the two, one id apart, and is level
with it again once the script is deleted (`undone_script_leaves_no_trace`).

Placements and performances commute with every edit that may as well come before a reversal as
after it, so up to there the edit is left open.
-/

namespace BlockStage

/-! ## Edits and changes of single actors -/

section Edited

variable {edit : Program → Program} {r : Roster} {s : Stage} {id a b : ActorId}

/-- A change of every actor goes past a change of one. -/
theorem Roster.update_updateAll {f g h : Actor → Actor} (kept : ∀ x, (f x).id = x.id)
    (past : ∀ x, g (f x) = f (h x)) :
    (r.updateAll f).update id g = (r.update id h).updateAll f := by
  rcases r with ⟨actors, spawner⟩
  show (⟨Roster.updateFirst id g (actors.map f), spawner⟩ : Roster) =
    ⟨(Roster.updateFirst id h actors).map f, spawner⟩
  congr 1
  induction actors with
  | nil => rfl
  | cons x rest ih =>
      rw [List.map_cons, Roster.updateFirst, Roster.updateFirst, kept]
      split
      · rw [List.map_cons, past]
      · rw [List.map_cons, ih]

theorem Roster.get?_edited (r : Roster) (id : ActorId) :
    (r.updateAll (Actor.edit edit)).get? id = (r.get? id).map (Actor.edit edit) :=
  Roster.get?_updateAll (f := Actor.edit edit) (fun _ => rfl) id

theorem Roster.has_edited (r : Roster) (id : ActorId) :
    (r.updateAll (Actor.edit edit)).has id = r.has id := by
  rw [Roster.has, Roster.get?_edited, Option.isSome_map]
  rfl

/-- Places, headings and bubbles are beside the programs. -/
theorem Roster.update_edited {f : Actor → Actor}
    (beside : ∀ x, f (x.edit edit) = (f x).edit edit) :
    (r.updateAll (Actor.edit edit)).update id f = (r.update id f).updateAll (Actor.edit edit) :=
  Roster.update_updateAll (fun _ => rfl) beside

/-! ### Trades and returns -/

/-- What an actor is handed in a trade may be edited before or after. -/
theorem Roster.update_traded (reverses : ∀ program : Program,
    (edit program).reversed = edit program.reversed) (mine other : Program) :
    (r.updateAll (Actor.edit edit)).update id (fun x =>
        { x with program := (edit other).reversed, saved := some (edit mine) }) =
      (r.update id fun x => { x with program := other.reversed, saved := some mine }).updateAll
        (Actor.edit edit) :=
  Roster.update_updateAll (f := Actor.edit edit) (fun _ => rfl) fun x => by
    rw [reverses]
    rfl

theorem Roster.exchange_edited (reverses : ∀ program : Program,
    (edit program).reversed = edit program.reversed) (a b : ActorId) :
    ((r.updateAll (Actor.edit edit)).exchange a b).2 =
      (r.exchange a b).2.updateAll (Actor.edit edit) := by
  rw [Roster.exchange, Roster.exchange, Roster.pair?, Roster.pair?, Roster.get?_edited,
    Roster.get?_edited]
  by_cases same : a = b
  · rw [if_pos same, if_pos same]
  · rw [if_neg same, if_neg same]
    cases r.get? a with
    | none => rfl
    | some first =>
        cases r.get? b with
        | none => rfl
        | some second =>
            show ((r.updateAll (Actor.edit edit)).update a fun x =>
                { x with
                  program := (edit second.program).reversed
                  saved := some (edit first.program) }).update b (fun x =>
                { x with
                  program := (edit first.program).reversed
                  saved := some (edit second.program) }) = _
            rw [Roster.update_traded reverses, Roster.update_traded reverses]

theorem Roster.restore_edited (r : Roster) (id : ActorId) :
    ((r.updateAll (Actor.edit edit)).restore id).2 =
      (r.restore id).2.updateAll (Actor.edit edit) := by
  have saved : ((r.updateAll (Actor.edit edit)).get? id).bind (·.saved) =
      ((r.get? id).bind (·.saved)).map edit := by
    rw [Roster.get?_edited]
    cases r.get? id <;> rfl
  rw [Roster.restore, Roster.restore, saved]
  cases (r.get? id).bind (·.saved) with
  | none => rfl
  | some program => exact Roster.update_updateAll (fun _ => rfl) fun _ => rfl

theorem Roster.separate_edited (r : Roster) (a b : ActorId) :
    ((r.updateAll (Actor.edit edit)).separate a b).2 =
      (r.separate a b).2.updateAll (Actor.edit edit) := by
  show (((r.updateAll (Actor.edit edit)).restore a).2.restore b).2 =
    ((r.restore a).2.restore b).2.updateAll (Actor.edit edit)
  rw [Roster.restore_edited, Roster.restore_edited]

/-! ### Contacts -/

/-- A comparison looks at ids and places only. -/
theorem CollisionTable.compare_edited (mover : ActorId) (place : Position)
    (others : List Actor) (t : CollisionTable) :
    CollisionTable.compare mover place (others.map (Actor.edit edit)) t =
      CollisionTable.compare mover place others t := by
  induction others generalizing t with
  | nil => rfl
  | cons other rest ih =>
      rw [List.map_cons, CollisionTable.compare, CollisionTable.compare]
      simp only [ih]
      rfl

theorem CollisionTable.detect_edited (t : CollisionTable) (r : Roster) (mover : ActorId) :
    t.detect (r.updateAll (Actor.edit edit)) mover = t.detect r mover := by
  rw [CollisionTable.detect, CollisionTable.detect, Roster.get?_edited]
  cases r.get? mover with
  | none => rfl
  | some x =>
      have others : (r.actors.map (Actor.edit edit)).filter (·.id ≠ mover) =
          (r.actors.filter (·.id ≠ mover)).map (Actor.edit edit) := List.filter_map
      show CollisionTable.compare mover x.position
        ((r.actors.map (Actor.edit edit)).filter (·.id ≠ mover)) t = _
      rw [others, CollisionTable.compare_edited]

/-! ### Placements and performances -/

theorem Stage.actor?_edited (s : Stage) (id : ActorId) :
    (s.edited edit).actor? id = (s.actor? id).map (Actor.edit edit) :=
  Roster.get?_edited s.roster id

theorem Stage.face_edited (s : Stage) (id : ActorId) (heading : Float) :
    ((s.edited edit).face id heading).2 = (s.face id heading).2.edited edit :=
  congrArg (fun roster => { s.edited edit with roster })
    (Roster.update_edited (f := fun x => { x with heading }) fun _ => rfl)

theorem Stage.turnTo_edited (s : Stage) (id : ActorId) (heading : Float) :
    (s.edited edit).turnTo id heading = (s.turnTo id heading).edited edit := by
  rw [Stage.turnTo, s.face_edited]
  rfl

theorem Stage.setBubble_edited (s : Stage) (id : ActorId) (bubble : Option Bubble) :
    (s.edited edit).setBubble id bubble = (s.setBubble id bubble).edited edit :=
  congrArg (fun roster => { s.edited edit with roster })
    (Roster.update_edited (f := fun x => { x with bubble }) fun _ => rfl)

theorem Stage.speak_edited (s : Stage) (id : ActorId) (style : BubbleStyle) (message : String) :
    (s.edited edit).speak id style message = (s.speak id style message).edited edit :=
  (s.record (.spoke id style message)).setBubble_edited id _

variable (reverses : ∀ program : Program, (edit program).reversed = edit program.reversed)

include reverses

theorem Stage.settle_edited (s : Stage) (contact : Contact) :
    (s.edited edit).settle contact = (s.settle contact).edited edit := by
  rcases contact with ⟨mover, other, edge⟩
  cases edge with
  | rise =>
      exact congrArg (fun roster => ({ s.edited edit with roster } : Stage).record
        (.contact .rise (.of mover other))) (Roster.exchange_edited reverses mover other)
  | fall =>
      exact congrArg (fun roster => ({ s.edited edit with roster } : Stage).record
        (.contact .fall (.of mover other))) (Roster.separate_edited s.roster mover other)

theorem Stage.settleAll_edited (s : Stage) (contacts : List Contact) :
    (s.edited edit).settleAll contacts = (s.settleAll contacts).edited edit := by
  induction contacts generalizing s with
  | nil => rfl
  | cons contact rest ih =>
      rw [Stage.settleAll_cons, Stage.settle_edited reverses, ih]
      rfl

theorem Stage.place_edited (s : Stage) (id : ActorId) (position : Position) :
    ((s.edited edit).place id position).2 = (s.place id position).2.edited edit := by
  have moved : ((s.edited edit).roster.place id position).2 =
      ((s.roster.place id position).2).updateAll (Actor.edit edit) :=
    Roster.update_edited fun _ => rfl
  by_cases known : id ∈ s.roster.ids
  · have stands : (s.edited edit).moved id position = (s.moved id position).edited edit := by
      rw [Stage.moved, Stage.moved, moved, CollisionTable.detect_edited]
      rfl
    have finds : (s.edited edit).contacts id position = s.contacts id position := by
      rw [Stage.contacts, Stage.contacts, moved, CollisionTable.detect_edited]
      rfl
    rw [Stage.place_of_mem known, Stage.place_of_mem, stands, finds,
      Stage.settleAll_edited reverses]
    rwa [show (s.edited edit).roster.ids = s.roster.ids from Roster.ids_updateAll fun _ => rfl]
  · rw [Stage.place_of_not_mem known, Stage.place_of_not_mem]
    rwa [show (s.edited edit).roster.ids = s.roster.ids from Roster.ids_updateAll fun _ => rfl]

theorem Stage.travelTo_edited (s : Stage) (id : ActorId) (travel : Travel)
    (position : Position) :
    (s.edited edit).travelTo id travel position = (s.travelTo id travel position).edited edit := by
  rw [Stage.travelTo, Stage.travelTo, Stage.place_edited reverses, Stage.recordPosition,
    Stage.recordPosition, Stage.actor?_edited]
  cases (s.place id position).2.actor? id <;> rfl

theorem Stage.beside_edited (s : Stage) :
    Stage.Beside (fun plain other => other = plain.edited edit) s (s.edited edit) where
  poses id := by
    rw [Stage.actor?_edited, Option.map_map]
    rfl
  idle := rfl
  travels := s.travelTo_edited reverses
  turns := s.turnTo_edited
  speaks := s.speak_edited

end Edited

/-! ## Without an id -/

/-- The stage with an id dropped from the registry and from every program. -/
def Stage.without (s : Stage) (id : ScriptId) : Stage := s.edited (Program.drop · id)

variable {s : Stage} {id : ScriptId} {script : Script}

theorem Program.reversed_drop (program : Program) (id : ScriptId) :
    (program.drop id).reversed = program.reversed.drop id := by
  rw [Program.drop, Program.drop, Program.reversed, Program.reversed, List.filter_map]
  simp only [Function.comp_def, Script.id_reversed]

theorem Program.drop_drop_comm (program : Program) (first second : ScriptId) :
    (program.drop first).drop second = (program.drop second).drop first := by
  rw [Program.drop, Program.drop, Program.drop, Program.drop, List.filter_filter,
    List.filter_filter]
  simp only [Bool.and_comm]

theorem Program.has_drop_of_ne {program : Program} {other : ScriptId} (ne : other ≠ id) :
    (program.drop id).has other = program.has other := by
  rw [Bool.eq_iff_iff, Program.has_iff_mem_ids, Program.has_iff_mem_ids, Program.ids_drop]
  simp [ne]

theorem Program.append_drop_of_ne (program : Program) (ne : script.id ≠ id) :
    (program.drop id).append script = (program.append script).drop id := by
  rw [Program.append, Program.append, Program.has_drop_of_ne ne]
  split
  · rfl
  · simp [Program.drop, ne]

theorem Program.drop_append_self (program : Program) (script : Script) :
    (program.append script).drop script.id = program.drop script.id := by
  rw [Program.append]
  split
  · rfl
  · simp [Program.drop]

/-- An operation submits or deletes a script of this id. -/
def Operation.Edits (id : ScriptId) : Operation → Prop
  | .submit script => script.id = id
  | .delete other => other = id
  | .create | .place _ _ | .face _ _ | .select _ | .nudge _ | .perform _ _ | .hush _ | .note _
  | .take => False

instance (id : ScriptId) : DecidablePred (Operation.Edits id)
  | .submit script => inferInstanceAs (Decidable (script.id = id))
  | .delete other => inferInstanceAs (Decidable (other = id))
  | .create | .place _ _ | .face _ _ | .select _ | .nudge _ | .perform _ _ | .hush _ | .note _
  | .take => inferInstanceAs (Decidable False)

/-! ### Other scripts -/

theorem Stage.has_without_of_ne (s : Stage) {other : ScriptId} (ne : other ≠ id) :
    (s.without id).registry.has other = s.registry.has other := Program.has_drop_of_ne ne

theorem Stage.submit_without_of_ne (s : Stage) (ne : script.id ≠ id) :
    ((s.without id).submit script).2 = (s.submit script).2.without id := by
  by_cases known : s.registry.has script.id = true
  · rw [Stage.submit_of_known known, Stage.submit_of_known]
    rwa [s.has_without_of_ne ne]
  · have appended : (Program.drop s.registry.scripts id) ++ [script] =
        Program.drop (s.registry.scripts ++ [script]) id := by simp [Program.drop, ne]
    have handed (x : Actor) :
        (x.edit (Program.drop · id)).edit (Program.append · script) =
          (x.edit (Program.append · script)).edit (Program.drop · id) := by
      simp [Actor.edit, Function.comp_def, Program.append_drop_of_ne _ ne]
    rw [Stage.submit_of_fresh known, Stage.submit_of_fresh (by rwa [s.has_without_of_ne ne])]
    simp only [Stage.without, Stage.edited, Stage.record, Roster.updateAll, List.map_map,
      Function.comp_def, handed, appended]

theorem Stage.delete_without_of_ne (s : Stage) {other : ScriptId} (ne : other ≠ id) :
    ((s.without id).delete other).2 = (s.delete other).2.without id := by
  have dropped (x : Actor) :
      (x.edit (Program.drop · id)).edit (Program.drop · other) =
        (x.edit (Program.drop · other)).edit (Program.drop · id) := by
    simp [Actor.edit, Function.comp_def, Program.drop_drop_comm _ id other]
  rw [Stage.delete, Stage.delete, Registry.remove, Registry.remove, s.has_without_of_ne ne]
  cases s.registry.has other <;>
    simp only [Stage.without, Stage.edited, Stage.record, Roster.updateAll, List.map_map,
      Function.comp_def, dropped, Program.drop_drop_comm _ id other]

theorem Stage.create_without (s : Stage) (id : ScriptId) :
    (s.without id).create.2 = s.create.2.without id := by
  simp only [Stage.create, Roster.spawn, Roster.spawnAt, Roster.nextId, Stage.without,
    Stage.edited, Roster.updateAll, List.length_map, Stage.record, List.map_append, List.map_cons,
    List.map_nil]
  rfl

/-- **Dropping an id commutes with every operation that does not edit it.** -/
theorem Operation.apply_without {operation : Operation} (elsewhere : ¬ operation.Edits id)
    (s : Stage) : operation.apply (s.without id) = (operation.apply s).without id := by
  have reverses (program : Program) : (program.drop id).reversed = program.reversed.drop id :=
    program.reversed_drop id
  cases operation with
  | create => exact s.create_without id
  | place actor position => exact s.place_edited reverses actor position
  | face actor heading => exact s.face_edited actor heading
  | select actor =>
      rw [Operation.apply, Operation.apply, Stage.select, Stage.select, Stage.without,
        Stage.edited, Roster.has_edited]
      cases s.roster.has actor <;> rfl
  | submit script => exact s.submit_without_of_ne elsewhere
  | delete other => exact s.delete_without_of_ne elsewhere
  | nudge script => exact (s.beside_edited reverses).nudge rfl script
  | perform actor script => exact (s.beside_edited reverses).perform actor script
  | hush actor => exact s.setBubble_edited actor none
  | note | take => rfl

theorem Stage.after_without (s : Stage) {operations : List Operation}
    (elsewhere : ∀ operation ∈ operations, ¬ operation.Edits id) :
    (s.without id).after operations = (s.after operations).without id := by
  induction operations generalizing s with
  | nil => rfl
  | cons operation rest ih =>
      obtain ⟨first, rest⟩ := List.forall_mem_cons.mp elsewhere
      rw [Stage.after_cons, Operation.apply_without first, ih _ rest, Stage.after_cons]

/-! ### The script itself -/

/-- Once its id is dropped, a submission has done nothing. -/
theorem Stage.twin_without_submit (s : Stage) (script : Script) :
    (s.without script.id).Twin ((s.submit script).2.without script.id) := by
  by_cases known : s.registry.has script.id = true
  · rw [Stage.submit_of_known known]
    exact .refl _
  · have appended : Program.drop (s.registry.scripts ++ [script]) script.id =
        Program.drop s.registry.scripts script.id := by simp [Program.drop]
    have handed (x : Actor) :
        (x.edit (Program.append · script)).edit (Program.drop · script.id) =
          x.edit (Program.drop · script.id) := by
      simp [Actor.edit, Function.comp_def, Program.drop_append_self]
    rw [Stage.submit_of_fresh known]
    simp only [Stage.without, Stage.edited, Stage.record, Roster.updateAll, List.map_map,
      Function.comp_def, handed, appended]
    exact ⟨_, rfl⟩

/-- A deletion drops the id, and logs that at most. -/
theorem Stage.twin_without_delete (s : Stage) (id : ScriptId) :
    (s.without id).Twin (s.delete id).2 := by
  rw [Stage.delete, Registry.remove]
  cases s.registry.has id
  · exact .refl _
  · exact ⟨_, rfl⟩

/-! ## Histories -/

theorem Stage.without_start (setup : StageSetup) (id : ScriptId) :
    (Stage.start setup).without id = Stage.start setup := by
  rw [Stage.start]
  split <;> rfl

/-- A history that never edits an id reaches a stage without it. -/
theorem Stage.without_after_start (setup : StageSetup) {operations : List Operation}
    (elsewhere : ∀ operation ∈ operations, ¬ operation.Edits id) :
    ((Stage.start setup).after operations).without id = (Stage.start setup).after operations := by
  rw [← Stage.after_without _ elsewhere, Stage.without_start]

/-- Whether an id is registered is up to the operations that edit it. -/
theorem Stage.InStep.has_apply (h : s.InStep) {operation : Operation}
    (elsewhere : ¬ operation.Edits id) :
    (operation.apply s).registry.has id = s.registry.has id := by
  have scripts := h.registry_act (.operate operation)
  cases operation with
  | submit script =>
      have ne : id ≠ script.id := Ne.symm elsewhere
      show (s.submit script).2.registry.has id = _
      rw [Bool.eq_iff_iff, Registry.has_iff, Registry.has_iff, s.registry_submit, Act.edit]
      split
      · rfl
      · simp [Program.ids, ne]
  | delete other =>
      have kept := (s.alike_delete other).registry
      show (s.delete other).2.registry.has id = _
      rw [kept]
      exact s.has_without_of_ne (Ne.symm elsewhere)
  | create | place | face | select | nudge | perform | hush | note | take =>
      exact congrArg (Program.has · id) scripts

theorem Stage.InStep.has_after (h : s.InStep) {operations : List Operation}
    (elsewhere : ∀ operation ∈ operations, ¬ operation.Edits id) :
    (s.after operations).registry.has id = s.registry.has id := by
  induction operations generalizing s with
  | nil => rfl
  | cons operation rest ih =>
      obtain ⟨first, rest⟩ := List.forall_mem_cons.mp elsewhere
      rw [Stage.after_cons, ih (h.apply operation) rest, h.has_apply first]

/-- **A deleted script leaves no trace.**  Let nothing in a history edit the id of a script.  If
the script is submitted anywhere in that history, then from there on the stage is that of the
history alone, with this one id more in the registry and in programs; and once the script is
deleted the two stages are the same for the rest of their histories.  The logs apart, that is. -/
theorem undone_script_leaves_no_trace (setup : StageSetup) (first between last : List Operation)
    (script : Script)
    (elsewhere : ∀ operation ∈ first ++ between ++ last, ¬ operation.Edits script.id) :
    let before := (Stage.start setup).after first
    let present := (before.submit script).2.after between
    (before.submit script).1 = true ∧
      (before.after between).Twin (present.without script.id) ∧
      (present.delete script.id).1 = true ∧
      ((Stage.start setup).after (first ++ between ++ last)).Twin
        ((Stage.start setup).after
          (first ++ .submit script :: between ++ .delete script.id :: last)) := by
  intro before present
  obtain ⟨elsewhere, later⟩ := List.forall_mem_append.mp elsewhere
  obtain ⟨earlier, meanwhile⟩ := List.forall_mem_append.mp elsewhere
  have inStep : before.InStep := (Stage.inStep_start setup).after first
  have absent : before.without script.id = before := Stage.without_after_start setup earlier
  have unlisted : script.id ∉ Program.ids before.registry.scripts := by
    rw [← absent]
    show script.id ∉ Program.ids (Program.drop before.registry.scripts script.id)
    simp [Program.ids_drop]
  have beside : (before.after between).Twin (present.without script.id) := by
    have submitted := absent ▸ before.twin_without_submit script
    have ran := submitted.after between
    rwa [Stage.after_without _ meanwhile] at ran
  refine ⟨Stage.submit_added_iff.mpr unlisted, beside, ?_, ?_⟩
  · rw [Stage.fst_delete, (inStep.submit script).has_after meanwhile, Registry.has_iff,
      Stage.registry_submit, Act.edit, if_neg unlisted]
    simp [Program.ids]
  · have level := (beside.trans (present.twin_without_delete script.id)).after last
    rw [Stage.after_append, Stage.after_append, Stage.after_append, Stage.after_append]
    exact level

/-- A second move comes before a trade and goes before the programs are given back. -/
theorem passing_move_leaves_no_trace :
    let move := Block.move.instantiate ⟨"passing"⟩ .nil
    let present :=
      (((Stage.start quietSetup).after visit.dropLast).submit move).2.after [.place ⟨3⟩ ⟨300, 110⟩]
    (∃ x ∈ present.roster.actors, x.isSwapped = true ∧ x.program.has move.id = true) ∧
      (present.delete move.id).1 = true ∧
      ((Stage.start quietSetup).after (visit.dropLast ++ [.place ⟨3⟩ ⟨300, 110⟩] ++ [leave])).Twin
        ((Stage.start quietSetup).after
          (visit.dropLast ++ .submit move :: [.place ⟨3⟩ ⟨300, 110⟩] ++
            .delete move.id :: [leave])) := by
  intro move present
  have traded : ∃ x ∈ present.roster.actors, x.isSwapped = true ∧ x.program.has move.id = true := by
    decide +kernel
  obtain ⟨-, -, deleted, level⟩ := undone_script_leaves_no_trace quietSetup visit.dropLast
    [.place ⟨3⟩ ⟨300, 110⟩] [leave] move (by decide +kernel)
  exact ⟨traded, deleted, level⟩

end BlockStage
