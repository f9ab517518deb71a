import BlockStage.CommandLine.Report
import BlockStage.Proofs.Event.Labels
import BlockStage.Proofs.Roster
import BlockStage.Proofs.Script.Tree

/-!
# Programs in snapshots

A snapshot shows the program of every actor as the trees of its scripts, so these are found again as
scripts are (`Stage.heldOfJson?_of_reordered`).  Each field that is looked for has a name of its
own, so it is found wherever it stands (`Json.Reordered.exists_field?`).
-/

namespace BlockStage

/-! ## Fields of objects -/

namespace Json

/-- The value of a field. -/
def field? (key : String) : Json → Option Json
  | .object fields => (fields.find? (·.1 = key)).map (·.2)
  | _ => none

theorem FieldsReordered.names {fields same : List (String × Json)}
    (each : FieldsReordered fields same) : same.map (·.1) = fields.map (·.1) := by
  induction fields generalizing same with
  | nil =>
      cases each
      rfl
  | cons field rest ih =>
      cases each with
      | cons key first later => exact congrArg (key :: ·) (ih later)

theorem FieldsReordered.exists_of_mem {fields same : List (String × Json)}
    (each : FieldsReordered fields same) {key : String} {value : Json}
    (mem : (key, value) ∈ fields) : ∃ value', (key, value') ∈ same ∧ value.Reordered value' := by
  induction fields generalizing same with
  | nil => cases mem
  | cons field rest ih =>
      cases each with
      | cons key' first later =>
          rcases List.mem_cons.mp mem with here | there
          · cases here
            exact ⟨_, List.mem_cons_self, first⟩
          · obtain ⟨value', found, reordered⟩ := ih later there
            exact ⟨value', List.mem_cons_of_mem _ found, reordered⟩

/-- A field of a name that no other field has is found in whatever order they stand. -/
theorem Reordered.exists_field? {fields : List (String × Json)} {tree : Json}
    (reordered : (Json.object fields).Reordered tree) (nodup : (fields.map (·.1)).Nodup)
    {key : String} {value : Json} (mem : (key, value) ∈ fields) :
    ∃ value', tree.field? key = some value' ∧ value.Reordered value' := by
  cases reordered with
  | object each order =>
      obtain ⟨value', found, same⟩ := each.exists_of_mem mem
      have names := (order.map (·.1)).nodup_iff.mp (each.names ▸ nodup)
      refine ⟨value', ?_, same⟩
      rw [field?, find?_of_nodup_map names (order.subset found), Option.map_some]

/-- What decodes every element decodes the array, whatever the order within the elements. -/
theorem ItemsReordered.mapM_eq {α β : Type} {write : α → Json} {read : Json → Option β}
    {value : α → β} {xs : List α} {items : List Json}
    (each : ItemsReordered (xs.map write) items)
    (reads : ∀ x ∈ xs, ∀ item, (write x).Reordered item → read item = some (value x)) :
    items.mapM read = some (xs.map value) := by
  induction xs generalizing items with
  | nil =>
      cases each
      rfl
  | cons x xs ih =>
      obtain ⟨here, later⟩ := List.forall_mem_cons.mp reads
      cases each with
      | cons first rest =>
          rw [List.mapM_cons, here _ first, ih rest later]
          rfl

end Json

/-! ## Reading a snapshot -/

/-- The actor that an item of a snapshot tells of, and the program that it holds. -/
def Actor.heldOfJson? (item : Json) : Option (ActorId × Program) :=
  match item.field? "id", item.field? "program" with
  | some (.text label), some (.array scripts) =>
    match ActorId.ofLabel? label, Script.listOfJson? scripts with
    | some id, some program => some (id, program)
    | _, _ => none
  | _, _ => none

/-- The actors that a snapshot tells of, and the programs that they hold. -/
def Stage.heldOfJson? (snapshot : Json) : Option (List (ActorId × Program)) :=
  match snapshot.field? "actors" with
  | some (.array items) => items.mapM Actor.heldOfJson?
  | _ => none

/-- The fields of an actor in a snapshot. -/
def Actor.fields (x : Actor) : List (String × Json) :=
  [("id", .text x.id.label), ("name", .text x.name), ("x", .real x.position.x),
    ("y", .real x.position.y), ("heading", .real x.heading),
    ("program", programToJson x.program)] ++
  (x.bubble.map fun b => ("bubble", b.toJson)).toList

theorem Actor.nodup_fields (x : Actor) : (x.fields.map (·.1)).Nodup := by
  rw [Actor.fields]
  cases x.bubble <;> simp

theorem Actor.id_mem_fields (x : Actor) : ("id", .text x.id.label) ∈ x.fields := by
  simp [fields]

theorem Actor.program_mem_fields (x : Actor) : ("program", programToJson x.program) ∈ x.fields := by
  simp [fields]

theorem Actor.heldOfJson?_of_reordered {x : Actor} {item : Json}
    (finite : Program.NumbersFinite x.program) (reordered : x.toJson.Reordered item) :
    Actor.heldOfJson? item = some (x.id, x.program) := by
  replace reordered : (Json.object x.fields).Reordered item := reordered
  obtain ⟨id, idFound, idSame⟩ := reordered.exists_field? x.nodup_fields x.id_mem_fields
  obtain ⟨program, found, same⟩ := reordered.exists_field? x.nodup_fields x.program_mem_fields
  cases idSame
  cases same with
  | array each =>
      have decoded := Script.listOfJson?_of_reordered x.program
        (fun y mem => by
          obtain ⟨script, held, has⟩ := Program.mem_numbers.mp mem
          exact finite script held y has) each
      rw [Actor.heldOfJson?, idFound, found]
      dsimp only
      rw [ActorId.ofLabel?_label, decoded]

/-- **A snapshot tells the programs that the actors hold**, however its fields stand. -/
theorem Stage.heldOfJson?_of_reordered {s : Stage}
    (finite : ∀ x ∈ s.roster.actors, Program.NumbersFinite x.program) (passes : Nat) {tree : Json}
    (reordered : (CommandLine.snapshotJson passes s).Reordered tree) :
    Stage.heldOfJson? tree = some (s.roster.actors.map fun x => (x.id, x.program)) := by
  have listed : ("actors", s.actorsToJson) ∈
      [("passes", Json.nat passes), ("actors", s.actorsToJson)] :=
    List.mem_cons_of_mem _ (List.mem_singleton_self _)
  obtain ⟨actors, found, same⟩ := Json.Reordered.exists_field? reordered (by simp) listed
  cases same with
  | array each =>
      rw [Stage.heldOfJson?, found]
      exact each.mapM_eq fun x mem item => Actor.heldOfJson?_of_reordered (finite x mem)

end BlockStage
