import BlockStage.Proofs.Registry.Edits

/-!
# Many edits in a row

Of scripts that are appended one after another, the first one of each id stays (`Program.firsts`);
ids that are dropped one after another are filtered out (`Program.foldl_drop`).
-/

namespace BlockStage

variable {scripts : List Script}

/-- Scripts without those whose id comes earlier. -/
def Program.firsts (earlier : List ScriptId) : List Script → Program
  | [] => []
  | script :: rest =>
    if script.id ∈ earlier then firsts (script.id :: earlier) rest
    else script :: firsts (script.id :: earlier) rest

/-- What is appended to a program, of scripts one after another, are those with a new id. -/
theorem Program.foldl_append (earlier : List ScriptId) {program : Program}
    (known : ∀ id, id ∈ Program.ids program ↔ id ∈ earlier) :
    scripts.foldl Program.append program = program ++ Program.firsts earlier scripts := by
  induction scripts generalizing earlier program with
  | nil => exact (List.append_nil program).symm
  | cons script rest ih =>
      rw [List.foldl_cons, firsts]
      by_cases old : script.id ∈ earlier
      · have unchanged : program.append script = program :=
          if_pos (Program.has_iff_mem_ids.mpr ((known _).mpr old))
        rw [unchanged, if_pos old]
        refine ih (script.id :: earlier) fun id =>
          (known id).trans ⟨List.mem_cons_of_mem _, fun mem => ?_⟩
        rcases List.mem_cons.mp mem with rfl | mem
        · exact old
        · exact mem
      · have new : script.id ∉ Program.ids program := mt (known _).mp old
        rw [Program.append_of_not_mem new, if_neg old, ih (script.id :: earlier),
          List.append_assoc, List.singleton_append]
        intro id
        rw [Program.ids, List.map_append, List.mem_append, List.map_singleton,
          List.mem_singleton, List.mem_cons, ← known id, or_comm]
        rfl

/-- A script whose id is not earlier stays. -/
theorem Program.mem_firsts {earlier : List ScriptId} {script : Script} {i : Nat}
    (found : scripts[i]? = some script) (new : script.id ∉ earlier)
    (first : script.id ∉ Program.ids (scripts.take i)) :
    script ∈ Program.firsts earlier scripts := by
  induction scripts generalizing earlier i with
  | nil => cases found
  | cons head rest ih =>
      rw [firsts]
      cases i with
      | zero =>
          obtain rfl := Option.some.inj found
          rw [if_neg new]
          exact List.mem_cons_self
      | succ i =>
          obtain ⟨ne, first⟩ := List.ne_and_not_mem_of_not_mem_cons first
          have later : script ∈ Program.firsts (head.id :: earlier) rest :=
            ih found (List.not_mem_cons_of_ne_of_not_mem ne new) first
          split
          · exact later
          · exact List.mem_cons_of_mem _ later

theorem Program.foldl_drop (ids : List ScriptId) (program : Program) :
    ids.foldl Program.drop program = program.filter (·.id ∉ ids) := by
  induction ids generalizing program with
  | nil => simp
  | cons id rest ih =>
      rw [List.foldl_cons, ih, Program.drop, List.filter_filter]
      refine List.filter_congr fun script _ => ?_
      simp [Bool.and_comm]

theorem Program.firsts_sublist (earlier : List ScriptId) (scripts : List Script) :
    (Program.firsts earlier scripts).Sublist scripts := by
  induction scripts generalizing earlier with
  | nil => exact .slnil
  | cons script rest ih =>
      rw [firsts]
      split
      · exact (ih _).cons script
      · exact (ih _).cons_cons script

/-- What comes earlier is not among the scripts that are first of their id. -/
theorem Program.not_mem_firsts {earlier : List ScriptId} {id : ScriptId} (old : id ∈ earlier) :
    id ∉ Program.ids (Program.firsts earlier scripts) := by
  induction scripts generalizing earlier with
  | nil => exact List.not_mem_nil
  | cons script rest ih =>
      have later : id ∉ Program.ids (Program.firsts (script.id :: earlier) rest) :=
        ih (List.mem_cons_of_mem _ old)
      rw [firsts]
      split
      · exact later
      · next new =>
        refine List.not_mem_cons_of_ne_of_not_mem ?_ later
        rintro rfl
        exact new old

theorem Program.nodup_firsts (earlier : List ScriptId) (scripts : List Script) :
    (Program.ids (Program.firsts earlier scripts)).Nodup := by
  induction scripts generalizing earlier with
  | nil => exact .nil
  | cons script rest ih =>
      rw [firsts]
      split
      · exact ih _
      · exact List.nodup_cons.mpr ⟨Program.not_mem_firsts List.mem_cons_self, ih _⟩

end BlockStage
