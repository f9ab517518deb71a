import BlockStage.Proofs.Script.Overlay
import BlockStage.Swap

/-!
# Numbers at every depth

The numbers of a script are those among its parameters and those of the scripts nested there.  A
parameter that is set brings its own numbers and no others (`Params.mem_numbers_insert`), so scripts
of the palette have finite numbers if their parameters do, and reversed moves keep finite numbers
finite (`Script.NumbersFinite.reversed`).
-/

namespace BlockStage

mutual

/-- The numbers of a script, at every depth. -/
def Script.numbers : Script → List Float
  | ⟨_, _, _, params⟩ => params.numbers

/-- The numbers in parameters, at every depth. -/
def Params.numbers : {bound : Option String} → Params bound → List Float
  | _, .nil => []
  | _, .cons _ _ value rest => value.numbers ++ rest.numbers

/-- The numbers in a value, at every depth. -/
def ParamValue.numbers : ParamValue → List Float
  | .number x => [x]
  | .text _ => []
  | .scripts body => Program.numbers body

/-- The numbers of a program's scripts, at every depth. -/
def Program.numbers : List Script → List Float
  | [] => []
  | s :: rest => s.numbers ++ Program.numbers rest

end

theorem Program.mem_numbers {program : Program} {x : Float} :
    x ∈ Program.numbers program ↔ ∃ script ∈ program, x ∈ script.numbers := by
  induction program with
  | nil => simp [numbers]
  | cons script rest ih => simp [numbers, ih]

/-- Neither infinite nor no number at all, at any depth. -/
def Script.NumbersFinite (script : Script) : Prop := ∀ x ∈ script.numbers, x.isFinite = true

def Params.NumbersFinite {bound : Option String} (params : Params bound) : Prop :=
  ∀ x ∈ params.numbers, x.isFinite = true

/-- A program of finite scripts. -/
def Program.NumbersFinite (program : Program) : Prop := ∀ script ∈ program, script.NumbersFinite

/-! ## Setting parameters -/

theorem Params.mem_numbers_insert {name : String} {value : ParamValue} {x : Float} :
    ∀ {bound : Option String} (params : Params bound) (after : NameAfter bound name),
      x ∈ (params.insert name value after).numbers → x ∈ value.numbers ∨ x ∈ params.numbers
  | _, .nil, _, mem => List.mem_append.mp mem
  | _, .cons key _ old rest, _, mem => by
    simp only [numbers, List.mem_append]
    rw [insert] at mem
    split at mem
    · simpa only [numbers, List.mem_append] using mem
    · split at mem
      · next later =>
        rcases List.mem_append.mp mem with here | there
        · exact .inr (.inl here)
        · exact (rest.mem_numbers_insert later there).imp_right .inr
      · exact (List.mem_append.mp mem).imp_right .inr

theorem Params.mem_numbers_insertAll {x : Float} {entries : List (String × ParamValue)}
    {under : Params none} (mem : x ∈ (under.insertAll entries).numbers) :
    (∃ entry ∈ entries, x ∈ entry.2.numbers) ∨ x ∈ under.numbers := by
  induction entries generalizing under with
  | nil => exact .inr mem
  | cons entry rest ih =>
      rcases ih mem with ⟨later, inRest, has⟩ | inserted
      · exact .inl ⟨later, List.mem_cons_of_mem _ inRest, has⟩
      · rcases under.mem_numbers_insert trivial inserted with given | old
        · exact .inl ⟨entry, List.mem_cons_self, given⟩
        · exact .inr old

theorem Params.mem_numbers_of_mem_toList {x : Float} {entry : String × ParamValue} :
    ∀ {bound : Option String} (params : Params bound),
      entry ∈ params.toList → x ∈ entry.2.numbers → x ∈ params.numbers
  | _, .cons _ _ _ rest, mem, has => by
    refine List.mem_append.mpr ?_
    rcases List.mem_cons.mp mem with rfl | later
    · exact .inl has
    · exact .inr (rest.mem_numbers_of_mem_toList later has)

theorem Params.NumbersFinite.insertAll {under params : Params none} (finite : params.NumbersFinite)
    (finiteUnder : under.NumbersFinite) : (under.insertAll params.toList).NumbersFinite := by
  intro x mem
  rcases mem_numbers_insertAll mem with ⟨entry, given, has⟩ | old
  · exact finite x (params.mem_numbers_of_mem_toList given has)
  · exact finiteUnder x old

/-! ## Scripts of the palette, and reversed ones -/

theorem Block.finite_defaults (block : Block) : block.defaults.NumbersFinite := by
  unfold Params.NumbersFinite
  cases block <;> decide +kernel

/-- A script of the palette has finite numbers if its parameters do. -/
theorem Block.finite_instantiate (block : Block) (id : ScriptId) {params : Params none}
    (finite : params.NumbersFinite) : (block.instantiate id params).NumbersFinite :=
  finite.insertAll block.finite_defaults

theorem Script.NumbersFinite.reversed {script : Script} (finite : script.NumbersFinite) :
    script.reversed.NumbersFinite := by
  rcases script.reversed_cases with ⟨steps, -, reads, back⟩ | ⟨-, back⟩
  · rw [back]
    obtain ⟨id, category, action, params⟩ := script
    intro x mem
    rcases params.mem_numbers_insert trivial mem with given | old
    · obtain rfl : x = -steps := List.mem_singleton.mp given
      exact (Binary64.isFinite_neg steps).trans (Script.isFinite_of_number? reads)
    · exact finite x old
  · rwa [back]

theorem Program.NumbersFinite.reversed {program : Program}
    (finite : Program.NumbersFinite program) : Program.NumbersFinite program.reversed := by
  intro script mem
  obtain ⟨before, old, rfl⟩ := List.mem_map.mp mem
  exact (finite before old).reversed

end BlockStage
