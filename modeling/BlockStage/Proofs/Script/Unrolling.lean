import BlockStage.Stage.Performance

/-!
# Repetitions written out

A program runs its scripts one after another, and a repetition runs its body so many times over, so
in the end only scripts without a body are performed.  `Program.unrolled` lists them in order: each
repetition is replaced by as many copies of its unrolled body, at every depth, and nothing else
changes.
-/

namespace BlockStage

mutual

/-- What a script runs once its repetitions are written out: itself, or the unrolled body as often
as it is repeated. -/
def Script.unrolled : Script → List Script
  | ⟨id, category, action, params⟩ =>
    if Block.ofTag? action = some .repetition then
      (List.replicate (Script.times ⟨id, category, action, params⟩)
        (params.unrolledAt "scripts")).flatten
    else [⟨id, category, action, params⟩]

/-- The scripts in the parameter `name`, unrolled. -/
def Params.unrolledAt (name : String) : {bound : Option String} → Params bound → List Script
  | _, .nil => []
  | _, .cons key _ value rest => if key = name then value.unrolled else rest.unrolledAt name

/-- The scripts in a value, unrolled. -/
def ParamValue.unrolled : ParamValue → List Script
  | .scripts body => Program.unrolled body
  | .number _ => []
  | .text _ => []

/-- A program with all its repetitions written out. -/
def Program.unrolled : List Script → List Script
  | [] => []
  | s :: rest => s.unrolled ++ Program.unrolled rest

end

theorem Params.unrolledAt_eq (name : String) :
    ∀ {bound : Option String} (params : Params bound),
      params.unrolledAt name =
        Program.unrolled (((params.get? name).bind ParamValue.scripts?).getD [])
  | _, .nil => by simp [unrolledAt, get?, Program.unrolled]
  | _, .cons key _ value rest => by
    by_cases h : key = name
    · cases value <;>
        simp [unrolledAt, get?, h, ParamValue.unrolled, ParamValue.scripts?, Program.unrolled]
    · simp [unrolledAt, get?, h, Params.unrolledAt_eq name rest]

/-- A repetition is its unrolled body, so many times over; any other script stays. -/
theorem Script.unrolled_eq (s : Script) :
    s.unrolled =
      if s.block? = some .repetition then
        (List.replicate s.times (Program.unrolled s.body)).flatten
      else [s] := by
  rcases s with ⟨id, category, action, params⟩
  rw [unrolled, Params.unrolledAt_eq]
  rfl

theorem Script.unrolled_of_ne {s : Script} (other : s.block? ≠ some .repetition) :
    s.unrolled = [s] := by
  rw [Script.unrolled_eq, if_neg other]

theorem Script.unrolled_of_repetition {s : Script} (repeats : s.block? = some .repetition) :
    s.unrolled = (List.replicate s.times (Program.unrolled s.body)).flatten := by
  rw [Script.unrolled_eq, if_pos repeats]

/-! ## No repetition is left -/

mutual

theorem Script.block?_of_mem_unrolled :
    ∀ (s : Script) {e : Script}, e ∈ s.unrolled → e.block? ≠ some .repetition
  | ⟨id, category, action, params⟩, e, mem => by
    rw [Script.unrolled] at mem
    split at mem
    · obtain ⟨copy, copies, mem⟩ := List.mem_flatten.mp mem
      rw [List.eq_of_mem_replicate copies] at mem
      exact params.block?_of_mem_unrolledAt "scripts" mem
    · next other =>
      rw [List.mem_singleton.mp mem]
      exact other

theorem Params.block?_of_mem_unrolledAt (name : String) :
    ∀ {bound : Option String} (params : Params bound) {e : Script},
      e ∈ params.unrolledAt name → e.block? ≠ some .repetition
  | _, .nil, e, mem => by cases mem
  | _, .cons key _ value rest, e, mem => by
    rw [Params.unrolledAt] at mem
    split at mem
    · exact value.block?_of_mem_unrolled mem
    · exact rest.block?_of_mem_unrolledAt name mem

theorem ParamValue.block?_of_mem_unrolled :
    ∀ (value : ParamValue) {e : Script}, e ∈ value.unrolled → e.block? ≠ some .repetition
  | .scripts body, e, mem => Program.block?_of_mem_unrolled body mem

theorem Program.block?_of_mem_unrolled :
    ∀ (program : List Script) {e : Script}, e ∈ Program.unrolled program →
      e.block? ≠ some .repetition
  | s :: rest, e, mem => by
    rw [Program.unrolled] at mem
    rcases List.mem_append.mp mem with here | later
    · exact s.block?_of_mem_unrolled here
    · exact Program.block?_of_mem_unrolled rest later

end

end BlockStage
