import BlockStage.Proofs.Registry.Edits
import BlockStage.Proofs.Script.Overlay

/-!
# Ids at every depth

Scripts stand in the parameters of scripts, so a program has ids at every depth: those of its own
scripts and those that are nested in their parameters (`Program.allIds_perm`).  The defaults of the
palette nest nothing, so a script of the palette nests what its own parameters do
(`Block.Overlaid.nestedIds_perm`).
-/

namespace BlockStage

mutual

/-- The id of a script and the ids nested in it. -/
def Script.allIds : Script → List ScriptId
  | ⟨id, _, _, params⟩ => id :: params.nestedIds

/-- The ids of the scripts in parameters, at every depth. -/
def Params.nestedIds : {bound : Option String} → Params bound → List ScriptId
  | _, .nil => []
  | _, .cons _ _ value rest => value.nestedIds ++ rest.nestedIds

/-- The ids of the scripts in a value, at every depth. -/
def ParamValue.nestedIds : ParamValue → List ScriptId
  | .scripts body => Program.allIds body
  | .number _ => []
  | .text _ => []

/-- The ids of a program's scripts, at every depth. -/
def Program.allIds : List Script → List ScriptId
  | [] => []
  | s :: rest => s.allIds ++ Program.allIds rest

end

/-- The ids that are nested in the scripts of a program. -/
def Program.nestedIds (program : Program) : List ScriptId :=
  program.flatMap fun script => script.params.nestedIds

/-- The ids of a program are those of its own scripts and those nested in them. -/
theorem Program.allIds_perm (program : Program) :
    (Program.allIds program).Perm (Program.ids program ++ Program.nestedIds program) := by
  induction program with
  | nil => exact .refl []
  | cons script rest ih =>
      rcases script with ⟨id, category, action, params⟩
      rw [allIds, Script.allIds, List.cons_append]
      exact .cons id <| (ih.append_left params.nestedIds).trans <|
        List.perm_append_comm_assoc params.nestedIds (Program.ids rest) (Program.nestedIds rest)

/-! ## Parameters laid over others -/

theorem NameAfter.trans_lt {bound : Option String} {key name : String}
    (after : NameAfter bound key) (later : key < name) : NameAfter bound name := by
  cases bound with
  | none => trivial
  | some bound => exact String.lt_trans after later

/-- A value replaces one that nests nothing. -/
theorem Params.nestedIds_insert {name : String} (value : ParamValue) :
    ∀ {bound : Option String} (params : Params bound) (after : NameAfter bound name),
      (∀ old, params.get? name = some old → old.nestedIds = []) →
      ((params.insert name value after).nestedIds).Perm (params.nestedIds ++ value.nestedIds)
  | _, .nil, _, _ => by
    rw [insert, nestedIds]
    exact List.perm_append_comm
  | _, .cons key _ old rest, _, bare => by
    rw [insert]
    split
    · rw [nestedIds]
      exact List.perm_append_comm
    · split
      · next later =>
        have ih := rest.nestedIds_insert value later fun old found => bare old <| by
          rw [get?, if_neg (String.ne_of_lt later)]
          exact found
        rw [nestedIds, nestedIds, List.append_assoc]
        exact ih.append_left old.nestedIds
      · next unordered unordered' =>
        obtain rfl : key = name := String.le_antisymm unordered unordered'
        have nothing : old.nestedIds = [] := bare old (if_pos rfl)
        rw [nestedIds, nestedIds, nothing, List.nil_append]
        exact List.perm_append_comm

/-- Parameters replace values that nest nothing. -/
theorem Params.nestedIds_insertAll :
    ∀ {bound : Option String} (params : Params bound) (under : Params none),
      (∀ name old, NameAfter bound name → under.get? name = some old → old.nestedIds = []) →
      ((under.insertAll params.toList).nestedIds).Perm (under.nestedIds ++ params.nestedIds)
  | _, .nil, under, _ => by
    rw [nestedIds, List.append_nil]
    exact .refl _
  | bound, .cons key after value rest, under, bare => by
    have inserted := under.nestedIds_insert value trivial fun old => bare key old after
    refine (rest.nestedIds_insertAll (under.insert key value trivial) ?_).trans ?_
    · intro name old later found
      have before := (under.get?_insert key name value trivial).symm.trans found
      rw [if_neg (String.ne_of_lt later).symm] at before
      exact bare name old (after.trans_lt later) before
    · rw [nestedIds, ← List.append_assoc]
      exact inserted.append_right rest.nestedIds

/-- What parameters nest is nested in one of their values. -/
theorem Params.nestedIds_eq_nil {name : String} {value : ParamValue} :
    ∀ {bound : Option String} (params : Params bound), params.nestedIds = [] →
      params.get? name = some value → value.nestedIds = []
  | _, .cons key _ first rest, bare, found => by
    obtain ⟨here, later⟩ := List.append_eq_nil_iff.mp bare
    rw [get?] at found
    split at found
    · cases found
      exact here
    · exact rest.nestedIds_eq_nil later found

theorem Block.nestedIds_defaults (block : Block) : block.defaults.nestedIds = [] := by
  cases block <;> decide +kernel

/-- A script of the palette nests what its parameters nest. -/
theorem Block.Overlaid.nestedIds_perm {block : Block} {id : ScriptId} {params : Params none}
    {script : Script} (overlaid : block.Overlaid id params script) :
    (script.params.nestedIds).Perm params.nestedIds := by
  obtain rfl := overlaid.eq_instantiate
  have perm := params.nestedIds_insertAll block.defaults fun _ _ _ =>
    block.defaults.nestedIds_eq_nil block.nestedIds_defaults
  rwa [block.nestedIds_defaults, List.nil_append] at perm

end BlockStage
