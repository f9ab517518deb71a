import BlockStage.Proofs.Script.Steps

/-!
# Parameters laid over defaults

A script of the palette has the defaults of its block, overlaid by the parameters it is given
(`Block.Overlaid`).  Parameters are determined by what they give to names (`Params.ext_get?`), so
there is one such script for an id.
-/

namespace BlockStage

theorem Block.tag_of_ofTag {tag : String} {block : Block} (known : Block.ofTag tag = .ok block) :
    block.tag = tag := by
  rw [Block.ofTag] at known
  split at known
  · next found =>
    cases known
    simpa using List.find?_some found
  · cases known

/-- Parameters laid over others. -/
theorem Params.get?_insertAll (name : String) :
    ∀ {bound : Option String} (params : Params bound) (under : Params none),
      (under.insertAll params.toList).get? name = (params.get? name).or (under.get? name)
  | _, .nil, under => rfl
  | _, .cons key _ value rest, under => by
    have later := rest.get?_insertAll name (under.insert key value trivial)
    have inserted := under.get?_insert key name value trivial
    rw [insertAll] at later
    rw [toList, insertAll, List.foldl_cons, get?]
    refine later.trans ?_
    rw [inserted]
    by_cases same : key = name
    · subst same
      rw [rest.get?_eq_none (String.lt_irrefl key), if_pos rfl, if_pos rfl]
      rfl
    · rw [if_neg same, if_neg (Ne.symm same)]

/-- A script of a block: the defaults of the block, overlaid by parameters. -/
structure Block.Overlaid (block : Block) (id : ScriptId) (params : Params none)
    (script : Script) : Prop where
  id : script.id = id
  category : script.category = block.category
  action : script.action = block.tag
  params : ∀ name, script.params.get? name = (params.get? name).or (block.defaults.get? name)

theorem Block.overlaid_instantiate (block : Block) (id : ScriptId) (params : Params none) :
    block.Overlaid id params (block.instantiate id params) :=
  ⟨rfl, rfl, rfl, fun name => params.get?_insertAll name block.defaults⟩

theorem Block.Overlaid.eq_instantiate {block : Block} {id : ScriptId} {params : Params none}
    {script : Script} (overlaid : block.Overlaid id params script) :
    script = block.instantiate id params := by
  obtain ⟨id', category, action, given⟩ := script
  obtain ⟨rfl, rfl, rfl, overlays⟩ := overlaid
  have same : given = block.defaults.insertAll params.toList := Params.ext_get? _ _ fun name =>
    (overlays name).trans (params.get?_insertAll name block.defaults).symm
  rw [same]
  rfl

end BlockStage
