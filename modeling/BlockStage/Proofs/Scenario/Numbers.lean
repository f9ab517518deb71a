import BlockStage.Proofs.Scenario.Authoring
import BlockStage.Proofs.Script.Tree
import BlockStage.Scenario.Reader

/-!
# The numbers of scenarios

A scenario that was read has finite numbers only, as its entries are decoded from trees that have
(`Scenario.numbersFinite_of_parse`).  So all programs of the stage that is built of it have finite
numbers (`Scenario.NumbersFinite.holds_build`).
-/

namespace BlockStage

open Json Json.Reader

/-! ## Entries -/

theorem Script.NumbersFinite.of_ofJson? {tree : Json} {script : Script}
    (decoded : Script.ofJson? tree = some script) (finite : tree.NumbersFinite) :
    script.NumbersFinite :=
  fun x mem => finite x (Script.mem_numbers_of_ofJson? tree decoded x mem)

theorem Params.NumbersFinite.of_ofJson? {tree : Json} {params : Params none}
    (decoded : Params.ofJson? tree = some params) (finite : tree.NumbersFinite) :
    params.NumbersFinite := by
  cases tree with
  | object fields =>
      obtain ⟨entries, listed, rfl⟩ := Option.map_eq_some_iff.mp decoded
      intro x mem
      rcases Params.mem_numbers_insertAll mem with ⟨entry, inEntries, has⟩ | nothing
      · exact finite x (Params.mem_numbers_of_entriesOfJson? fields listed entry inEntries x has)
      · cases nothing
  | _ => cases decoded

/-- The numbers that an entry gives are finite. -/
def ScriptEntry.NumbersFinite : ScriptEntry → Prop
  | .full script => script.NumbersFinite
  | .palette _ _ params => params.NumbersFinite

/-- The parameters that were met so far have finite numbers. -/
def PaletteFields.NumbersFinite (met : PaletteFields) : Prop :=
  ∀ params, met.params = some params → params.NumbersFinite

theorem PaletteFields.NumbersFinite.ofJson? {fields : List (String × Json)}
    (each : ∀ field ∈ fields, field.2.NumbersFinite) {met met' : PaletteFields}
    (finite : met.NumbersFinite) (decoded : PaletteFields.ofJson? met fields = some met') :
    met'.NumbersFinite := by
  induction fields generalizing met with
  | nil =>
      cases decoded
      exact finite
  | cons field rest ih =>
      obtain ⟨here, later⟩ := List.forall_mem_cons.mp each
      obtain ⟨key, value⟩ := field
      rw [PaletteFields.ofJson?.eq_def] at decoded
      dsimp only at decoded
      split at decoded
      · split at decoded
        · refine ih later ?_ decoded
          exact finite
        · cases decoded
      · split at decoded
        · split at decoded
          · refine ih later ?_ decoded
            exact finite
          · refine ih later ?_ decoded
            exact finite
          · cases decoded
        · split at decoded
          · split at decoded
            · next given =>
              refine ih later (fun params same => ?_) decoded
              cases same
              exact .of_ofJson? given here
            · cases decoded
          · exact ih later finite decoded

theorem ScriptEntry.numbersFinite_of_ofJson? {tree : Json} {entry : ScriptEntry}
    (decoded : ScriptEntry.ofJson? tree = some entry) (finite : tree.NumbersFinite) :
    entry.NumbersFinite := by
  rw [ofJson?] at decoded
  split at decoded
  · next whole =>
    cases decoded
    exact Script.NumbersFinite.of_ofJson? whole finite
  · cases tree with
    | object fields =>
        simp only [paletteOfJson?, Option.bind_eq_bind, Option.bind_eq_some_iff, Option.pure_def,
          Option.some.injEq] at decoded
        obtain ⟨met, decoded, block, -, rfl⟩ := decoded
        have each : ∀ field ∈ fields, field.2.NumbersFinite := fun field mem x has =>
          finite x (mem_fieldNumbers.mpr ⟨field, mem, has⟩)
        have given := PaletteFields.NumbersFinite.ofJson? each (fun _ none => by cases none) decoded
        rw [NumbersFinite]
        cases params : met.params with
        | none =>
            intro x mem
            cases mem
        | some params' => exact given params' params
    | _ => cases decoded

theorem ScriptEntry.gives_reader : Gives NumbersFinite ScriptEntry.reader := by
  refine (gives_value ScriptEntry.depth).bind fun tree finite => ?_
  split
  · next decoded => exact gives_pure (numbersFinite_of_ofJson? decoded finite)
  · exact gives_throw _

/-! ## Scenarios -/

namespace Scenario

/-- The numbers that the entries of a scenario give are finite. -/
def NumbersFinite (scenario : Scenario) : Prop :=
  ∀ entry ∈ scenario.scripts, entry.NumbersFinite

/-- The same of the fields that were met so far. -/
def Fields.NumbersFinite (met : Fields) : Prop :=
  ∀ scripts, met.scripts = some scripts → ∀ entry ∈ scripts, entry.NumbersFinite

theorem Fields.NumbersFinite.scenario {met : Fields} (finite : met.NumbersFinite) :
    met.scenario.NumbersFinite := by
  intro entry mem
  cases scripts : met.scripts with
  | none =>
      have none : met.scenario.scripts = [] := congrArg (·.getD []) scripts
      rw [none] at mem
      cases mem
  | some given =>
      have some : met.scenario.scripts = given := congrArg (·.getD []) scripts
      exact finite given scripts entry (some ▸ mem)

theorem gives_readField? {met : Fields} {key : String} {reader : Reader Fields}
    (finite : met.NumbersFinite) (reads : readField? met key = some reader) :
    Gives Fields.NumbersFinite reader := by
  rw [readField?.eq_def] at reads
  split at reads
  · cases reads
    exact Gives.after fun _ => gives_pure finite
  · cases reads
    exact Gives.after fun _ => gives_pure finite
  · cases reads
    exact Gives.after fun _ => gives_pure finite
  · cases reads
    exact Gives.after fun _ => gives_pure finite
  · cases reads
    refine (gives_arrayOf ScriptEntry.gives_reader).bind fun entries each => gives_pure ?_
    rintro _ ⟨⟩
    exact each
  · cases reads
    exact Gives.after fun _ => gives_pure finite
  · cases reads

theorem gives_readMember (met : Fields) (key : String) (finite : met.NumbersFinite) :
    Gives Fields.NumbersFinite (readMember met key) := by
  rw [readMember]
  dsimp only
  split
  · exact Gives.bind (P := fun _ => False) (gives_throw _) fun _ => False.elim
  refine Gives.after fun _ => ?_
  split
  · next reads => exact gives_readField? finite reads
  · exact Gives.after fun _ => gives_pure finite

theorem gives_readElements (names : List String) (first : Bool) {met : Fields}
    (finite : met.NumbersFinite) : Gives Fields.NumbersFinite (readElements names first met) := by
  induction names generalizing first met with
  | nil => exact Gives.after fun _ => gives_pure finite
  | cons name names ih =>
      rw [readElements]
      refine Gives.after fun more => ?_
      split
      · split
        · next reads => exact (gives_readField? finite reads).bind fun met given => ih false given
        · exact ih false finite
      · exact Gives.after fun _ => gives_pure finite

theorem gives_reader : Gives NumbersFinite reader := by
  have unmet : Fields.unmet.NumbersFinite := fun _ none => by cases none
  rw [reader]
  refine Gives.after fun c => ?_
  split
  · refine Gives.after fun _ => Gives.bind (gives_members gives_readMember unmet) ?_
    exact fun met finite => gives_pure finite.scenario
  · refine Gives.after fun _ => (gives_readElements fieldNames true unmet).bind ?_
    exact fun met finite => gives_pure finite.scenario
  · exact gives_refuse

/-- **The numbers of a scenario that was read are finite.** -/
theorem numbersFinite_of_parse {text : String} {scenario : Scenario}
    (parsed : Scenario.parse text = .ok scenario) : scenario.NumbersFinite :=
  gives_reader.run parsed

end Scenario

/-! ## Stages -/

theorem ScriptEntry.Denotes.numbersFinite {n : Nat} {entries : List ScriptEntry}
    {scripts : List Script} (denotes : ScriptEntry.Denotes n entries scripts)
    (finite : ∀ entry ∈ entries, entry.NumbersFinite) : Program.NumbersFinite scripts := by
  induction denotes with
  | nil => exact List.forall_mem_nil _
  | full script _ ih =>
      obtain ⟨here, later⟩ := List.forall_mem_cons.mp finite
      exact List.forall_mem_cons.mpr ⟨here, ih later⟩
  | named overlaid _ ih =>
      obtain ⟨here, later⟩ := List.forall_mem_cons.mp finite
      obtain rfl := overlaid.eq_instantiate
      exact List.forall_mem_cons.mpr ⟨Block.finite_instantiate _ _ here, ih later⟩
  | minted overlaid _ _ ih =>
      obtain ⟨here, later⟩ := List.forall_mem_cons.mp finite
      obtain rfl := overlaid.eq_instantiate
      exact List.forall_mem_cons.mpr ⟨Block.finite_instantiate _ _ here, ih later⟩

/-- **The programs of a stage that is built of finite numbers have finite numbers.** -/
theorem Scenario.NumbersFinite.holds_build {scenario : Scenario} {seed : UInt64} {stage : Stage}
    (finite : scenario.NumbersFinite) (built : (scenario.build seed).2 = .ok stage) :
    stage.Holds Program.NumbersFinite := by
  obtain ⟨scripts, denotes, unison, registry⟩ := denotes_build built
  have all := denotes.numbersFinite finite
  have registered : Program.NumbersFinite stage.registry.scripts := by
    rw [registry]
    exact fun script mem =>
      all script ((Program.firsts_sublist [] scripts).subset (List.mem_of_mem_filter mem))
  intro x mem
  have same := unison x mem
  exact ⟨same.program ▸ registered, fun program saved => same.saved program saved ▸ registered⟩

end BlockStage
