import BlockStage.Proofs.Json.Numbers
import BlockStage.Proofs.Json.Order
import BlockStage.Proofs.Script.Nesting
import BlockStage.Proofs.Script.Numbers
import BlockStage.Script.Tree
import Mathlib.Data.List.Perm.Basic

/-!
# Scripts and their trees

The parameters of a script carry no mark of their kind, so a tree is decoded by what it looks like,
and its fields may come in any order.  A field is read on its own (`Script.Field.read?`) and taken
down (`Script.Fields.put?`), and what is taken down first does not matter
(`Script.Fields.put?_comm`).  So a script is found again in its tree, however the fields stand
there, if all its numbers are finite (`Script.ofJson?_of_reordered`).
-/

namespace BlockStage

theorem Category.ofName?_name (category : Category) : ofName? category.name = some category := by
  cases category <;> decide

/-! ## Fields of scripts -/

namespace Script

/-- A field of a script. -/
inductive Field where
  | id (id : ScriptId)
  | category (category : Category)
  | action (action : String)
  | params (params : Params none)

/-- Reads a field on its own; a field of another name says nothing. -/
def Field.read? (key : String) (value : Json) : Option (Option Field) :=
  if key = "id" then
    match value with
    | .text s => some (some (.id ⟨s⟩))
    | _ => none
  else if key = "action" then
    match value with
    | .text s => some (some (.action s))
    | _ => none
  else if key = "params" then
    match value with
    | .object fields =>
      (Params.entriesOfJson? fields).map fun entries => some (.params (.ofList entries))
    | _ => none
  else if key = "type" ∨ key = "category" then
    (Category.ofJson? value).map fun category => some (.category category)
  else some none

/-- Takes a field down that was not met before. -/
def Fields.put? (met : Fields) : Option Field → Option Fields
  | none => some met
  | some (.id id) => if met.id.isSome then none else some { met with id := some id }
  | some (.category category) =>
    if met.category.isSome then none else some { met with category := some category }
  | some (.action action) =>
    if met.action.isSome then none else some { met with action := some action }
  | some (.params params) =>
    if met.params.isSome then none else some { met with params := some params }

/-- Fields are read and taken down one after another. -/
theorem fieldsOfJson?_cons (met : Fields) (field : String × Json)
    (rest : List (String × Json)) :
    fieldsOfJson? met (field :: rest) =
      (Field.read? field.1 field.2).bind fun read =>
        (met.put? read).bind (fieldsOfJson? · rest) := by
  obtain ⟨key, value⟩ := field
  by_cases isId : key = "id"
  · subst isId
    cases value <;> cases known : met.id <;> simp [fieldsOfJson?, Field.read?, Fields.put?, known]
  by_cases isAction : key = "action"
  · subst isAction
    cases value <;> cases known : met.action <;>
      simp [fieldsOfJson?, Field.read?, Fields.put?, known]
  by_cases isParams : key = "params"
  · subst isParams
    cases value with
    | object params =>
      cases known : met.params <;> cases entries : Params.entriesOfJson? params <;>
        simp [fieldsOfJson?, Field.read?, Fields.put?, known, entries]
    | _ => cases known : met.params <;> simp [fieldsOfJson?, Field.read?, known]
  by_cases isCategory : key = "type" ∨ key = "category"
  · cases known : met.category <;> cases category : Category.ofJson? value <;>
      simp [fieldsOfJson?, Field.read?, Fields.put?, isId, isAction, isParams, isCategory, known,
        category]
  · simp [fieldsOfJson?, Field.read?, Fields.put?, isId, isAction, isParams, isCategory]

/-- Which of two fields is taken down first does not matter, also if they are the same. -/
theorem Fields.put?_comm (met : Fields) (x y : Option Field) :
    (met.put? x).bind (·.put? y) = (met.put? y).bind (·.put? x) := by
  obtain ⟨id, category, action, params⟩ := met
  cases x with
  | none => cases y <;> simp [put?]
  | some x =>
      cases y with
      | none => simp [put?]
      | some y =>
          cases x <;> cases y <;> cases id <;> cases category <;> cases action <;> cases params <;>
            rfl

theorem fieldsOfJson?_perm {fields fields' : List (String × Json)} (perm : fields.Perm fields')
    (met : Fields) : fieldsOfJson? met fields = fieldsOfJson? met fields' := by
  induction perm generalizing met with
  | nil => rfl
  | cons field _ ih => rw [fieldsOfJson?_cons, fieldsOfJson?_cons]; simp only [ih]
  | trans _ _ ih ih' => exact (ih met).trans (ih' met)
  | swap first second rest =>
      simp only [fieldsOfJson?_cons]
      cases Field.read? first.1 first.2 with
      | none => cases Field.read? second.1 second.2 <;> simp
      | some x =>
          cases Field.read? second.1 second.2 with
          | none => simp
          | some y =>
              simp only [Option.bind_some, ← Option.bind_assoc]
              rw [Fields.put?_comm]

end Script

/-! ## Entries of parameters -/

namespace Params

/-- Entries of different names may be set in either order. -/
theorem insert_comm {bound : Option String} {name other : String} (ne : name ≠ other)
    (value value' : ParamValue) (params : Params bound) (after : NameAfter bound name)
    (after' : NameAfter bound other) :
    (params.insert name value after).insert other value' after' =
      (params.insert other value' after').insert name value after := by
  refine ext_get? _ _ fun key => ?_
  rw [get?_insert, get?_insert, get?_insert, get?_insert]
  by_cases first : key = name
  · rw [if_pos first, if_pos first, if_neg (first ▸ ne)]
  · rw [if_neg first, if_neg first]

theorem ofList_perm {entries entries' : List (String × ParamValue)} (perm : entries.Perm entries')
    (nodup : (entries.map (·.1)).Nodup) : ofList entries = ofList entries' := by
  refine perm.foldl_eq' (fun x memX y memY params => ?_) Params.nil
  by_cases same : x = y
  · rw [same]
  · have ne : x.1 ≠ y.1 := fun names => same (List.inj_on_of_nodup_map nodup memX memY names)
    exact insert_comm ne x.2 y.2 params trivial trivial

theorem nameAfter_of_mem_toList {entry : String × ParamValue} :
    ∀ {bound : Option String} (params : Params bound), entry ∈ params.toList →
      NameAfter bound entry.1
  | _, .cons _ after _ rest, mem => by
    rcases List.mem_cons.mp mem with rfl | later
    · exact after
    · have next : NameAfter _ entry.1 := rest.nameAfter_of_mem_toList later
      exact NameAfter.trans_lt after next

/-- Every name has one value. -/
theorem nodup_names : ∀ {bound : Option String} (params : Params bound),
    (params.toList.map (·.1)).Nodup
  | _, .nil => List.nodup_nil
  | _, .cons name _ _ rest => by
    refine List.nodup_cons.mpr ⟨fun mem => ?_, rest.nodup_names⟩
    obtain ⟨entry, later, same⟩ := List.mem_map.mp mem
    have next : name < entry.1 := rest.nameAfter_of_mem_toList later
    exact String.ne_of_lt next same.symm

theorem ofList_toList (params : Params none) : ofList params.toList = params :=
  ext_get? _ _ fun name => by
    rw [ofList, params.get?_insertAll name .nil]
    exact Option.or_none

theorem entriesOfJson?_cons {name : String} {value : Json} {rest : List (String × Json)}
    {entries : List (String × ParamValue)} :
    entriesOfJson? ((name, value) :: rest) = some entries ↔
      ∃ given more, ParamValue.ofJson? value = some given ∧ entriesOfJson? rest = some more ∧
        entries = (name, given) :: more := by
  rw [entriesOfJson?]
  simp only [Option.bind_eq_bind, Option.bind_eq_some_iff, Option.pure_def, Option.some.injEq]
  constructor
  · rintro ⟨given, decoded, more, later, rfl⟩
    exact ⟨given, more, decoded, later, rfl⟩
  · rintro ⟨given, more, decoded, later, rfl⟩
    exact ⟨given, decoded, more, later, rfl⟩

/-- Entries stand in the order of their fields. -/
theorem entriesOfJson?_perm {fields fields' : List (String × Json)} (perm : fields.Perm fields') :
    ∀ {entries : List (String × ParamValue)}, entriesOfJson? fields = some entries →
      ∃ entries', entriesOfJson? fields' = some entries' ∧ entries.Perm entries' := by
  induction perm with
  | nil => exact fun decoded => ⟨_, decoded, .refl _⟩
  | trans _ _ ih ih' =>
      intro entries decoded
      obtain ⟨between, decoded, perm⟩ := ih decoded
      obtain ⟨entries', decoded, perm'⟩ := ih' decoded
      exact ⟨entries', decoded, perm.trans perm'⟩
  | cons field _ ih =>
      intro entries decoded
      obtain ⟨given, more, here, later, rfl⟩ := entriesOfJson?_cons.mp decoded
      obtain ⟨more', later', perm⟩ := ih later
      exact ⟨_, entriesOfJson?_cons.mpr ⟨given, more', here, later', rfl⟩, perm.cons _⟩
  | swap first second rest =>
      intro entries decoded
      obtain ⟨_, _, here, later, rfl⟩ := entriesOfJson?_cons.mp decoded
      obtain ⟨_, _, there, more, rfl⟩ := entriesOfJson?_cons.mp later
      refine ⟨_, entriesOfJson?_cons.mpr ⟨_, _, there, entriesOfJson?_cons.mpr
        ⟨_, _, here, more, rfl⟩, rfl⟩, .swap _ _ _⟩

end Params

/-! ## There and back -/

mutual

/-- **A script with finite numbers is found again in its tree**, however the fields of the objects
stand there. -/
theorem Script.ofJson?_of_reordered : ∀ (script : Script) {tree : Json}, script.NumbersFinite →
    script.toJson.Reordered tree → Script.ofJson? tree = some script
  | ⟨id, category, action, params⟩, _, finite, .object (.cons _ (.text _) (.cons _ (.text _)
      (.cons _ (.text _) (.cons _ (.object each inner) .nil)))) order => by
    obtain ⟨entries, decoded, perm⟩ := Params.entriesOfJson?_perm inner
      (params.entriesOfJson?_of_reordered finite each)
    have given : Params.ofList entries = params := by
      rw [← Params.ofList_perm perm params.nodup_names, params.ofList_toList]
    rw [Script.ofJson?, ← Script.fieldsOfJson?_perm order]
    simp [Script.fieldsOfJson?_cons, Script.fieldsOfJson?, Script.Field.read?, Script.Fields.put?,
      Script.Fields.unmet, Script.Fields.script?, Category.ofJson?, Category.ofName?_name, decoded,
      given]

theorem ParamValue.ofJson?_of_reordered : ∀ (value : ParamValue) {tree : Json},
    (∀ x ∈ value.numbers, x.isFinite = true) → value.toJson.Reordered tree →
      ParamValue.ofJson? tree = some value
  | .number x, tree, finite, reordered => by
    rw [ParamValue.toJson, Json.real, if_pos (finite x (List.mem_singleton_self x))] at reordered
    cases reordered
    rfl
  | .text _, _, _, .text _ => rfl
  | .scripts body, _, finite, .array each => by
    rw [ParamValue.ofJson?, Script.listOfJson?_of_reordered body finite each]
    rfl

theorem Params.entriesOfJson?_of_reordered : ∀ {bound : Option String} (params : Params bound)
    {fields : List (String × Json)}, params.NumbersFinite →
      Json.FieldsReordered params.toFields fields →
      Params.entriesOfJson? fields = some params.toList
  | _, .nil, fields, _, reordered => by
    cases reordered
    rfl
  | _, .cons name _ value rest, fields, finite, reordered => by
    rw [Params.toFields] at reordered
    cases reordered with
    | cons _ first later =>
        have here := value.ofJson?_of_reordered
          (fun x mem => finite x (List.mem_append_left _ mem)) first
        have there := rest.entriesOfJson?_of_reordered
          (fun x mem => finite x (List.mem_append_right _ mem)) later
        exact Params.entriesOfJson?_cons.mpr ⟨value, rest.toList, here, there, rfl⟩

theorem Script.listOfJson?_of_reordered : ∀ (body : List Script) {items : List Json},
    (∀ x ∈ Program.numbers body, x.isFinite = true) →
      Json.ItemsReordered (Script.listToJson body) items → Script.listOfJson? items = some body
  | [], _, _, .nil => rfl
  | script :: rest, _, finite, .cons first later => by
    have here := script.ofJson?_of_reordered
      (fun x mem => finite x (List.mem_append_left _ mem)) first
    have there := Script.listOfJson?_of_reordered rest
      (fun x mem => finite x (List.mem_append_right _ mem)) later
    rw [Script.listOfJson?, here, there]
    rfl

end

/-! ## Numbers of trees -/

/-- The numbers that a field brings. -/
def Script.Field.numbers : Script.Field → List Float
  | .params given => given.numbers
  | _ => []

/-- The numbers of the fields that were met. -/
def Script.Fields.numbers (met : Script.Fields) : List Float :=
  (met.params.map Params.numbers).getD []

theorem Script.Fields.mem_numbers_put? {met met' : Script.Fields} {read : Option Script.Field}
    {x : Float} (put : met.put? read = some met') (mem : x ∈ met'.numbers) :
    x ∈ met.numbers ∨ ∃ field, read = some field ∧ x ∈ field.numbers := by
  cases read with
  | none =>
      cases put
      exact .inl mem
  | some field =>
      cases field with
      | params params =>
          rw [put?] at put
          split at put
          · cases put
          · cases put
            exact .inr ⟨_, rfl, mem⟩
      | _ =>
          rw [put?] at put
          split at put
          · cases put
          · cases put
            exact .inl mem

theorem Script.mem_numbers_script? {met : Script.Fields} {script : Script}
    (all : met.script? = some script) : script.numbers = met.numbers := by
  simp only [Fields.script?, Option.bind_eq_bind, Option.bind_eq_some_iff, Option.pure_def,
    Option.some.injEq] at all
  obtain ⟨_, _, _, _, _, _, rfl⟩ := all
  rw [Script.numbers, Fields.numbers]
  cases met.params <;> rfl

theorem Script.Field.read?_eq_params {key : String} {value : Json} {given : Params none}
    (reads : Script.Field.read? key value = some (some (.params given))) :
    ∃ fields entries, value = .object fields ∧ Params.entriesOfJson? fields = some entries ∧
      given = .ofList entries := by
  rw [read?.eq_def] at reads
  split at reads
  · split at reads <;> simp at reads
  · split at reads
    · split at reads <;> simp at reads
    · split at reads
      · split at reads
        · next fields =>
          obtain ⟨entries, decoded, same⟩ := Option.map_eq_some_iff.mp reads
          cases same
          exact ⟨fields, entries, rfl, decoded, rfl⟩
        · cases reads
      · split at reads <;> simp at reads

mutual

/-- The numbers of a script stand in its tree. -/
theorem Script.mem_numbers_of_ofJson? : ∀ (tree : Json) {script : Script},
    Script.ofJson? tree = some script → ∀ x ∈ script.numbers, x ∈ tree.numbers
  | .object fields, script, decoded => by
    intro x mem
    rw [Script.ofJson?, Option.bind_eq_some_iff] at decoded
    obtain ⟨met, decoded, all⟩ := decoded
    rw [Script.mem_numbers_script? all] at mem
    rcases Script.mem_numbers_of_fieldsOfJson? fields decoded x mem with here | before
    · exact here
    · cases before
  | .array items, script, decoded => by
    intro x mem
    rw [Script.ofJson?.eq_def] at decoded
    split at decoded
    · next same => cases same
    · next same =>
      obtain ⟨_, _, rfl⟩ := Option.map_eq_some_iff.mp decoded
      cases mem
    · next same =>
      cases same
      simp only [Option.bind_eq_bind, Option.bind_eq_some_iff, Option.pure_def,
        Option.some.injEq] at decoded
      obtain ⟨_, _, entries, decoded, rfl⟩ := decoded
      rcases Params.mem_numbers_insertAll mem with ⟨entry, inEntries, has⟩ | nothing
      · have := Params.mem_numbers_of_entriesOfJson? _ decoded entry inEntries x has
        simp [Json.numbers, Json.itemNumbers, this]
      · cases nothing
    · cases decoded
  | .null, _, decoded => by cases decoded
  | .bool _, _, decoded => by cases decoded
  | .number _, _, decoded => by cases decoded
  | .text _, _, decoded => by cases decoded

theorem Script.mem_numbers_of_fieldsOfJson? : ∀ (fields : List (String × Json))
    {met met' : Script.Fields}, Script.fieldsOfJson? met fields = some met' →
      ∀ x ∈ met'.numbers, x ∈ Json.fieldNumbers fields ∨ x ∈ met.numbers
  | [], _, _, decoded => by
    cases decoded
    exact fun _ => .inr
  | (key, value) :: rest, met, met', decoded => by
    intro x mem
    simp only [Script.fieldsOfJson?_cons, Option.bind_eq_some_iff] at decoded
    obtain ⟨read, reads, next, put, decoded⟩ := decoded
    rw [Json.fieldNumbers, List.mem_append]
    rcases Script.mem_numbers_of_fieldsOfJson? rest decoded x mem with later | before
    · exact .inl (.inr later)
    · rcases Script.Fields.mem_numbers_put? put before with old | ⟨field, rfl, brought⟩
      · exact .inr old
      · exact .inl (.inl (Script.mem_numbers_of_read? value reads x brought))

theorem Script.mem_numbers_of_read? : ∀ (value : Json) {key : String} {field : Script.Field},
    Script.Field.read? key value = some (some field) → ∀ x ∈ field.numbers, x ∈ value.numbers
  | value, key, .params given, reads => by
    intro x mem
    obtain ⟨fields, entries, rfl, decoded, rfl⟩ := Script.Field.read?_eq_params reads
    rcases Params.mem_numbers_insertAll mem with ⟨entry, inEntries, has⟩ | nothing
    · exact Params.mem_numbers_of_entriesOfJson? fields decoded entry inEntries x has
    · cases nothing
  | _, _, .id _, _ => by intro x mem; cases mem
  | _, _, .category _, _ => by intro x mem; cases mem
  | _, _, .action _, _ => by intro x mem; cases mem

theorem Params.mem_numbers_of_entriesOfJson? : ∀ (fields : List (String × Json))
    {entries : List (String × ParamValue)}, Params.entriesOfJson? fields = some entries →
      ∀ entry ∈ entries, ∀ x ∈ entry.2.numbers, x ∈ Json.fieldNumbers fields
  | [], _, decoded => by
    cases decoded
    exact fun _ mem => by cases mem
  | (name, value) :: rest, _, decoded => by
    obtain ⟨given, more, here, later, rfl⟩ := Params.entriesOfJson?_cons.mp decoded
    intro entry mem x has
    rw [Json.fieldNumbers, List.mem_append]
    rcases List.mem_cons.mp mem with rfl | inRest
    · exact .inl (ParamValue.mem_numbers_of_ofJson? value here x has)
    · exact .inr (Params.mem_numbers_of_entriesOfJson? rest later entry inRest x has)

theorem ParamValue.mem_numbers_of_ofJson? : ∀ (tree : Json) {value : ParamValue},
    ParamValue.ofJson? tree = some value → ∀ x ∈ value.numbers, x ∈ tree.numbers
  | .number n, _, decoded => by
    cases decoded
    exact fun _ => id
  | .text s, _, decoded => by
    cases decoded
    exact fun _ => id
  | .array items, _, decoded => by
    rw [ParamValue.ofJson?] at decoded
    obtain ⟨body, listed, rfl⟩ := Option.map_eq_some_iff.mp decoded
    exact Script.mem_numbers_of_listOfJson? items listed
  | .null, _, decoded => by cases decoded
  | .bool _, _, decoded => by cases decoded
  | .object _, _, decoded => by cases decoded

theorem Script.mem_numbers_of_listOfJson? : ∀ (items : List Json) {body : List Script},
    Script.listOfJson? items = some body →
      ∀ x ∈ Program.numbers body, x ∈ Json.itemNumbers items
  | [], _, decoded => by
    cases decoded
    exact fun _ => id
  | item :: items, body, decoded => by
    rw [Script.listOfJson?] at decoded
    simp only [Option.bind_eq_bind, Option.bind_eq_some_iff, Option.pure_def,
      Option.some.injEq] at decoded
    obtain ⟨script, first, rest, later, rfl⟩ := decoded
    intro x mem
    rw [Json.itemNumbers, List.mem_append]
    rcases List.mem_append.mp mem with here | there
    · exact .inl (Script.mem_numbers_of_ofJson? item first x here)
    · exact .inr (Script.mem_numbers_of_listOfJson? items later x there)

end

mutual

/-- A tree is written with finite numbers only. -/
theorem Script.numbersFinite_toJson : ∀ script : Script, script.toJson.NumbersFinite
  | ⟨_, _, _, params⟩ => by
    intro x mem
    simp only [Script.toJson, Json.numbers, Json.fieldNumbers, List.nil_append,
      List.append_nil] at mem
    exact params.isFinite_of_mem_toFields x mem

theorem ParamValue.numbersFinite_toJson : ∀ value : ParamValue, value.toJson.NumbersFinite
  | .number x => by
    rw [ParamValue.toJson, Json.real]
    split
    · next finite =>
      intro y mem
      obtain rfl : y = x := List.mem_singleton.mp mem
      exact finite
    · intro y mem
      cases mem
  | .text _ => by
    intro x mem
    cases mem
  | .scripts body => Script.isFinite_of_mem_listToJson body

theorem Params.isFinite_of_mem_toFields : ∀ {bound : Option String} (params : Params bound),
    ∀ x ∈ Json.fieldNumbers params.toFields, x.isFinite = true
  | _, .nil => by
    intro x mem
    cases mem
  | _, .cons _ _ value rest => by
    intro x mem
    rcases List.mem_append.mp mem with here | later
    · exact value.numbersFinite_toJson x here
    · exact rest.isFinite_of_mem_toFields x later

theorem Script.isFinite_of_mem_listToJson : ∀ body : List Script,
    ∀ x ∈ Json.itemNumbers (Script.listToJson body), x.isFinite = true
  | [] => by
    intro x mem
    cases mem
  | script :: rest => by
    intro x mem
    rcases List.mem_append.mp mem with here | later
    · exact script.numbersFinite_toJson x here
    · exact Script.isFinite_of_mem_listToJson rest x later

end

/-- **Exactly the scripts with finite numbers are found again in their trees.** -/
theorem Script.ofJson?_toJson_iff (script : Script) :
    Script.ofJson? script.toJson = some script ↔ script.NumbersFinite := by
  constructor
  · intro decoded x mem
    exact script.numbersFinite_toJson x (Script.mem_numbers_of_ofJson? script.toJson decoded x mem)
  · exact fun finite => script.ofJson?_of_reordered finite (.refl script.toJson)

end BlockStage
