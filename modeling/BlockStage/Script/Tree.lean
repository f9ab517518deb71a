import BlockStage.Json.Basic
import BlockStage.Script.Basic

/-!
Scripts as JSON trees. A parameter carries no mark of its kind: numbers, texts and arrays of
scripts tell themselves apart. Beside the object form a script may be written as an array of
its id, category, action and, if there are any, parameters.
-/

namespace BlockStage

/-- A category from its name, or from an object whose only key is its name, with the value
null. -/
def Category.ofJson? : Json → Option Category
  | .text name => ofName? name
  | .object [(name, .null)] => ofName? name
  | _ => none

/-- The fields of a script that were met so far. -/
structure Script.Fields where
  id : Option ScriptId
  category : Option Category
  action : Option String
  params : Option (Params none)

def Script.Fields.unmet : Script.Fields := ⟨none, none, none, none⟩

/-- The script of its fields; only the parameters may be missing. -/
def Script.Fields.script? (f : Script.Fields) : Option Script := do
  return ⟨← f.id, ← f.category, ← f.action, f.params.getD .nil⟩

mutual

def Script.ofJson? : Json → Option Script
  | .object fields => (Script.fieldsOfJson? .unmet fields).bind Script.Fields.script?
  | .array [.text id, category, .text action] =>
    (Category.ofJson? category).map fun category => ⟨⟨id⟩, category, action, .nil⟩
  | .array [.text id, category, .text action, .object params] => do
    return ⟨⟨id⟩, ← Category.ofJson? category, action, .ofList (← Params.entriesOfJson? params)⟩
  | _ => none

/-- Reads the fields of a script after those in `met`. No field may be repeated, `type` and
`category` are one field, and fields of other names do not matter. -/
def Script.fieldsOfJson? (met : Script.Fields) : List (String × Json) → Option Script.Fields
  | [] => some met
  | ("id", value) :: rest =>
    match met.id, value with
    | none, .text id => Script.fieldsOfJson? { met with id := some ⟨id⟩ } rest
    | _, _ => none
  | ("action", value) :: rest =>
    match met.action, value with
    | none, .text action => Script.fieldsOfJson? { met with action := some action } rest
    | _, _ => none
  | ("params", value) :: rest =>
    match met.params, value with
    | none, .object params =>
      match Params.entriesOfJson? params with
      | some entries =>
        Script.fieldsOfJson? { met with params := some (.ofList entries) } rest
      | none => none
    | _, _ => none
  | (key, value) :: rest =>
    if key = "type" ∨ key = "category" then
      match met.category, Category.ofJson? value with
      | none, some category => Script.fieldsOfJson? { met with category := some category } rest
      | _, _ => none
    else Script.fieldsOfJson? met rest

/-- Reads the value of a parameter. -/
def ParamValue.ofJson? : Json → Option ParamValue
  | .number n => some (.number n.toFloat)
  | .text s => some (.text s)
  | .array items => (Script.listOfJson? items).map .scripts
  | _ => none

/-- Reads parameters in the order they are written. -/
def Params.entriesOfJson? : List (String × Json) → Option (List (String × ParamValue))
  | [] => some []
  | (name, value) :: rest => do
    return (name, ← ParamValue.ofJson? value) :: (← Params.entriesOfJson? rest)

def Script.listOfJson? : List Json → Option (List Script)
  | [] => some []
  | item :: items => do return (← Script.ofJson? item) :: (← Script.listOfJson? items)

end

/-- Reads parameters; the last value of a name stays. -/
def Params.ofJson? : Json → Option (Params none)
  | .object fields => (Params.entriesOfJson? fields).map .ofList
  | _ => none

mutual

def Script.toJson : Script → Json
  | ⟨id, category, action, params⟩ =>
    .object [("id", .text id.text), ("type", .text category.name), ("action", .text action),
      ("params", .object params.toFields)]

def ParamValue.toJson : ParamValue → Json
  | .number x => .real x
  | .text s => .text s
  | .scripts body => .array (Script.listToJson body)

/-- Parameters as fields, in the order of their names. -/
def Params.toFields : {bound : Option String} → Params bound → List (String × Json)
  | _, .nil => []
  | _, .cons name _ value rest => (name, value.toJson) :: rest.toFields

def Script.listToJson : List Script → List Json
  | [] => []
  | s :: rest => s.toJson :: Script.listToJson rest

end

def programToJson (program : List Script) : Json := .array (Script.listToJson program)

def Params.toJson (params : Params none) : Json := .object params.toFields

end BlockStage
