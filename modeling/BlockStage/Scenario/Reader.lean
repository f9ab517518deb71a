import BlockStage.Scenario.Basic
import BlockStage.Script.Reader

/-!
Scenarios read from text. Every field may be missing; a scenario may also be written as an array
of its fields in order.
-/

namespace BlockStage

open Json Json.Reader

/-! ### Entries -/

/-- The fields of a palette entry that were met so far. -/
structure PaletteFields where
  block : Option String
  id : Option (Option ScriptId)
  params : Option (Params none)

/-- Reads the fields of a palette entry after those in `met`. No field may be repeated, and
fields of other names do not matter. -/
def PaletteFields.ofJson? (met : PaletteFields) : List (String × Json) → Option PaletteFields
  | [] => some met
  | (key, value) :: rest =>
    if key = "block" then
      match met.block, value with
      | none, .text block => ofJson? { met with block := some block } rest
      | _, _ => none
    else if key = "id" then
      match met.id, value with
      | none, .null => ofJson? { met with id := some none } rest
      | none, .text id => ofJson? { met with id := some (some ⟨id⟩) } rest
      | _, _ => none
    else if key = "params" then
      match met.params, Params.ofJson? value with
      | none, some params => ofJson? { met with params := some params } rest
      | _, _ => none
    else ofJson? met rest

/-- Reads a palette entry, which is an object. -/
def ScriptEntry.paletteOfJson? : Json → Option ScriptEntry
  | .object fields => do
    let met ← PaletteFields.ofJson? ⟨none, none, none⟩ fields
    return .palette (← met.block) (met.id.getD none) (met.params.getD .nil)
  | _ => none

/-- Reads an entry: a script if it is one, else a palette entry. -/
def ScriptEntry.ofJson? (value : Json) : Option ScriptEntry :=
  match Script.ofJson? value with
  | some script => some (.full script)
  | none => paletteOfJson? value

/-- The containers left for an entry: the scenario and its scripts are two. -/
def ScriptEntry.depth : Nat := depthLimit - 2

/-- Reads an entry. It is read whole before its kind is settled. -/
def ScriptEntry.reader : Reader ScriptEntry := do
  match ScriptEntry.ofJson? (← value ScriptEntry.depth) with
  | some entry => return entry
  | none => throw .misfit

/-! ### Actors -/

def ActorId.reader : Reader ActorId := do
  match ActorId.ofLabel? (← text) with
  | some id => return id
  | none => throw .misfit

namespace ActorSetup

/-- The fields of an actor that were met so far. -/
structure Fields where
  x : Option (Option Float)
  y : Option (Option Float)
  heading : Option (Option Float)

/-- Reads one field of an actor. -/
def readMember (met : Fields) (key : String) : Reader Fields := do
  if key = "x" then
    once met.x
    colon
    return { met with x := some (← nullable float) }
  else if key = "y" then
    once met.y
    colon
    return { met with y := some (← nullable float) }
  else if key = "heading" then
    once met.heading
    colon
    return { met with heading := some (← nullable float) }
  else
    colon
    skip
    return met

/-- Reads an actor: an object, or an array of exactly its three fields. -/
def reader : Reader ActorSetup := do
  match ← peekValue with
  | '\x7b' =>
    advance
    let met ← members readMember ⟨none, none, none⟩
    return ⟨met.x.getD none, met.y.getD none, met.heading.getD none⟩
  | '[' =>
    advance
    needElement true
    let x ← nullable float
    needElement false
    let y ← nullable float
    needElement false
    let heading ← nullable float
    endArray
    return ⟨x, y, heading⟩
  | _ => refuse

end ActorSetup

/-! ### Scenarios -/

namespace Scenario

/-- The fields of a scenario that were met so far. -/
structure Fields where
  seed : Option (Option Nat)
  starter : Option Bool
  actors : Option (List ActorSetup)
  select : Option (Option ActorId)
  scripts : Option (List ScriptEntry)
  removed : Option (List String)

def Fields.unmet : Fields := ⟨none, none, none, none, none, none⟩

/-- The scenario of its fields. -/
def Fields.scenario (f : Fields) : Scenario where
  seed := (f.seed.getD none).map UInt64.ofNat
  starter := f.starter.getD true
  actors := f.actors.getD []
  select := f.select.getD none
  scripts := f.scripts.getD []
  removed := (f.removed.getD []).map ScriptId.mk

/-- The names of the fields, in the order of the array form. -/
def fieldNames : List String :=
  ["seed", "starter_actor", "actors", "select", "scripts", "removed"]

/-- Reads the value of a field, none if there is no field of that name. -/
def readField? (met : Fields) (key : String) : Option (Reader Fields) :=
  match key with
  | "seed" => some do return { met with seed := some (← nullable nat64) }
  | "starter_actor" => some do return { met with starter := some (← bool) }
  | "actors" => some do return { met with actors := some (← arrayOf ActorSetup.reader) }
  | "select" => some do return { met with select := some (← nullable ActorId.reader) }
  | "scripts" => some do return { met with scripts := some (← arrayOf ScriptEntry.reader) }
  | "removed" => some do return { met with removed := some (← arrayOf text) }
  | _ => none

/-- Whether a field of this name was met. -/
def Fields.has (met : Fields) (key : String) : Bool :=
  match key with
  | "seed" => met.seed.isSome
  | "starter_actor" => met.starter.isSome
  | "actors" => met.actors.isSome
  | "select" => met.select.isSome
  | "scripts" => met.scripts.isSome
  | "removed" => met.removed.isSome
  | _ => false

/-- Reads one field of the object form. -/
def readMember (met : Fields) (key : String) : Reader Fields := do
  if met.has key then throw .misfit
  colon
  match readField? met key with
  | some readField => readField
  | none =>
    skip
    return met

/-- Reads the array form after its opening bracket: fields in order, up to the end of the array
or of the fields. -/
def readElements : (names : List String) → (first : Bool) → Fields → Reader Fields
  | [], _, met => do
    endArray
    return met
  | name :: names, first, met => do
    if ← hasElement first then
      match readField? met name with
      | some readField => readElements names false (← readField)
      | none => readElements names false met
    else
      endArray
      return met

def reader : Reader Scenario := do
  match ← peekValue with
  | '\x7b' =>
    advance
    return (← members readMember .unmet).scenario
  | '[' =>
    advance
    return (← readElements fieldNames true .unmet).scenario
  | _ => refuse

def parse (text : String) : Except Fault Scenario := Reader.run reader text

end Scenario

end BlockStage
