import BlockStage.Json.Reader
import BlockStage.Script.Tree

/-!
Scripts read straight from text. The shape is checked while the text is read, so the first
fault in the text decides, whether it is one of the text or one of the shape. The value of a
parameter is read whole before its kind is settled.
-/

namespace BlockStage

open Json Json.Reader

/-- The category of a name that was read. -/
def Category.named (name : String) : Reader Category :=
  match Category.ofName? name with
  | some category => return category
  | none => throw .misfit

/-- Reads the name of a category. Anything but a text is malformed here. -/
def Category.nameReader : Reader Category := do
  if (← peekValue) = '"' then
    advance
    named (← textBody)
  else throw .malformed

/-- Reads a category: its name, or an object with the name as its only key. -/
def Category.reader : Reader Category := do
  if (← peekValue) = '\x7b' then
    advance
    let category ← nameReader
    colon
    if (← peekValue) = 'n' then literal "null".toList else refuse
    match ← peek with
    | none => throw .cutShort
    | some '\x7d' => advance
    | some _ => throw .malformed
    return category
  else nameReader

/-- Reads parameters whose values may hold `depth` containers in one another. -/
def Params.reader (depth : Nat) : Reader (Params none) := do
  if (← peekValue) = '\x7b' then
    advance
    members (fun params name => do
      colon
      match ParamValue.ofJson? (← value depth) with
      | some value => return params.insert name value trivial
      | none => throw .misfit) .nil
  else refuse

namespace Script

/-- The containers left for the value of a parameter of a script that is the whole text: the
script and its parameters are two. -/
def paramDepth : Nat := depthLimit - 2

/-- Reads one field of a script. -/
def readMember (met : Fields) (key : String) : Reader Fields := do
  if key = "id" then
    once met.id
    colon
    return { met with id := some ⟨← text⟩ }
  else if key = "type" ∨ key = "category" then
    once met.category
    colon
    return { met with category := some (← Category.reader) }
  else if key = "action" then
    once met.action
    colon
    return { met with action := some (← text) }
  else if key = "params" then
    once met.params
    colon
    return { met with params := some (← Params.reader paramDepth) }
  else
    colon
    skip
    return met

/-- Reads the array form of a script after its opening bracket. -/
def readArray : Reader Script := do
  needElement true
  let id ← text
  needElement false
  let category ← Category.reader
  needElement false
  let action ← text
  let params ← if ← hasElement false then Params.reader paramDepth else pure .nil
  endArray
  return ⟨⟨id⟩, category, action, params⟩

/-- Reads a script that is the whole text. -/
def reader : Reader Script := do
  match ← peekValue with
  | '\x7b' =>
    advance
    match (← members readMember .unmet).script? with
    | some script => return script
    | none => throw .misfit
  | '[' =>
    advance
    readArray
  | _ => refuse

def parse (text : String) : Except Fault Script := Reader.run reader text

end Script

end BlockStage
