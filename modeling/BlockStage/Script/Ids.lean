import BlockStage.Decimal.Reading
import BlockStage.Script.Basic

/-!
Fresh script ids. The allocator hands out `script-1`, `script-2` and so on, and jumps over
every number it has seen in an id made elsewhere. Numbers have 64 bits; after the largest one
there is none left.
-/

namespace BlockStage

/-- One more than the largest number of an id. -/
def idBound : Nat := UInt64.size

def ScriptId.numbered (n : Nat) : ScriptId := ⟨"script-" ++ toString n⟩

/-- What precedes the number of an id. -/
def ScriptId.word : List Char := "script-".toList

/-- The number of an id of the form `script-` and a number, however the number is written. -/
def ScriptId.number? (id : ScriptId) : Option Nat :=
  let chars := id.text.toList
  if chars.take word.length = word then
    Decimal.readNat? idBound (String.ofList (chars.drop word.length))
  else none

/-- The next number to hand out, none when they are used up. -/
structure IdAllocator where
  next : Option Nat
  deriving DecidableEq, Repr

namespace IdAllocator

/-- An allocator that has seen nothing. -/
def fresh : IdAllocator := ⟨some 1⟩

/-- The number after `n`, if there is one. -/
def successor (n : Nat) : Option Nat := if n + 1 < idBound then some (n + 1) else none

def allocate (ids : IdAllocator) : Option (ScriptId × IdAllocator) :=
  ids.next.map fun n => (.numbered n, ⟨successor n⟩)

/-- Jumps over the number of an id made elsewhere. -/
def observe (ids : IdAllocator) (id : ScriptId) : IdAllocator :=
  match id.number?, ids.next with
  | some n, some next => if next ≤ n then ⟨successor n⟩ else ids
  | _, _ => ids

end IdAllocator

end BlockStage
