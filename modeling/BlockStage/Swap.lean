import BlockStage.Actor.Roster
import BlockStage.Script.Palette

/-!
Trading programs. Two actors that come together trade their programs, and the moves at the top
of the traded programs run backwards; when they part, each gets back the program that it held
at its latest trade.
-/

namespace BlockStage

/-- A program with its moves reversed; scripts inside repetitions stay as they are. -/
def Program.reversed (program : Program) : Program := program.map Script.reversed

namespace Roster

/-- Lets two different actors trade programs. What an actor held just before is saved, in place
of anything saved earlier. Tells whether there were two actors. -/
def exchange (r : Roster) (a b : ActorId) : Bool × Roster :=
  match r.pair? a b with
  | none => (false, r)
  | some (first, second) =>
    let r := r.update a fun x =>
      { x with program := second.program.reversed, saved := some first.program }
    let r := r.update b fun x =>
      { x with program := first.program.reversed, saved := some second.program }
    (true, r)

/-- Gives an actor its saved program back, if it has one; tells so. -/
def restore (r : Roster) (id : ActorId) : Bool × Roster :=
  match (r.get? id).bind (·.saved) with
  | none => (false, r)
  | some saved => (true, r.update id fun x => { x with program := saved, saved := none })

/-- Gives two actors their saved programs back; lists those that had one. -/
def separate (r : Roster) (a b : ActorId) : List ActorId × Roster :=
  let (restoredA, r) := r.restore a
  let (restoredB, r) := r.restore b
  ((if restoredA then [a] else []) ++ (if restoredB then [b] else []), r)

end Roster

end BlockStage
