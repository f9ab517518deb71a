import BlockStage.Actor.Roster
import BlockStage.Text

/-!
The registry: every script authored so far, in the order of submission. Adding a script hands
it to all actors, removing one takes it from all of them, and programs that are set aside
during a swap are edited like the others.
-/

namespace BlockStage

/-- The authored scripts in the order of submission. -/
structure Registry where
  scripts : List Script

namespace Registry

/-- No script yet. -/
def empty : Registry := ⟨[]⟩

/-- Whether a script of this id is registered. -/
def has (r : Registry) (id : ScriptId) : Bool := Program.has r.scripts id

/-- The registered script of an id. -/
def get? (r : Registry) (id : ScriptId) : Option Script := r.scripts.find? (·.id = id)

end Registry

/-- A program with `s` at its end, unless it already has a script of that id. -/
def Program.append (program : Program) (s : Script) : Program :=
  if program.has s.id then program else program ++ [s]

/-- A program without the scripts of an id. -/
def Program.drop (program : Program) (id : ScriptId) : Program :=
  program.filter (·.id ≠ id)

/-- Edits the programs of an actor, the saved one too. -/
def Actor.edit (edit : Program → Program) (a : Actor) : Actor :=
  { a with program := edit a.program, saved := a.saved.map edit }

/-- A script that an actor holds without its being registered. -/
structure Divergence where
  actor : ActorId
  script : ScriptId
  deriving DecidableEq, Repr

/-- What is said about such a script when an edit finds it. -/
def Divergence.message (d : Divergence) : String :=
  "registry diverged: Some((ActorId(" ++ toString d.actor.index.toNat ++ "), ScriptId(" ++
    Text.quoted d.script.text ++ "))) holds a script missing from the registry"

namespace Registry

/-- Registers a script and hands it to every actor; nothing changes if its id is known. Tells
whether it was added. -/
def add (r : Registry) (s : Script) (roster : Roster) : Bool × Registry × Roster :=
  if r.has s.id then (false, r, roster)
  else (true, ⟨r.scripts ++ [s]⟩, roster.updateAll (Actor.edit (Program.append · s)))

/-- Removes an id from the registry and from every program. Tells whether it was registered. -/
def remove (r : Registry) (id : ScriptId) (roster : Roster) : Bool × Registry × Roster :=
  (r.has id, ⟨Program.drop r.scripts id⟩, roster.updateAll (Actor.edit (Program.drop · id)))

/-- The first script that an actor holds, in its program or its saved one, without its being
registered. -/
def divergence? (r : Registry) (roster : Roster) : Option Divergence :=
  roster.actors.findSome? fun a =>
    (a.held.find? fun s => !r.has s.id).map fun s => ⟨a.id, s.id⟩

end Registry

end BlockStage
