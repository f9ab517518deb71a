import BlockStage.Actor.Basic
import BlockStage.Random.Spawner

/-!
The roster: all actors in the order they were created, and the stream of places where the next
ones appear. Actors are found by their ids and never leave.
-/

namespace BlockStage

/-- All actors, and where new ones appear. -/
structure Roster where
  actors : List Actor
  spawner : Spawner

namespace Roster

/-- Nobody, with the spawn places of a seed. -/
def empty (seed : UInt64) : Roster := ⟨[], .ofSeed seed⟩

/-- The id of the next actor: one more than there are actors. -/
def nextId (r : Roster) : ActorId := ⟨UInt32.ofNat (r.actors.length + 1)⟩

/-- Adds an actor at a place. -/
def spawnAt (r : Roster) (position : Position) (program : Program) : ActorId × Roster :=
  (r.nextId, { r with actors := r.actors ++ [.fresh r.nextId position program] })

/-- Adds an actor at the next spawn place. -/
def spawn (r : Roster) (program : Program) : ActorId × Roster :=
  let drawn := r.spawner.place
  { r with spawner := drawn.2 }.spawnAt drawn.1 program

def get? (r : Roster) (id : ActorId) : Option Actor := r.actors.find? (·.id = id)

def has (r : Roster) (id : ActorId) : Bool := (r.get? id).isSome

/-- The ids of all actors in order. -/
def ids (r : Roster) : List ActorId := r.actors.map (·.id)

/-- Changes the first actor of an id in a list. -/
def updateFirst (id : ActorId) (f : Actor → Actor) : List Actor → List Actor
  | [] => []
  | a :: rest => if a.id = id then f a :: rest else a :: updateFirst id f rest

def update (r : Roster) (id : ActorId) (f : Actor → Actor) : Roster :=
  { r with actors := updateFirst id f r.actors }

def updateAll (r : Roster) (f : Actor → Actor) : Roster :=
  { r with actors := r.actors.map f }

/-- Two different actors, in the order of the two ids. -/
def pair? (r : Roster) (a b : ActorId) : Option (Actor × Actor) :=
  if a = b then none
  else match r.get? a, r.get? b with
    | some first, some second => some (first, second)
    | _, _ => none

/-- Moves an actor to the place on the stage that stands for `position`; tells whether the id
has an actor. -/
def place (r : Roster) (id : ActorId) (position : Position) : Bool × Roster :=
  (r.has id, r.update id fun a => { a with position := position.clamped })

/-- Turns an actor to a heading, which is kept as given; tells whether the id has an actor. -/
def face (r : Roster) (id : ActorId) (heading : Float) : Bool × Roster :=
  (r.has id, r.update id fun a => { a with heading })

end Roster

end BlockStage
