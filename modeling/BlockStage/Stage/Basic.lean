import BlockStage.Event.Log
import BlockStage.Registry
import BlockStage.Swap

/-!
The stage: scripts, actors, collision flags, the selected actor and the log of what happened.
All changes go through the operations below, each of which keeps the parts in step: a script
reaches all actors, a new place settles the actor's collisions, and what happened is logged.
-/

namespace BlockStage

structure Stage where
  registry : Registry
  roster : Roster
  collisions : CollisionTable
  selected : Option ActorId
  log : EventLog

structure StageSetup where
  /-- Decides where new actors appear. -/
  seed : UInt64
  /-- Whether there is an actor at the beginning, which is selected then. -/
  starter : Bool
  /-- How many events the log keeps. -/
  capacity : Nat

/-- The capacity of an event log when none is asked for. -/
def defaultCapacity : Nat := 4096

/-- Where the actor of the beginning stands. -/
def starterPosition : Position := ⟨100, 100⟩

/-- An actor that is not on the stage. -/
structure UnknownActor where
  actor : ActorId
  deriving DecidableEq, Repr

/-- What is said about such an actor. -/
def UnknownActor.message (e : UnknownActor) : String := "no actor with id " ++ e.actor.label

namespace Stage

/-- Appends an entry to the event log. -/
def record (s : Stage) (event : Event) : Stage := { s with log := s.log.record event }

def empty (seed : UInt64) (capacity : Nat) : Stage where
  registry := .empty
  roster := .empty seed
  collisions := .empty
  selected := none
  log := .empty capacity

def start (setup : StageSetup) : Stage :=
  let s := empty setup.seed setup.capacity
  if setup.starter then
    let (id, roster) := s.roster.spawnAt starterPosition []
    { s with roster, selected := some id }.record (.created id)
  else s

def actor? (s : Stage) (id : ActorId) : Option Actor := s.roster.get? id

def program? (s : Stage) (id : ActorId) : Option Program := (s.actor? id).map (·.program)

/-- Whether two actors were colliding when last compared. -/
def colliding (s : Stage) (a b : ActorId) : Bool := s.collisions.colliding (.of a b)

/-- Whether every script that an actor holds is registered. -/
def isConsistent (s : Stage) : Bool := (s.registry.divergence? s.roster).isNone

/-- Adds an actor at the next spawn place, with all registered scripts as its program. -/
def create (s : Stage) : ActorId × Stage :=
  let (id, roster) := s.roster.spawn s.registry.scripts
  (id, { s with roster }.record (.created id))

def select (s : Stage) (id : ActorId) : Except UnknownActor Stage :=
  if s.roster.has id then .ok ({ s with selected := some id }.record (.selected id))
  else .error ⟨id⟩

/-- Registers a script for all actors; a known id is refused. Tells whether it was added. -/
def submit (s : Stage) (script : Script) : Bool × Stage :=
  match s.registry.add script s.roster with
  | (true, registry, roster) => (true, { s with registry, roster }.record (.added script.id))
  | (false, registry, roster) => (false, { s with registry, roster })

/-- Removes a script from all actors. Tells whether it was registered. -/
def delete (s : Stage) (id : ScriptId) : Bool × Stage :=
  match s.registry.remove id s.roster with
  | (true, registry, roster) => (true, { s with registry, roster }.record (.removed id))
  | (false, registry, roster) => (false, { s with registry, roster })

/-- Lets a contact take effect: actors that come together trade programs, actors that part get
theirs back. -/
def settle (s : Stage) (contact : Contact) : Stage :=
  let roster := match contact.edge with
    | .rise => (s.roster.exchange contact.mover contact.other).2
    | .fall => (s.roster.separate contact.mover contact.other).2
  { s with roster }.record (.contact contact.edge contact.pair)

/-- Places an actor, compares it with all others and then lets the contacts take effect in
order. Tells whether the id has an actor. -/
def place (s : Stage) (id : ActorId) (position : Position) : Bool × Stage :=
  match s.roster.place id position with
  | (true, roster) =>
    let (contacts, collisions) := s.collisions.detect roster id
    (true, contacts.foldl settle { s with roster, collisions })
  | (false, _) => (false, s)

/-- Turns an actor to a heading, which is kept as given. Tells whether the id has an actor. -/
def face (s : Stage) (id : ActorId) (heading : Float) : Bool × Stage :=
  let (found, roster) := s.roster.face id heading
  (found, { s with roster })

/-- Shows a bubble beside an actor, or none. -/
def setBubble (s : Stage) (id : ActorId) (bubble : Option Bubble) : Stage :=
  { s with roster := s.roster.update id fun a => { a with bubble } }

/-- Takes all entries out of the event log. -/
def takeEvents (s : Stage) : List Event × Stage :=
  let (events, log) := s.log.take
  (events, { s with log })

end Stage

end BlockStage
