import BlockStage.Actor.Roster

/-!
Collisions. The table knows for each pair of actors that was ever compared whether the two were
colliding at that time; comparing them again shows whether they came together or parted. A pair
keeps the actor whose written id comes first in front, so both orders of two actors give the same
pair.
-/

namespace BlockStage

/-! ### Pairs -/

/-- Two actors, in the order of their written ids: `sprite10` before `sprite2`. -/
structure ActorPair where
  low : ActorId
  high : ActorId
  deriving DecidableEq, Repr

namespace ActorPair

def of (a b : ActorId) : ActorPair :=
  if a.label ≤ b.label then ⟨a, b⟩ else ⟨b, a⟩

/-- The written form of a pair. -/
def label (pair : ActorPair) : String := pair.low.label ++ "-" ++ pair.high.label

end ActorPair

/-! ### Flags -/

/-- Actors strictly closer than this collide. -/
def collisionRadius : Float := 50

/-- Whether actors at two places collide. -/
def Position.collides (p q : Position) : Bool := p.distance q < collisionRadius

/-- A change of a collision flag. -/
inductive Edge where
  | rise
  | fall
  deriving DecidableEq, Repr

def Edge.name : Edge → String
  | .rise => "rise"
  | .fall => "fall"

/-- The change from one flag to the next, if there is any. -/
def Edge.between? : (before after : Bool) → Option Edge
  | false, true => some .rise
  | true, false => some .fall
  | _, _ => none

/-- A flag that changed because `mover` was placed. -/
structure Contact where
  mover : ActorId
  other : ActorId
  edge : Edge
  deriving DecidableEq, Repr

/-- The pair whose flag changed. -/
def Contact.pair (c : Contact) : ActorPair := .of c.mover c.other

/-- The last flag of every pair that was compared, in the order of the first comparisons. -/
structure CollisionTable where
  flags : List (ActorPair × Bool)

namespace CollisionTable

def empty : CollisionTable := ⟨[]⟩

/-- The last flag of a pair, if it was compared. -/
def flag? (t : CollisionTable) (pair : ActorPair) : Option Bool :=
  (t.flags.find? (·.1 = pair)).map (·.2)

/-- Whether a pair was colliding when last compared; false if it never was. -/
def colliding (t : CollisionTable) (pair : ActorPair) : Bool := (t.flag? pair).getD false

/-- Sets the flag of a pair in a list of flags. -/
def setFlag (pair : ActorPair) (flag : Bool) : List (ActorPair × Bool) → List (ActorPair × Bool)
  | [] => [(pair, flag)]
  | entry :: rest =>
    if entry.1 = pair then (pair, flag) :: rest else entry :: setFlag pair flag rest

/-- Records the flag of a pair and tells how it changed. -/
def update (t : CollisionTable) (pair : ActorPair) (flag : Bool) :
    Option Edge × CollisionTable :=
  (Edge.between? (t.colliding pair) flag, ⟨setFlag pair flag t.flags⟩)

/-- Compares `mover`, standing at `place`, with each of the actors in turn. -/
def compare (mover : ActorId) (place : Position) :
    List Actor → CollisionTable → List Contact × CollisionTable
  | [], t => ([], t)
  | other :: rest, t =>
    let (edge, t) := t.update (.of mover other.id) (place.collides other.position)
    let (contacts, t) := compare mover place rest t
    match edge with
    | some edge => (⟨mover, other.id, edge⟩ :: contacts, t)
    | none => (contacts, t)

/-- Compares an actor with all others, in the order of the roster. -/
def detect (t : CollisionTable) (roster : Roster) (mover : ActorId) :
    List Contact × CollisionTable :=
  match roster.get? mover with
  | none => ([], t)
  | some a => compare mover a.position (roster.actors.filter (·.id ≠ mover)) t

end CollisionTable

end BlockStage
