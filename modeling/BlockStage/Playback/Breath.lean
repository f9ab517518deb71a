/-!
Breath. Dialogue that takes no time is over at once and lets nobody else go on, but only so often
in a row: a run has the breath for a number of them, and when it is out of breath, others get a
turn before it goes on.
-/

namespace BlockStage

/-- For how many more waits without length a run has the breath. -/
inductive Breath where
  /-- Nobody else is there to get a turn. -/
  | endless
  | left (waits : Nat)
  deriving DecidableEq, Repr

namespace Breath

/-- The waits without length that a run begins with. -/
def capacity : Nat := 128

/-- The breath of a run that begins. -/
def full : Breath := .left capacity

/-- The breath of a run that goes on after a wait, which has taken a part of it. -/
def afterWait : Breath := .left (capacity - 1)

/-- The breath after one more wait; none if the wait takes time or the run is out of breath. -/
def spend (breath : Breath) (instant : Bool) : Option Breath :=
  match instant, breath with
  | true, .endless => some .endless
  | true, .left (waits + 1) => some (.left waits)
  | _, _ => none

end Breath

end BlockStage
