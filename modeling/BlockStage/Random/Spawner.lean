import BlockStage.Plane.Position
import BlockStage.Random.ChaCha

/-!
Where new actors appear. Spawn places are drawn from a ChaCha stream with twelve rounds; the
key is made from a seed, and apart from it the state is the number of draws so far. So a place
depends on the seed and on how many draws came before, and on nothing else.
-/

namespace BlockStage

/-- New actors appear with both coordinates below this. -/
def spawnExtent : Float := 200

/-- A stream of coordinates. -/
structure Spawner where
  key : ChaCha.Key
  drawn : Nat

namespace Spawner

/-- The stream of a seed from its beginning. -/
def ofSeed (seed : UInt64) : Spawner := ⟨ChaCha.keyOfSeed seed, 0⟩

/-- The next draw: the upper 52 bits of a pair of words as a fraction of the extent. -/
def draw (s : Spawner) : Float × Spawner :=
  let bits := (ChaCha.pair 6 s.key s.drawn).toNat / pow2 12
  (Binary64.ofRatio false bits (pow2 52) * spawnExtent, { s with drawn := s.drawn + 1 })

/-- A coordinate on the spawn square. A draw past its edge is drawn again; should that happen in
all of `tries` draws, the coordinate is zero. -/
def coordinate : (tries : Nat) → Spawner → Float × Spawner
  | 0, s => (0, s)
  | tries + 1, s =>
    let (x, next) := s.draw
    if 0 ≤ x ∧ x < spawnExtent then (x, next) else coordinate tries next

/-- A spawn place, its `x` drawn before its `y`. -/
def place (s : Spawner) : Position × Spawner :=
  let (x, s) := s.coordinate 64
  let (y, s) := s.coordinate 64
  (⟨x, y⟩, s)

end Spawner

end BlockStage
