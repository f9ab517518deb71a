import BlockStage.Proofs.Collision.Exactness
import BlockStage.Proofs.Plane.Clamping

/-!
# Where actors appear

The places where actors appear are a sequence that the seed decides (`Spawner.spot`); all of them
lie in the spawn square, so clamping does not move any (`Spawner.clamped_nth`).  A creation uses up
one of them and adds one actor, and no other operation does either (`Operation.spawner_apply`,
`Operation.ids_apply`).
-/

namespace BlockStage

/-! ## The sequence of places -/

/-- The places that a stream gives one after another. -/
def Spawner.nth (s : Spawner) : Nat → Position
  | 0 => s.place.1
  | k + 1 => s.place.2.nth k

/-- The places of a seed. -/
def Spawner.spot (seed : UInt64) : Nat → Position := (Spawner.ofSeed seed).nth

/-- Whether both coordinates are in the spawn square. -/
def Position.InSpawnSquare (p : Position) : Prop :=
  (0 ≤ p.x ∧ p.x < spawnExtent) ∧ 0 ≤ p.y ∧ p.y < spawnExtent

theorem Spawner.coordinate_bounds (tries : Nat) (s : Spawner) :
    0 ≤ (s.coordinate tries).1 ∧ (s.coordinate tries).1 < spawnExtent := by
  induction tries generalizing s with
  | zero =>
      have corner : (0 : Float) ≤ 0 ∧ 0 < spawnExtent := by decide
      exact corner
  | succ tries ih =>
      rw [Spawner.coordinate]
      rcases s.draw with ⟨x, next⟩
      dsimp only
      split
      · next inside => exact inside
      · exact ih next

theorem Spawner.inSpawnSquare_place (s : Spawner) : s.place.1.InSpawnSquare := by
  rw [Spawner.place]
  have first := s.coordinate_bounds 64
  rcases x : s.coordinate 64 with ⟨_, s'⟩
  have second := s'.coordinate_bounds 64
  rcases y : s'.coordinate 64 with ⟨_, _⟩
  rw [x] at first
  rw [y] at second
  dsimp only
  rw [y]
  exact ⟨first, second⟩

theorem Spawner.inSpawnSquare_nth (s : Spawner) (k : Nat) : (s.nth k).InSpawnSquare := by
  induction k generalizing s with
  | zero => exact s.inSpawnSquare_place
  | succ k ih => exact ih s.place.2

/-- The spawn square is a part of the stage. -/
theorem Position.InSpawnSquare.onStage {p : Position} (h : p.InSpawnSquare) : p.OnStage := by
  have inside : spawnExtent ≤ stageExtent := by decide
  have within {x : Float} (low : 0 ≤ x) (high : x < spawnExtent) : WithinExtent x :=
    ⟨(Binary64.isNaN_of_le low).2, low, Binary64.le_trans (Binary64.le_of_lt high) inside⟩
  exact ⟨within h.1.1 h.1.2, within h.2.1 h.2.2⟩

theorem Spawner.clamped_nth (s : Spawner) (k : Nat) : (s.nth k).clamped = s.nth k :=
  Position.clamped_of_onStage (s.inSpawnSquare_nth k).onStage

/-! ## What operations do to it -/

theorem Stage.backdrop_travelTo (s : Stage) (id : ActorId) (travel : Travel)
    (position : Position) : (s.travelTo id travel position).backdrop = s.backdrop := by
  rw [← s.backdrop_place id position, Stage.travelTo, Stage.recordPosition]
  split <;> rfl

/-- Scripts change neither the registry nor the selection when they are performed. -/
theorem Stage.backdrop_perform (s : Stage) (id : ActorId) (script : Script) :
    (s.perform id script).2.backdrop = s.backdrop := by
  rw [Stage.perform]
  split
  · rfl
  · rfl
  · next actor block _ _ =>
    cases block with
    | move => exact s.backdrop_travelTo _ _ _
    | goTo => exact s.backdrop_travelTo _ _ _
    | turnLeft | turnRight | say | think | repetition => rfl

theorem Stage.backdrop_nudge (s : Stage) (script : Script) :
    (s.nudge script).2.backdrop = s.backdrop := by
  rw [Stage.nudge]
  split
  · rw [Stage.nudgeActor]
    split
    · split
      · exact s.backdrop_travelTo _ _ _
      · rfl
      · rfl
      · rfl
    · rfl
  · rfl

/-- **Only a creation draws a place.** -/
theorem Operation.spawner_apply {operation : Operation} (other : operation ≠ .create) (s : Stage) :
    (operation.apply s).roster.spawner = s.roster.spawner := by
  cases operation with
  | create => exact absurd rfl other
  | place actor position => exact congrArg (·.2.1) (s.backdrop_place actor position)
  | select actor =>
      rw [apply, Stage.select]
      by_cases known : s.roster.has actor = true
      · rw [if_pos known]
        rfl
      · rw [if_neg known]
  | submit script =>
      rw [apply]
      by_cases known : s.registry.has script.id = true
      · rw [Stage.submit_of_known known]
      · rw [Stage.submit_of_fresh known]
        rfl
  | delete id =>
      rw [apply, Stage.delete, Registry.remove]
      cases s.registry.has id <;> rfl
  | nudge script => exact congrArg (·.2.1) (s.backdrop_nudge script)
  | perform actor script => exact congrArg (·.2.1) (s.backdrop_perform actor script)
  | face | hush | note | take => rfl

/-- **Only a creation adds an actor.** -/
theorem Operation.ids_apply {operation : Operation} (other : operation ≠ .create) (s : Stage) :
    (operation.apply s).roster.ids = s.roster.ids := by
  cases operation.step s with
  | created => exact absurd rfl other
  | submitted script alike => exact alike.ids.trans (s.ids_submit script)
  | deleted id alike => exact alike.ids.trans (s.ids_delete id)
  | placed _ alike =>
      refine alike.ids.trans ?_
      cases operation.placement? s with
      | none => rfl
      | some place => exact s.ids_place place.1 place.2

end BlockStage
