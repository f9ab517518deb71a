import BlockStage.Proofs.Collision.Exactness
import BlockStage.Proofs.Plane.Clamping
import BlockStage.Proofs.Playback.Reachable

/-!
# Actors stay on the stage

An actor takes its first place and every later one from a clamped position, and nothing else moves
it.  So whatever numbers an operation is given, and whatever comes of them on the way, all actors
stand on the stage (`actors_stay_on_stage`), and the comparisons of a placement are between places
on the stage, which have a distance.
-/

namespace BlockStage

variable {r r' : Roster} {s t : Stage}

/-! ## Rosters -/

/-- Whether all actors stand on the stage. -/
def Roster.OnStage (r : Roster) : Prop := ∀ x ∈ r.actors, x.position.OnStage

theorem Roster.onStage_iff : r.OnStage ↔ ∀ place ∈ r.places, place.2.OnStage := by
  rw [Roster.places, List.forall_mem_map]
  rfl

theorem Roster.OnStage.congr (h : r.OnStage) (same : r'.places = r.places) : r'.OnStage := by
  rw [Roster.onStage_iff] at h ⊢
  rwa [same]

theorem Roster.OnStage.place (h : r.OnStage) (id : ActorId) (position : Position) :
    (r.place id position).2.OnStage :=
  Roster.forall_update h fun _ _ _ _ => position.onStage_clamped

/-! ## Stages -/

theorem Stage.onStage_start (setup : StageSetup) : (Stage.start setup).roster.OnStage := by
  rw [Stage.start]
  split
  · exact List.forall_mem_singleton.mpr starterPosition.onStage_clamped
  · exact List.forall_mem_nil _

theorem Stage.onStage_create (h : s.roster.OnStage) : s.create.2.roster.OnStage := by
  rw [Roster.onStage_iff, Stage.places_create, List.forall_mem_append]
  exact ⟨Roster.onStage_iff.mp h, List.forall_mem_singleton.mpr (Position.onStage_clamped _)⟩

theorem Stage.onStage_place (h : s.roster.OnStage) (id : ActorId) (position : Position) :
    (s.place id position).2.roster.OnStage := by
  by_cases known : id ∈ s.roster.ids
  · rw [Stage.place_of_mem known]
    exact Roster.OnStage.congr (h.place id position) (Stage.places_settleAll _ _)
  · rwa [Stage.place_of_not_mem known]

theorem Stage.Change.onStage (change : s.Change t) (h : s.roster.OnStage) : t.roster.OnStage := by
  cases change with
  | still alike => exact h.congr alike.places
  | created alike => exact (Stage.onStage_create h).congr alike.places
  | placed id position alike => exact (Stage.onStage_place h id position).congr alike.places
  | submitted script alike => exact h.congr (alike.places.trans (s.places_submit script))
  | deleted id alike => exact h.congr (alike.places.trans (s.places_delete id))

theorem Playback.Reached.onStage {p : Playback} (reached : p.Reached) : p.stage.roster.OnStage :=
  reached.kept (P := fun s => s.roster.OnStage) Stage.onStage_start
    (fun o s h => (o.change s).onStage h) fun _ _ h => h

/-- **Whatever has happened, with whatever numbers, all actors stand on the stage**, and so do they
once one of them is placed anew: the distances that are compared then are numbers.  Waiting, and
running a program or a pass beside the loops, lead to nothing that could not have happened
otherwise, so the actors stand on the stage after that, too. -/
theorem actors_stay_on_stage (p : Playback) (reached : p.Reached) :
    (∀ x ∈ p.stage.roster.actors, x.position.OnStage) ∧
      (∀ id position, ∀ x ∈ (p.stage.moved id position).roster.actors,
        ∀ y ∈ (p.stage.moved id position).roster.actors,
          (x.position.distance y.position).isNaN = false) ∧
      ∀ call : Playback.Call, (call.apply p).Reached ∧
        ∀ x ∈ (call.apply p).stage.roster.actors, x.position.OnStage := by
  refine ⟨reached.onStage, fun id position x mem y mem' => ?_,
    fun call => ⟨reached.called call, (reached.called call).onStage⟩⟩
  have moved := reached.onStage.place id position
  exact Position.not_isNaN_distance (moved x mem) (moved y mem')

/-- An actor that looks into infinity takes a step, and another one goes nowhere. -/
def adrift : Playback :=
  (Playback.of .standard (.start ⟨0, true, 3⟩)).afterAll
    [.move (.operate (.face ⟨1⟩ (1 / 0))),
      .move (.operate (.nudge (Block.move.instantiate ⟨"ahead"⟩ .nil))),
      .move (.operate .create), .move (.operate (.place ⟨2⟩ ⟨0 / 0, 1 / 0⟩))]

theorem adrift_on_stage : adrift.Reached ∧
    adrift.stage.roster.actors.map (·.heading.isFinite) = [false, true] ∧
    (∀ x ∈ adrift.stage.roster.actors, x.position.OnStage) ∧
    (∀ x ∈ (adrift.stage.moved ⟨1⟩ ⟨-1, 0 / 0⟩).roster.actors,
      ∀ y ∈ (adrift.stage.moved ⟨1⟩ ⟨-1, 0 / 0⟩).roster.actors,
        (x.position.distance y.position).isNaN = false) ∧
    ∀ x ∈ adrift.runPass.stage.roster.actors, x.position.OnStage := by
  have reached : adrift.Reached := ⟨_, _, _, .start _, rfl⟩
  obtain ⟨standing, distances, calls⟩ := actors_stay_on_stage adrift reached
  exact ⟨reached, by decide +kernel, standing, distances _ _, (calls .runPass).2⟩

end BlockStage
