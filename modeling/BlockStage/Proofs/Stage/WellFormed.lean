import BlockStage.Proofs.Registry.Edits
import BlockStage.Proofs.Stage.Placement
import Mathlib.Data.List.Range

/-!
# Stages that hang together

Ids are handed out in order and actors never leave, so the ids of a stage are the first ones
there are; while there are no more actors than ids, no two actors share one.  Flags are raised
only between two different actors of the stage.  Both hold at the beginning and survive every
operation (`Stage.WellFormed.after`).
-/

namespace BlockStage

/-- The first `n` ids in the order in which they are handed out. -/
def ActorId.firsts (n : Nat) : List ActorId := (List.range n).map fun i => ⟨UInt32.ofNat (i + 1)⟩

theorem ActorId.firsts_succ (n : Nat) :
    ActorId.firsts (n + 1) = ActorId.firsts n ++ [⟨UInt32.ofNat (n + 1)⟩] := by
  rw [ActorId.firsts, List.range_succ, List.map_append]
  rfl

/-- An id comes up again only when all have been handed out. -/
theorem ActorId.nodup_firsts {n : Nat} (le : n ≤ UInt32.size) : (ActorId.firsts n).Nodup := by
  refine List.Nodup.map_on ?_ List.nodup_range
  intro i inRange j inRange' same
  have lt := List.mem_range.mp inRange
  have lt' := List.mem_range.mp inRange'
  have numbers := congrArg (UInt32.toNat ∘ ActorId.index) same
  simp only [Function.comp_apply, UInt32.toNat_ofNat'] at numbers
  rw [UInt32.size] at le
  omega

variable {s t : Stage}

/-- The ids are the first ones, and only actors of the stage collide. -/
structure Stage.WellFormed (s : Stage) : Prop where
  ids : s.roster.ids = ActorId.firsts s.roster.actors.length
  flagged : ∀ pair, s.collisions.colliding pair = true →
    ∃ a ∈ s.roster.ids, ∃ b ∈ s.roster.ids, a ≠ b ∧ pair = .of a b

theorem Stage.WellFormed.nodup (h : s.WellFormed)
    (few : s.roster.actors.length ≤ UInt32.size) : s.roster.ids.Nodup :=
  h.ids ▸ ActorId.nodup_firsts few

theorem Stage.WellFormed.of_colliding (h : s.WellFormed) {a b : ActorId}
    (colliding : s.colliding a b = true) : a ≠ b ∧ a ∈ s.roster.ids ∧ b ∈ s.roster.ids := by
  obtain ⟨c, left, d, right, ne, same⟩ := h.flagged _ colliding
  rcases ActorPair.of_eq_of_iff.mp same with ⟨rfl, rfl⟩ | ⟨rfl, rfl⟩
  · exact ⟨ne, left, right⟩
  · exact ⟨ne.symm, right, left⟩

theorem Roster.length_ids (r : Roster) : r.ids.length = r.actors.length := List.length_map _

/-- A stage with the same ids and flags hangs together as well. -/
theorem Stage.WellFormed.congr (h : s.WellFormed) (ids : t.roster.ids = s.roster.ids)
    (flags : t.collisions = s.collisions) : t.WellFormed := by
  have length : t.roster.actors.length = s.roster.actors.length := by
    rw [← Roster.length_ids, ids, Roster.length_ids]
  refine ⟨?_, ?_⟩
  · rw [ids, length, h.ids]
  · rw [ids, flags]
    exact h.flagged

theorem Stage.wellFormed_empty (seed : UInt64) (capacity : Nat) :
    (Stage.empty seed capacity).WellFormed := by
  refine ⟨rfl, fun pair flag => ?_⟩
  cases flag

theorem Stage.ids_create (s : Stage) :
    s.create.2.roster.ids = s.roster.ids ++ [s.roster.nextId] := List.map_append

theorem Stage.WellFormed.create (h : s.WellFormed) : s.create.2.WellFormed := by
  refine ⟨?_, fun pair flag => ?_⟩
  · have length : s.create.2.roster.actors.length = s.roster.actors.length + 1 :=
      List.length_append
    rw [s.ids_create, length, ActorId.firsts_succ, h.ids]
    rfl
  · obtain ⟨a, left, b, right, apart⟩ := h.flagged pair flag
    rw [s.ids_create]
    exact ⟨a, List.mem_append_left _ left, b, List.mem_append_left _ right, apart⟩

theorem Stage.wellFormed_start (setup : StageSetup) : (Stage.start setup).WellFormed := by
  have bare := Stage.wellFormed_empty setup.seed setup.capacity
  rw [Stage.start]
  split
  · refine ⟨rfl, fun pair flag => ?_⟩
    cases flag
  · exact bare

theorem Stage.WellFormed.place (h : s.WellFormed) (id : ActorId) (position : Position) :
    (s.place id position).2.WellFormed := by
  by_cases known : id ∈ s.roster.ids
  · refine ⟨?_, fun pair flag => ?_⟩
    · rw [← Roster.length_ids, s.ids_place, Roster.length_ids]
      exact h.ids
    · rw [s.ids_place]
      -- either the mover's comparison visited this row, or the flag was up before
      by_cases row : ∃ other ∈ s.roster.ids, other ≠ id ∧ pair = .of id other
      · obtain ⟨other, mem, ne, same⟩ := row
        exact ⟨id, known, other, mem, ne.symm, same⟩
      · refine h.flagged pair ?_
        rw [← Stage.colliding_place_of_ne known fun other mem ne same => row ⟨other, mem, ne, same⟩]
        exact flag
  · rw [Stage.place_of_not_mem known]
    exact h

theorem Stage.WellFormed.of_change (h : s.WellFormed) (change : s.Change t) : t.WellFormed := by
  cases change with
  | still alike => exact h.congr alike.ids alike.collisions
  | created alike => exact h.create.congr alike.ids alike.collisions
  | placed id position alike => exact (h.place id position).congr alike.ids alike.collisions
  | submitted script alike =>
      exact h.congr (alike.ids.trans (s.ids_submit script))
        (alike.collisions.trans (s.collisions_submit script))
  | deleted id alike =>
      exact h.congr (alike.ids.trans (s.ids_delete id))
        (alike.collisions.trans (s.collisions_delete id))

/-- **Every history leaves a stage that hangs together.** -/
theorem Stage.WellFormed.after (h : s.WellFormed) (operations : List Operation) :
    (s.after operations).WellFormed := by
  induction operations generalizing s with
  | nil => exact h
  | cons operation rest ih => exact ih (h.of_change (operation.change s))

/-! ## Actors never leave -/

theorem Stage.Change.ids_prefix (change : s.Change t) : s.roster.ids <+: t.roster.ids := by
  cases change with
  | still alike => exact alike.ids ▸ List.prefix_rfl
  | created alike =>
      rw [alike.ids, s.ids_create]
      exact List.prefix_append _ _
  | placed id position alike => exact alike.ids.trans (s.ids_place id position) ▸ List.prefix_rfl
  | submitted script alike => exact alike.ids.trans (s.ids_submit script) ▸ List.prefix_rfl
  | deleted id alike => exact alike.ids.trans (s.ids_delete id) ▸ List.prefix_rfl

theorem Stage.Change.length_le (change : s.Change t) :
    s.roster.actors.length ≤ t.roster.actors.length := by
  rw [← Roster.length_ids, ← Roster.length_ids]
  exact change.ids_prefix.length_le

theorem Stage.length_le_after (s : Stage) (operations : List Operation) :
    s.roster.actors.length ≤ (s.after operations).roster.actors.length := by
  induction operations generalizing s with
  | nil => exact Nat.le_refl _
  | cons operation rest ih => exact (operation.change s).length_le.trans (ih _)

end BlockStage
