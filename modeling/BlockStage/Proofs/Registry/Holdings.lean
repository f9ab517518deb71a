import BlockStage.Proofs.Registry.Edits
import BlockStage.Proofs.Stage.Placement

/-!
# What all programs have in common

Programs come to actors in few ways: a new actor gets one, an edit reaches all of them, and trades
and returns hand copies about, reversed at times.  So a property of programs that reversal keeps is
kept by every contact, and hence by every placement, whoever trades with whom
(`Stage.Holds.place`).
-/

namespace BlockStage

variable {P Q : Program → Prop} {r : Roster} {s t : Stage}

/-- The program of an actor has a property, and so does its saved program if it has one. -/
structure Actor.Holds (P : Program → Prop) (x : Actor) : Prop where
  program : P x.program
  saved : ∀ program, x.saved = some program → P program

theorem Actor.Holds.of_bare {x y : Actor} (h : x.Holds P) (same : x.bare = y.bare) :
    y.Holds P := by
  refine ⟨?_, fun program saved => ?_⟩
  · rw [← Actor.program_eq_of_bare same]
    exact h.program
  · rw [← Actor.saved_eq_of_bare same] at saved
    exact h.saved program saved

theorem Actor.Holds.edit {x : Actor} {edit : Program → Program} (h : x.Holds P)
    (edits : ∀ program, P program → Q (edit program)) : (x.edit edit).Holds Q := by
  refine ⟨edits _ h.program, fun program saved => ?_⟩
  obtain ⟨before, wasSaved, rfl⟩ := Option.map_eq_some_iff.mp saved
  exact edits before (h.saved before wasSaved)

/-- Whatever an actor holds is in one of its programs. -/
theorem Actor.Holds.exists_of_mem_held {x : Actor} (h : x.Holds P) {e : Script}
    (held : e ∈ x.held) : ∃ program, P program ∧ e ∈ program := by
  rcases List.mem_append.mp held with active | parked
  · exact ⟨x.program, h.program, active⟩
  · cases saved : x.saved with
    | none =>
        rw [saved] at parked
        cases parked
    | some program =>
        rw [saved, Option.getD_some] at parked
        exact ⟨program, h.saved program saved, parked⟩

/-! ## Rosters -/

/-- The programs of all actors have a property. -/
def Roster.Holds (P : Program → Prop) (r : Roster) : Prop := ∀ x ∈ r.actors, x.Holds P

theorem Roster.Holds.spawnAt (h : r.Holds P) (position : Position) {program : Program}
    (given : P program) : (r.spawnAt position program).2.Holds P := by
  intro x mem
  rcases List.mem_append.mp mem with old | new
  · exact h x old
  · rw [List.mem_singleton.mp new]
    refine ⟨given, fun _ saved => ?_⟩
    cases saved

theorem Roster.Holds.updateAll {edit : Program → Program} (h : r.Holds P)
    (edits : ∀ program, P program → Q (edit program)) :
    (r.updateAll (Actor.edit edit)).Holds Q := by
  intro x mem
  obtain ⟨before, old, rfl⟩ := List.mem_map.mp mem
  exact (h before old).edit edits

theorem Roster.Holds.place (h : r.Holds P) (id : ActorId) (position : Position) :
    (r.place id position).2.Holds P :=
  Roster.forall_update h fun _ _ _ holds => ⟨holds.program, holds.saved⟩

/-- A trade hands out copies of programs that have the property. -/
theorem Roster.Holds.exchange (h : r.Holds P)
    (closed : ∀ program, P program → P program.reversed) (a b : ActorId) :
    (r.exchange a b).2.Holds P := by
  rw [Roster.exchange]
  split
  · exact h
  · next x y pair =>
    obtain ⟨left, right⟩ : x.Holds P ∧ y.Holds P := by
      rw [Roster.pair?] at pair
      split at pair
      · cases pair
      · split at pair
        · next found found' =>
          cases pair
          exact ⟨h _ (Roster.mem_of_get? found), h _ (Roster.mem_of_get? found')⟩
        · cases pair
    refine Roster.forall_update (Roster.forall_update h ?_) ?_
    · intro z _ _ _
      refine ⟨closed _ right.program, fun program saved => ?_⟩
      cases saved
      exact left.program
    · intro z _ _ _
      refine ⟨closed _ left.program, fun program saved => ?_⟩
      cases saved
      exact right.program

/-- A return takes up a saved program, which has the property as well. -/
theorem Roster.Holds.restore (h : r.Holds P) (id : ActorId) : (r.restore id).2.Holds P := by
  rw [Roster.restore]
  split
  · exact h
  · next saved found =>
    obtain ⟨x, found, has⟩ := Option.bind_eq_some_iff.mp found
    have given := (h x (Roster.mem_of_get? found)).saved saved has
    refine Roster.forall_update h fun _ _ _ _ => ⟨given, fun _ none => ?_⟩
    cases none

theorem Roster.Holds.separate (h : r.Holds P) (a b : ActorId) : (r.separate a b).2.Holds P :=
  (h.restore a).restore b

/-! ## Stages -/

/-- The programs of all actors of a stage have a property. -/
def Stage.Holds (P : Program → Prop) (s : Stage) : Prop := s.roster.Holds P

theorem Stage.Holds.of_alike (h : s.Holds P) (alike : s.Alike t) : t.Holds P := by
  intro y mem
  obtain ⟨x, old, same⟩ := alike.exists_bare mem
  exact (h x old).of_bare same

theorem Stage.Holds.create (h : s.Holds P) (given : P s.registry.scripts) : s.create.2.Holds P :=
  Roster.Holds.spawnAt (r := { s.roster with spawner := _ }) h _ given

theorem Stage.Holds.edited {edit : Program → Program} (h : s.Holds P)
    (edits : ∀ program, P program → Q (edit program)) : (s.edited edit).Holds Q :=
  Roster.Holds.updateAll h edits

theorem Stage.Holds.settle (h : s.Holds P) (closed : ∀ program, P program → P program.reversed)
    (contact : Contact) : (s.settle contact).Holds P := by
  rw [Stage.settle]
  cases contact.edge with
  | rise => exact Roster.Holds.exchange h closed contact.mover contact.other
  | fall => exact Roster.Holds.separate h contact.mover contact.other

theorem Stage.Holds.settleAll (h : s.Holds P) (closed : ∀ program, P program → P program.reversed)
    (contacts : List Contact) : (s.settleAll contacts).Holds P := by
  induction contacts generalizing s with
  | nil => exact h
  | cons contact rest ih => exact ih (h.settle closed contact)

theorem Stage.Holds.moved (h : s.Holds P) (id : ActorId) (position : Position) :
    (s.moved id position).Holds P := Roster.Holds.place h id position

/-- **A placement keeps what reversal keeps.** -/
theorem Stage.Holds.place (h : s.Holds P) (closed : ∀ program, P program → P program.reversed)
    (id : ActorId) (position : Position) : (s.place id position).2.Holds P := by
  by_cases known : id ∈ s.roster.ids
  · rw [Stage.place_of_mem known]
    exact (h.moved id position).settleAll closed _
  · rw [Stage.place_of_not_mem known]
    exact h

theorem Stage.Holds.placedAt (h : s.Holds P) (closed : ∀ program, P program → P program.reversed)
    (placement : Option (ActorId × Position)) : (s.placedAt placement).Holds P := by
  cases placement with
  | none => exact h
  | some place => exact h.place closed place.1 place.2

end BlockStage
