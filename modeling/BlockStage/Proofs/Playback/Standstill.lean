import BlockStage.Proofs.Plane.Headings
import BlockStage.Proofs.Playback.Bounds
import BlockStage.Proofs.Playback.Stepwise
import BlockStage.Proofs.Stage.Performances

/-!
# Moves by no steps

A move whose steps are missing or unreadable goes zero steps in the direction of its actor.  While
the actor has a direction that changes no number, and as the actor is on the stage, neither does the
clamping (`Actor.agrees_ahead_zero`).  Turns add up, though, and a heading that has grown past the
largest double has no direction: zero times that is not a number, and is clamped to the corner of
the stage (`Actor.ahead_zero_of_not_isFinite`).  So such a move displaces nobody exactly if its
actor has a finite heading or is in that corner already (`bare_moves_displace_nobody_iff`).
-/

namespace BlockStage

variable {x y : Float} {p q : Position} {s t : Stage} {id : ActorId} {script : Script}

/-! ## Places that agree -/

/-- Whether two places have equal coordinates; a zero is equal to any other, whatever its sign. -/
def Position.Agrees (p q : Position) : Prop := (p.x == q.x) = true ∧ (p.y == q.y) = true

instance : Decidable (p.Agrees q) := inferInstanceAs (Decidable (_ ∧ _))

/-- The corner of the stage that has no coordinates but zero. -/
def Position.corner : Position := ⟨0, 0⟩

theorem Position.agrees_refl (onStage : p.OnStage) : p.Agrees p :=
  ⟨Binary64.beq_iff_rank.mpr ⟨⟨onStage.x.number, onStage.x.number⟩, rfl⟩,
    Binary64.beq_iff_rank.mpr ⟨⟨onStage.y.number, onStage.y.number⟩, rfl⟩⟩

theorem Position.Agrees.symm (agree : p.Agrees q) : q.Agrees p := by
  have swap {x y : Float} (same : (x == y) = true) : (y == x) = true := by
    obtain ⟨numbers, rank⟩ := Binary64.beq_iff_rank.mp same
    exact Binary64.beq_iff_rank.mpr ⟨numbers.symm, rank.symm⟩
  exact ⟨swap agree.1, swap agree.2⟩

/-- A coordinate that is equal to one on the stage is on the stage. -/
theorem WithinExtent.of_rank (h : WithinExtent x) (number : y.isNaN = false)
    (same : Binary64.rank y.toModel.unpack = Binary64.rank x.toModel.unpack) : WithinExtent y where
  number := number
  nonneg := by
    have nonneg := Binary64.le_iff_rank.mp h.nonneg
    rw [← same] at nonneg
    exact Binary64.le_iff_rank.mpr ⟨⟨nonneg.1.1, number⟩, nonneg.2⟩
  le_extent := by
    have within := Binary64.le_iff_rank.mp h.le_extent
    rw [← same] at within
    exact Binary64.le_iff_rank.mpr ⟨⟨number, within.1.2⟩, within.2⟩

/-! ## No step ahead -/

/-- No step in a direction leaves a coordinate equal, and the stage has room for it. -/
theorem clampCoordinate_add_zero_mul (h : WithinExtent x) (finite : y.isFinite = true) :
    (clampCoordinate (x + 0 * y) == x) = true := by
  obtain ⟨sign, zero⟩ := Binary64.zero_mul_of_isFinite finite
  obtain ⟨number, same⟩ := Binary64.rank_add_of_zero h.below.isFinite zero
  rw [clampCoordinate_of_withinExtent (h.of_rank number same)]
  exact Binary64.beq_iff_rank.mpr ⟨⟨number, h.number⟩, same⟩

/-- No step in no direction is no number. -/
theorem clampCoordinate_add_nan (x : Float) : clampCoordinate (x + 0 * (0 / 0)) = 0 := by
  rw [clampCoordinate, if_pos (Binary64.isNaN_add_right rfl x)]

/-- **No step in the direction of a finite heading leads to where the actor is.** -/
theorem Actor.agrees_ahead_zero {x : Actor} (onStage : x.position.OnStage)
    (finite : x.heading.isFinite = true) : (x.ahead 0).clamped.Agrees x.position := by
  obtain ⟨cosine, sine⟩ := Plane.isFinite_direction finite
  exact ⟨clampCoordinate_add_zero_mul onStage.x cosine, clampCoordinate_add_zero_mul onStage.y sine⟩

/-- **Without a finite heading it leads to the corner.** -/
theorem Actor.ahead_zero_of_not_isFinite {x : Actor} (infinite : x.heading.isFinite = false) :
    (x.ahead 0).clamped = .corner := by
  rw [Actor.ahead, Plane.direction_of_not_isFinite infinite]
  exact congrArg₂ Position.mk (clampCoordinate_add_nan _) (clampCoordinate_add_nan _)

theorem Actor.agrees_ahead_zero_iff {x : Actor} (onStage : x.position.OnStage) :
    (x.ahead 0).clamped.Agrees x.position ↔
      x.heading.isFinite = true ∨ x.position.Agrees .corner := by
  cases finite : x.heading.isFinite with
  | true => exact iff_of_true (x.agrees_ahead_zero onStage finite) (.inl rfl)
  | false =>
      rw [Actor.ahead_zero_of_not_isFinite finite]
      exact ⟨fun agree => .inr agree.symm, fun h => (h.resolve_left Bool.false_ne_true).symm⟩

/-! ## Stages on which everybody stays -/

/-- Whether the same actors stand in places that agree. -/
def Stage.StandsAs (s t : Stage) : Prop :=
  List.Forall₂ (fun before after => after.1 = before.1 ∧ after.2.Agrees before.2)
    s.roster.places t.roster.places

instance : Decidable (s.StandsAs t) := inferInstanceAs (Decidable (List.Forall₂ _ _ _))

/-- Only the first actor of an id has to be compared with what it has become. -/
theorem Roster.forall₂_updateFirst {α : Type} {R : α → α → Prop} {g : Actor → α}
    {f : Actor → Actor} {l : List Actor} (refl : ∀ x ∈ l, R (g x) (g x)) :
    List.Forall₂ R (l.map g) ((Roster.updateFirst id f l).map g) ↔
      ∀ x, l.find? (·.id = id) = some x → R (g x) (g (f x)) := by
  induction l with
  | nil => exact iff_of_true .nil nofun
  | cons x rest ih =>
      obtain ⟨here, later⟩ := List.forall_mem_cons.mp refl
      rw [Roster.updateFirst]
      split
      · next found =>
        have same : List.Forall₂ R (rest.map g) (rest.map g) :=
          List.forall₂_same.mpr (List.forall_mem_map.mpr later)
        rw [List.find?_cons_of_pos (by simpa using found), List.map_cons, List.map_cons,
          List.forall₂_cons, and_iff_left same]
        exact ⟨fun h _ same => Option.some.inj same ▸ h, fun h => h x rfl⟩
      · next other =>
        rw [List.find?_cons_of_neg (by simpa using other), List.map_cons, List.map_cons,
          List.forall₂_cons, and_iff_right here]
        exact ih later

theorem Roster.OnStage.agrees_refl {r : Roster} (onStage : r.OnStage) :
    ∀ x ∈ r.actors, x.id = x.id ∧ x.position.Agrees x.position :=
  fun x mem => ⟨rfl, Position.agrees_refl (onStage x mem)⟩

theorem Stage.standsAs_refl (onStage : s.roster.OnStage) : s.StandsAs s :=
  List.forall₂_same.mpr (List.forall_mem_map.mpr onStage.agrees_refl)

/-- A placement keeps everybody in place exactly if its actor stands there already. -/
theorem Stage.standsAs_place_iff (onStage : s.roster.OnStage) {x : Actor}
    (found : s.actor? id = some x) (position : Position) :
    s.StandsAs (s.place id position).2 ↔ position.clamped.Agrees x.position := by
  have first : s.roster.actors.find? (·.id = id) = some x := found
  have known := Roster.mem_ids_of_get? found
  rw [Stage.StandsAs, Stage.places_place known]
  refine (Roster.forall₂_updateFirst onStage.agrees_refl).trans ?_
  rw [first]
  exact ⟨fun h => (h x rfl).2, fun agree _ same => Option.some.inj same ▸ ⟨rfl, agree⟩⟩

theorem Stage.Alike.standsAs_iff {u : Stage} (alike : t.Alike u) :
    s.StandsAs u ↔ s.StandsAs t := by
  rw [Stage.StandsAs, alike.places, Stage.StandsAs]

/-! ## Bare moves -/

/-- A move without usable steps is a placement no step ahead. -/
theorem Stage.alike_bare_move (move : script.action = Block.move.tag)
    (bare : script.number? "steps" = none) {x : Actor} (found : s.actor? id = some x) :
    (s.place id (x.ahead 0)).2.Alike (s.perform id script).2 := by
  have steps : script.numberOrZero "steps" = 0 := by
    rw [Script.numberOrZero, bare]
    rfl
  rw [Stage.perform_move found move, steps]
  exact s.alike_travelTo id .move (x.ahead 0)

/-- **What a move without usable steps does to places**: it keeps all of them, unless its actor
has no finite heading and is not in the corner, and then it takes that there. -/
theorem bare_moves_displace_nobody_iff (p : Playback) (reached : p.Reached) (id : ActorId)
    (script : Script) (move : script.action = "move") (bare : script.number? "steps" = none) :
    (p.stage.StandsAs (p.stage.perform id script).2 ↔
      ∀ x, p.stage.actor? id = some x →
        x.heading.isFinite = true ∨ x.position.Agrees .corner) ∧
    ∀ x, p.stage.actor? id = some x → x.heading.isFinite = false →
      ((p.stage.perform id script).2.actor? id).map (·.position) = some .corner := by
  have onStage := reached.onStage
  cases found : p.stage.actor? id with
  | none =>
      have same : (p.stage.perform id script).2 = p.stage := by rw [Stage.perform, found]
      rw [same]
      refine ⟨iff_of_true (Stage.standsAs_refl onStage) fun x known => ?_, fun x known => ?_⟩
      all_goals exact absurd known (Option.some_ne_none x).symm
  | some x =>
      have alike := Stage.alike_bare_move move bare found
      constructor
      · rw [alike.standsAs_iff, Stage.standsAs_place_iff onStage found,
          Actor.agrees_ahead_zero_iff (onStage x (Roster.mem_of_get? found))]
        exact ⟨fun h _ same => Option.some.inj same ▸ h, fun h => h x rfl⟩
      · intro y same infinite
        obtain rfl := Option.some.inj same
        have known := Roster.mem_ids_of_get? found
        have stands := p.stage.position_place known (x.ahead 0)
        rw [Actor.ahead_zero_of_not_isFinite infinite] at stands
        exact (Roster.map_get?_congr alike.places id).trans stands

/-- The starter, turned right so many times by so many degrees. -/
def spun (times : Nat) (degrees : Float) : Playback :=
  (Playback.of .standard (.start ⟨0, true, 9⟩)).afterAll
    (.replicate times (.move (.operate (.perform ⟨1⟩
      (Block.turnRight.instantiate ⟨"turn"⟩ (.ofList [("degrees", .number degrees)]))))))

/-- A move whose steps are no number. -/
def bareMove : Script := ⟨⟨"move"⟩, .motion, "move", .ofList [("steps", .text "ten")]⟩

theorem bare_move_stands_after_turns : (spun 3 1e300).Reached ∧ bareMove.action = "move" ∧
    bareMove.number? "steps" = none ∧
    (spun 3 1e300).stage.StandsAs ((spun 3 1e300).stage.perform ⟨1⟩ bareMove).2 := by
  have reached : (spun 3 1e300).Reached := ⟨_, _, _, .start _, rfl⟩
  have bare : bareMove.number? "steps" = none := by decide +kernel
  have headed : ((spun 3 1e300).stage.actor? ⟨1⟩).map (·.heading.isFinite) = some true := by
    decide +kernel
  refine ⟨reached, rfl, bare, ?_⟩
  refine (bare_moves_displace_nobody_iff _ reached ⟨1⟩ bareMove rfl bare).1.mpr fun x found => ?_
  rw [found] at headed
  exact .inl (Option.some.inj headed)

/-- The largest double. -/
def largestDouble : Float := Float.ofBits 0x7FEFFFFFFFFFFFFF

/-- Two turns by the largest double go past it, and then a move without steps is not none. -/
theorem bare_move_takes_spun_actor_away : (spun 2 largestDouble).Reached ∧
    largestDouble.isFinite = true ∧ bareMove.action = "move" ∧ bareMove.number? "steps" = none ∧
    ¬ (spun 2 largestDouble).stage.StandsAs ((spun 2 largestDouble).stage.perform ⟨1⟩ bareMove).2 :=
  ⟨⟨_, _, _, .start _, rfl⟩, rfl, rfl, by decide +kernel, by decide +kernel⟩

end BlockStage
