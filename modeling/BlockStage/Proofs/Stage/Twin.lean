import BlockStage.Proofs.Registry.Edits
import BlockStage.Proofs.Stage.Placement

/-!
# Two stages side by side

What an actor does depends on its place and heading, and comes to a journey, a turn, a remark or
nothing.  So a relation between two stages that these respect is respected by performances and
previews (`Stage.Beside`).

`Stage.Twin` says that two stages differ in their logs at most.  No operation reads the log, so
twins stay twins whatever is done to both of them (`Stage.Twin.after`).
-/

namespace BlockStage

/-! ## Performances -/

/-- All that a performance looks at in an actor. -/
def Actor.pose (x : Actor) : ActorId × Position × Float := (x.id, x.position, x.heading)

/-- The stages show the same poses, and are related whatever one actor does on both. -/
structure Stage.Beside (R : Stage → Stage → Prop) (s t : Stage) : Prop where
  poses : ∀ id, (t.actor? id).map Actor.pose = (s.actor? id).map Actor.pose
  idle : R s t
  travels : ∀ id travel position, R (s.travelTo id travel position) (t.travelTo id travel position)
  turns : ∀ id heading, R (s.turnTo id heading) (t.turnTo id heading)
  speaks : ∀ id style message, R (s.speak id style message) (t.speak id style message)

namespace Stage.Beside

variable {R : Stage → Stage → Prop} {s t : Stage}

/-- An actor stands on both stages in the same pose, or on neither. -/
theorem actors (beside : Beside R s t) (id : ActorId) :
    s.actor? id = none ∧ t.actor? id = none ∨
      ∃ x y, s.actor? id = some x ∧ t.actor? id = some y ∧
        y.id = x.id ∧ y.position = x.position ∧ y.heading = x.heading := by
  have poses := beside.poses id
  cases here : s.actor? id with
  | none =>
      rw [here] at poses
      exact .inl ⟨rfl, Option.map_eq_none_iff.mp poses⟩
  | some x =>
      rw [here] at poses
      obtain ⟨y, there, pose⟩ := Option.map_eq_some_iff.mp poses
      simp only [Actor.pose, Prod.mk.injEq] at pose
      exact .inr ⟨x, y, rfl, there, pose⟩

theorem advance (beside : Beside R s t) {x y : Actor} (id : y.id = x.id)
    (position : y.position = x.position) (heading : y.heading = x.heading) (travel : Travel)
    (steps : Float) : R (s.advance x travel steps) (t.advance y travel steps) := by
  rw [Stage.advance, Stage.advance, id, position, heading]
  exact beside.travels _ _ _

theorem perform (beside : Beside R s t) (id : ActorId) (script : Script) :
    R (s.perform id script).2 (t.perform id script).2 := by
  rw [Stage.perform, Stage.perform]
  rcases beside.actors id with ⟨here, there⟩ | ⟨x, y, here, there, same, position, heading⟩
  · rw [here, there]
    exact beside.idle
  · rw [here, there]
    cases script.block? with
    | none => exact beside.idle
    | some block =>
        cases block with
        | move => exact beside.advance same position heading _ _
        | goTo => exact beside.travels id _ _
        | turnLeft | turnRight =>
            show R (s.turnTo id _) (t.turnTo id _)
            rw [heading]
            exact beside.turns id _
        | say | think => exact beside.speaks id _ _
        | repetition => exact beside.idle

theorem nudge (beside : Beside R s t) (selected : t.selected = s.selected) (script : Script) :
    R (s.nudge script).2 (t.nudge script).2 := by
  rw [Stage.nudge, Stage.nudge, selected]
  cases s.selected with
  | none => exact beside.idle
  | some id =>
      show R (s.nudgeActor id script).2 (t.nudgeActor id script).2
      rw [Stage.nudgeActor, Stage.nudgeActor]
      split
      · rcases beside.actors id with ⟨here, there⟩ | ⟨x, y, here, there, same, position, heading⟩
        · rw [here, there]
          exact beside.idle
        · rw [here, there]
          cases script.block? with
          | none => exact beside.idle
          | some block =>
              cases block with
              | move => exact beside.advance same position heading _ _
              | turnLeft | turnRight =>
                  show R (s.turnTo id _) (t.turnTo id _)
                  rw [heading]
                  exact beside.turns id _
              | goTo | say | think | repetition => exact beside.idle
      · exact beside.idle

end Stage.Beside

/-! ## Apart from the log -/

/-- The stages differ in their logs at most. -/
def Stage.Twin (s t : Stage) : Prop := ∃ log, t = { s with log }

namespace Stage.Twin

variable {s t u : Stage}

theorem refl (s : Stage) : s.Twin s := ⟨s.log, rfl⟩

theorem trans (first : s.Twin t) (second : t.Twin u) : s.Twin u := by
  obtain ⟨log, rfl⟩ := second
  obtain ⟨_, rfl⟩ := first
  exact ⟨log, rfl⟩

theorem record (twin : s.Twin t) (event : Event) : s.Twin (t.record event) := by
  obtain ⟨_, rfl⟩ := twin
  exact ⟨_, rfl⟩

theorem settleAll (twin : s.Twin t) (contacts : List Contact) :
    (s.settleAll contacts).Twin (t.settleAll contacts) := by
  induction contacts generalizing s t with
  | nil => exact twin
  | cons contact rest ih =>
      obtain ⟨_, rfl⟩ := twin
      exact ih ⟨_, rfl⟩

theorem place (twin : s.Twin t) (id : ActorId) (position : Position) :
    (s.place id position).2.Twin (t.place id position).2 := by
  obtain ⟨log, rfl⟩ := twin
  by_cases known : id ∈ s.roster.ids
  · rw [place_of_mem known, place_of_mem (s := { s with log }) known]
    exact settleAll ⟨log, rfl⟩ _
  · rw [place_of_not_mem known, place_of_not_mem (s := { s with log }) known]
    exact ⟨log, rfl⟩

theorem travelTo (twin : s.Twin t) (id : ActorId) (travel : Travel) (position : Position) :
    (s.travelTo id travel position).Twin (t.travelTo id travel position) := by
  obtain ⟨log, placed⟩ := twin.place id position
  rw [Stage.travelTo, Stage.travelTo, placed, recordPosition, recordPosition]
  have same : ({ (s.place id position).2 with log } : Stage).actor? id =
      (s.place id position).2.actor? id := rfl
  rw [same]
  cases (s.place id position).2.actor? id with
  | none => exact ⟨log, rfl⟩
  | some x => exact ⟨_, rfl⟩

theorem beside (twin : s.Twin t) : Stage.Beside Stage.Twin s t where
  poses id := by
    obtain ⟨_, rfl⟩ := twin
    rfl
  idle := twin
  travels id travel position := twin.travelTo id travel position
  turns id heading := by
    obtain ⟨_, rfl⟩ := twin
    exact ⟨_, rfl⟩
  speaks id style message := by
    obtain ⟨_, rfl⟩ := twin
    exact ⟨_, rfl⟩

theorem selected (twin : s.Twin t) : t.selected = s.selected := by
  obtain ⟨_, rfl⟩ := twin
  rfl

theorem select (twin : s.Twin t) (id : ActorId) :
    (Operation.apply (.select id) s).Twin (Operation.apply (.select id) t) := by
  obtain ⟨log, rfl⟩ := twin
  rw [Operation.apply, Operation.apply, Stage.select, Stage.select]
  by_cases known : s.roster.has id = true
  · rw [if_pos known, if_pos known]
    exact ⟨_, rfl⟩
  · rw [if_neg known, if_neg known]
    exact ⟨log, rfl⟩

theorem submit (twin : s.Twin t) (script : Script) :
    (s.submit script).2.Twin (t.submit script).2 := by
  obtain ⟨log, rfl⟩ := twin
  by_cases known : s.registry.has script.id = true
  · rw [submit_of_known known, submit_of_known (s := { s with log }) known]
    exact ⟨log, rfl⟩
  · rw [submit_of_fresh known, submit_of_fresh (s := { s with log }) known]
    exact ⟨_, rfl⟩

theorem delete (twin : s.Twin t) (id : ScriptId) : (s.delete id).2.Twin (t.delete id).2 := by
  obtain ⟨log, rfl⟩ := twin
  rw [Stage.delete, Stage.delete, Registry.remove]
  cases s.registry.has id <;> exact ⟨_, rfl⟩

/-- **No operation reads the log.** -/
theorem apply (twin : s.Twin t) (operation : Operation) :
    (operation.apply s).Twin (operation.apply t) := by
  cases operation with
  | place actor position => exact twin.place actor position
  | select actor => exact twin.select actor
  | submit script => exact twin.submit script
  | delete id => exact twin.delete id
  | perform actor script => exact twin.beside.perform actor script
  | nudge script => exact twin.beside.nudge twin.selected script
  | create | face | hush | note | take =>
      obtain ⟨_, rfl⟩ := twin
      exact ⟨_, rfl⟩

theorem after (twin : s.Twin t) (operations : List Operation) :
    (s.after operations).Twin (t.after operations) := by
  induction operations generalizing s t with
  | nil => exact twin
  | cons operation rest ih => exact ih (twin.apply operation)

end Stage.Twin

end BlockStage
