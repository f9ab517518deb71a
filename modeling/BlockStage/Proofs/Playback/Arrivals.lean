import BlockStage.Proofs.Playback.Reachable
import BlockStage.Proofs.Stage.Spawning

/-!
# Where the actors of a run appear

Of all that happens to a playback only creations add actors or draw places for them
(`Playback.Happening.kept`), be there loops, contacts and edits in between.  So the places at which
the actors of a run appear are the first of the sequence that its stage began with
(`Playback.arrivals_eq`).
-/

namespace BlockStage

/-- Where actors appear does not depend on whether there is one at the beginning. -/
theorem Stage.spawner_start (setup : StageSetup) :
    (Stage.start setup).roster.spawner = .ofSeed setup.seed := by
  rw [Stage.start]
  split <;> rfl

theorem Operation.InTurn.ne_create {operation : Operation} (inTurn : operation.InTurn) :
    operation ≠ .create := by
  rintro rfl
  exact inTurn

theorem Operation.Poses.ne_create {operation : Operation} (poses : operation.Poses) :
    operation ≠ .create := by
  rintro rfl
  exact poses

namespace Playback

/-- Whether an actor is created. -/
def Happening.creates : Happening → Bool
  | .move (.operate .create) => true
  | _ => false

/-- The places of the actors that a happening adds. -/
def Happening.arrivals (happening : Happening) (p : Playback) : List Position :=
  ((happening.apply p).stage.roster.actors.drop p.stage.roster.actors.length).map (·.position)

/-- The places of all actors that are added in a run, each as it stands when it is added. -/
def arrivals (p : Playback) : List Happening → List Position
  | [] => []
  | happening :: rest => happening.arrivals p ++ (happening.apply p).arrivals rest

/-- **Without a creation nobody comes, and no place is drawn.** -/
theorem Happening.kept {happening : Happening} (other : happening.creates = false)
    (p : Playback) :
    (happening.apply p).stage.roster.spawner = p.stage.roster.spawner ∧
      (happening.apply p).stage.roster.ids = p.stage.roster.ids := by
  let P (s : Stage) : Prop :=
    s.roster.spawner = p.stage.roster.spawner ∧ s.roster.ids = p.stage.roster.ids
  have start : P p.stage := ⟨rfl, rfl⟩
  have operate (o : Operation) (o_other : o ≠ .create) (s : Stage) (h : P s) : P (o.apply s) :=
    ⟨(Operation.spawner_apply o_other s).trans h.1, (Operation.ids_apply o_other s).trans h.2⟩
  have record (s : Stage) (event : Event) (h : P s) : P (s.record event) := h
  cases happening with
  | move move =>
      refine move.kept (P := P) (fun o inTurn => operate o inTurn.ne_create) record start ?_
      rintro o rfl
      refine operate o ?_ _ start
      rintro rfl
      cases other
  | preview actor script =>
      exact Stage.kept_nudgeActor (P := P) (fun o poses => operate o poses.ne_create) record start
        actor script

theorem Happening.arrivals_of_creates {happening : Happening} (creates : happening.creates = true)
    (p : Playback) : happening.arrivals p = [p.stage.roster.spawner.nth 0] ∧
      (happening.apply p).stage.roster.spawner = p.stage.roster.spawner.place.2 := by
  have created : happening = .move (.operate .create) := by
    rw [Happening.creates.eq_def] at creates
    split at creates
    · rfl
    · cases creates
  subst created
  refine ⟨?_, rfl⟩
  have actors : (p.stage.create.2).roster.actors = p.stage.roster.actors ++
      [.fresh p.stage.roster.nextId (p.stage.roster.spawner.nth 0) p.stage.registry.scripts] := rfl
  show (p.stage.create.2.roster.actors.drop _).map _ = _
  rw [actors, List.drop_left, List.map_singleton]
  exact congrArg (fun place => [place]) (p.stage.roster.spawner.clamped_nth 0)

theorem Happening.arrivals_of_not_creates {happening : Happening}
    (other : happening.creates = false) (p : Playback) : happening.arrivals p = [] := by
  have ids := congrArg List.length (happening.kept other p).2
  rw [Roster.length_ids, Roster.length_ids] at ids
  rw [Happening.arrivals, ← ids, List.drop_length]
  rfl

/-- **The actors of a run appear at the first places there are.** -/
theorem arrivals_eq (run : List Happening) (p : Playback) :
    p.arrivals run =
      (List.range (run.countP Happening.creates)).map p.stage.roster.spawner.nth := by
  induction run generalizing p with
  | nil => rfl
  | cons happening rest ih =>
      rw [arrivals, ih]
      cases creates : happening.creates with
      | true =>
          obtain ⟨first, later⟩ := happening.arrivals_of_creates creates p
          rw [first, later, List.countP_cons_of_pos creates, List.range_succ_eq_map, List.map_cons,
            List.map_map]
          rfl
      | false =>
          rw [happening.arrivals_of_not_creates creates, (happening.kept creates p).1,
            List.countP_cons_of_neg (Bool.eq_false_iff.mp creates), List.nil_append]

end Playback

end BlockStage
