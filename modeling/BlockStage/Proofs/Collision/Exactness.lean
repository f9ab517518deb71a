import BlockStage.Proofs.Binary64.Sign
import BlockStage.Proofs.Stage.Trace
import BlockStage.Proofs.Stage.WellFormed

/-!
# The table agrees with the stage

The table has a row for two actors once one of them was placed while both were there
(`Stage.Compared`).  A placement writes all rows of its actor, so a row that it does not write is
about two actors that have stayed where they were: every row tells how its actors stand now
(`CollisionTable.Accurate`), although only rows of the mover are ever written.  As the distance of
two places does not depend on their order (`Position.distance_comm`), it does not matter which of
the two actors was placed.  The flag of a pair changes by contacts only, and these rise and fall in
turn.
-/

namespace BlockStage

/-! ## Distances -/

theorem Plane.length_neg_left (x y : Float) : Plane.length (-x) y = Plane.length x y := by
  simp only [Plane.length, Binary64.isInf_neg, Binary64.isNaN_neg, Binary64.abs_neg]

theorem Plane.length_neg_right (x y : Float) : Plane.length x (-y) = Plane.length x y := by
  simp only [Plane.length, Binary64.isInf_neg, Binary64.isNaN_neg, Binary64.abs_neg]

theorem Position.distance_comm (p q : Position) : p.distance q = q.distance p := by
  have left : ∀ y, Plane.length (p.x - q.x) y = Plane.length (q.x - p.x) y := by
    intro y
    rcases Binary64.sub_eq_or_eq_neg_sub p.x q.x with same | negated
    · rw [same]
    · rw [negated, Plane.length_neg_left]
  have right : ∀ x, Plane.length x (p.y - q.y) = Plane.length x (q.y - p.y) := by
    intro x
    rcases Binary64.sub_eq_or_eq_neg_sub p.y q.y with same | negated
    · rw [same]
    · rw [negated, Plane.length_neg_right]
  rw [Position.distance, left, right, Position.distance]

theorem Position.collides_comm (p q : Position) : p.collides q = q.collides p := by
  rw [Position.collides, Position.distance_comm, Position.collides]

/-! ## Who stands where -/

/-- The actors with their places. -/
def Roster.places (r : Roster) : List (ActorId × Position) :=
  r.actors.map fun x => (x.id, x.position)

variable {r : Roster} {s t : Stage} {id a b : ActorId} {p : Position}

theorem Roster.mem_places : (a, p) ∈ r.places ↔ ∃ x ∈ r.actors, x.id = a ∧ x.position = p := by
  rw [Roster.places, List.mem_map]
  simp only [Prod.mk.injEq]

theorem Roster.mem_ids_of_mem_places (mem : (a, p) ∈ r.places) : a ∈ r.ids := by
  obtain ⟨x, present, named, -⟩ := Roster.mem_places.mp mem
  exact Roster.mem_ids.mpr ⟨x, present, named⟩

theorem Roster.places_updateAll (r : Roster) (edit : Program → Program) :
    (r.updateAll (Actor.edit edit)).places = r.places := List.map_map

/-- Whoever is not placed stays. -/
theorem Roster.mem_places_place (ne : a ≠ id) (position : Position) (mem : (a, p) ∈ r.places) :
    (a, p) ∈ (r.place id position).2.places := by
  obtain ⟨x, present, rfl, rfl⟩ := Roster.mem_places.mp mem
  exact Roster.mem_places.mpr ⟨x, Roster.mem_updateFirst_of_ne present ne, rfl, rfl⟩

theorem Stage.places_settleAll (s : Stage) (contacts : List Contact) :
    (s.settleAll contacts).roster.places = s.roster.places :=
  Stage.map_settleAll (fun _ _ _ => rfl) s contacts

theorem Stage.Alike.places (h : s.Alike t) : t.roster.places = s.roster.places := by
  have same := congrArg (List.map fun x : Actor => (x.id, x.position)) h.actors
  rw [List.map_map, List.map_map] at same
  exact same

theorem Stage.places_create (s : Stage) :
    s.create.2.roster.places =
      s.roster.places ++ [(s.roster.nextId, s.roster.spawner.place.1.clamped)] :=
  List.map_append

theorem Stage.places_submit (s : Stage) (script : Script) :
    (s.submit script).2.roster.places = s.roster.places := by
  by_cases known : s.registry.has script.id = true
  · rw [Stage.submit_of_known known]
  · rw [Stage.submit_of_fresh known]
    exact s.roster.places_updateAll _

theorem Stage.places_delete (s : Stage) (id : ScriptId) :
    (s.delete id).2.roster.places = s.roster.places :=
  (s.alike_delete id).places.trans (s.roster.places_updateAll _)

/-! ## Rows that are accurate -/

/-- No pair has two rows, and every row tells how two different actors stand. -/
structure CollisionTable.Accurate (t : CollisionTable) (places : List (ActorId × Position)) :
    Prop where
  distinct : t.keys.Nodup
  row : ∀ pair flag, t.flag? pair = some flag →
    ∃ a p b q, (a, p) ∈ places ∧ (b, q) ∈ places ∧ a ≠ b ∧ pair = .of a b ∧ flag = p.collides q

theorem CollisionTable.Accurate.mono {t : CollisionTable} {places more : List (ActorId × Position)}
    (h : t.Accurate places) (still : places ⊆ more) : t.Accurate more := by
  refine ⟨h.distinct, fun pair flag found => ?_⟩
  obtain ⟨a, p, b, q, left, right, rest⟩ := h.row pair flag found
  exact ⟨a, p, b, q, still left, still right, rest⟩

/-- A row can be read in either order of its actors. -/
theorem CollisionTable.Accurate.row_of {t : CollisionTable} {places : List (ActorId × Position)}
    (h : t.Accurate places) {flag : Bool} (found : t.flag? (.of a b) = some flag) :
    ∃ p q, (a, p) ∈ places ∧ (b, q) ∈ places ∧ flag = p.collides q := by
  obtain ⟨c, p, d, q, left, right, -, same, flagged⟩ := h.row _ _ found
  rcases ActorPair.of_eq_of_iff.mp same with ⟨rfl, rfl⟩ | ⟨rfl, rfl⟩
  · exact ⟨p, q, left, right, flagged⟩
  · exact ⟨q, p, right, left, flagged.trans (p.collides_comm q)⟩

/-- A placement writes every row that it could make wrong. -/
theorem CollisionTable.Accurate.detect {t : CollisionTable} (h : t.Accurate r.places)
    (known : id ∈ r.ids) (position : Position) :
    (t.detect (r.place id position).2 id).2.Accurate (r.place id position).2.places := by
  have ids : (r.place id position).2.ids = r.ids := Roster.ids_update fun _ => rfl
  refine ⟨CollisionTable.nodup_keys_detect h.distinct _ _, fun pair flag found => ?_⟩
  by_cases row : ∃ other ∈ (r.place id position).2.ids, other ≠ id ∧ pair = .of id other
  · obtain ⟨x, mover⟩ := Roster.exists_get?_of_mem_ids (ids.symm ▸ known)
    obtain ⟨o, present, apart, same, wrote⟩ :=
      CollisionTable.flag?_detect_of_mem (t := t) mover row
    refine ⟨id, x.position, o.id, o.position, ?_, ?_, apart.symm, same, ?_⟩
    · exact Roster.mem_places.mpr ⟨x, Roster.mem_of_get? mover, Roster.id_of_get? mover, rfl⟩
    · exact Roster.mem_places.mpr ⟨o, present, rfl, rfl⟩
    · rw [wrote] at found
      exact (Option.some.inj found).symm
  · rw [CollisionTable.flag?_detect_of_ne fun other mem ne same => row ⟨other, mem, ne, same⟩]
      at found
    obtain ⟨a, p, b, q, left, right, ne, same, flagged⟩ := h.row pair flag found
    -- neither of the two is the mover, or the row would have been written
    have first : a ≠ id := by
      rintro rfl
      exact row ⟨b, ids.symm ▸ Roster.mem_ids_of_mem_places right, ne.symm, same⟩
    have second : b ≠ id := by
      rintro rfl
      exact row ⟨a, ids.symm ▸ Roster.mem_ids_of_mem_places left, ne,
        same.trans (ActorPair.of_comm a b)⟩
    exact ⟨a, p, b, q, Roster.mem_places_place first position left,
      Roster.mem_places_place second position right, ne, same, flagged⟩

theorem Stage.accurate_place (h : s.collisions.Accurate s.roster.places) (id : ActorId)
    (position : Position) :
    (s.place id position).2.collisions.Accurate (s.place id position).2.roster.places := by
  by_cases known : id ∈ s.roster.ids
  · rw [Stage.place_of_mem known, Stage.collisions_settleAll, Stage.places_settleAll]
    exact h.detect known position
  · rw [Stage.place_of_not_mem known]
    exact h

/-- Whatever else an operation does, its placement alone takes actors from their places. -/
theorem Stage.Step.places_subset {operation : Operation} (step : s.Step t operation) :
    (s.placedAt (operation.placement? s)).roster.places ⊆ t.roster.places := by
  cases step with
  | created alike =>
      rw [alike.places, s.places_create]
      exact List.subset_append_left _ _
  | submitted script alike =>
      rw [alike.places, s.places_submit]
      exact List.Subset.refl _
  | deleted id alike =>
      rw [alike.places, s.places_delete]
      exact List.Subset.refl _
  | placed _ alike =>
      rw [alike.places]
      exact List.Subset.refl _

theorem Stage.Step.accurate {operation : Operation} (step : s.Step t operation)
    (h : s.collisions.Accurate s.roster.places) : t.collisions.Accurate t.roster.places := by
  rw [step.collisions]
  refine CollisionTable.Accurate.mono ?_ step.places_subset
  cases operation.placement? s with
  | none => exact h
  | some place => exact Stage.accurate_place h place.1 place.2

theorem Stage.accurate_after (h : s.collisions.Accurate s.roster.places)
    (operations : List Operation) :
    (s.after operations).collisions.Accurate (s.after operations).roster.places := by
  induction operations generalizing s with
  | nil => exact h
  | cons operation rest ih => exact ih ((operation.step s).accurate h)

theorem Stage.accurate_start (setup : StageSetup) :
    (Stage.start setup).collisions.Accurate (Stage.start setup).roster.places := by
  rw [Stage.collisions_start]
  exact ⟨List.nodup_nil, fun _ _ found => by cases found⟩

/-! ## Pairs that have a row -/

/-- A placement of one of two different actors while both are there. -/
def Stage.Compares (s : Stage) (placement : Option (ActorId × Position)) (a b : ActorId) : Prop :=
  a ≠ b ∧ a ∈ s.roster.ids ∧ b ∈ s.roster.ids ∧
    ∃ position, placement = some (a, position) ∨ placement = some (b, position)

/-- Some operations have placed one of two different actors while both were there. -/
def Stage.Compared (s : Stage) (operations : List Operation) (a b : ActorId) : Prop :=
  ∃ past operation, past ++ [operation] <+: operations ∧
    (s.after past).Compares (operation.placement? (s.after past)) a b

theorem Stage.not_compares_none : ¬ s.Compares none a b := by
  intro compares
  obtain ⟨-, -, -, _, placed | placed⟩ := compares <;> cases placed

/-- The pairs that a placement compares are those of its actor with the others. -/
theorem Stage.compares_some_iff {position : Position} :
    s.Compares (some (id, position)) a b ↔
      id ∈ s.roster.ids ∧
        ∃ other ∈ s.roster.ids, other ≠ id ∧ ActorPair.of a b = .of id other := by
  constructor
  · rintro ⟨ne, left, right, _, placed | placed⟩ <;> cases placed
    · exact ⟨left, b, right, ne.symm, rfl⟩
    · exact ⟨right, a, left, ne, ActorPair.of_comm _ _⟩
  · rintro ⟨known, other, present, ne, same⟩
    rcases ActorPair.of_eq_of_iff.mp same with ⟨rfl, rfl⟩ | ⟨rfl, rfl⟩
    · exact ⟨ne.symm, known, present, position, .inl rfl⟩
    · exact ⟨ne, present, known, position, .inr rfl⟩

theorem Stage.compared_concat_iff {operations : List Operation} {operation : Operation} :
    s.Compared (operations ++ [operation]) a b ↔
      s.Compared operations a b ∨
        (s.after operations).Compares (operation.placement? (s.after operations)) a b := by
  constructor
  · rintro ⟨past, last, initial, compares⟩
    rcases List.prefix_concat_iff.mp initial with same | earlier
    · obtain ⟨rfl, rfl⟩ : past = operations ∧ last = operation := by simpa using same
      exact .inr compares
    · exact .inl ⟨past, last, earlier, compares⟩
  · rintro (⟨past, last, initial, compares⟩ | compares)
    · exact ⟨past, last, initial.trans (List.prefix_append _ _), compares⟩
    · exact ⟨operations, operation, List.prefix_rfl, compares⟩

theorem Stage.isSome_flag?_place (s : Stage) (id : ActorId) (position : Position)
    (a b : ActorId) :
    ((s.place id position).2.collisions.flag? (.of a b)).isSome = true ↔
      (s.collisions.flag? (.of a b)).isSome = true ∨ s.Compares (some (id, position)) a b := by
  rw [Stage.compares_some_iff]
  by_cases known : id ∈ s.roster.ids
  · obtain ⟨x, found⟩ := Stage.exists_get?_moved known position
    rw [Stage.collisions_place known]
    show ((s.collisions.detect (s.moved id position).roster id).2.flag? _).isSome = true ↔ _
    by_cases row : ∃ other ∈ s.roster.ids, other ≠ id ∧ ActorPair.of a b = .of id other
    · obtain ⟨o, -, -, -, wrote⟩ := CollisionTable.flag?_detect_of_mem (t := s.collisions) found
        ((s.ids_moved id position).symm ▸ row)
      rw [wrote]
      exact iff_of_true rfl (.inr ⟨known, row⟩)
    · rw [CollisionTable.flag?_detect_of_ne, or_iff_left fun compares => row compares.2]
      rw [s.ids_moved id position]
      exact fun other mem ne same => row ⟨other, mem, ne, same⟩
  · rw [Stage.place_of_not_mem known, or_iff_left fun compares => known compares.1]

theorem Stage.Step.isSome_flag? {operation : Operation} (step : s.Step t operation)
    (a b : ActorId) :
    (t.collisions.flag? (.of a b)).isSome = true ↔
      (s.collisions.flag? (.of a b)).isSome = true ∨ s.Compares (operation.placement? s) a b := by
  rw [step.collisions]
  cases operation.placement? s with
  | none => exact (or_iff_left Stage.not_compares_none).symm
  | some place => exact s.isSome_flag?_place place.1 place.2 a b

/-- A pair has a row if and only if its actors were compared. -/
theorem Stage.isSome_flag?_iff_compared (setup : StageSetup) (history : List Operation)
    (a b : ActorId) :
    (((Stage.start setup).after history).collisions.flag? (.of a b)).isSome = true ↔
      (Stage.start setup).Compared history a b := by
  induction history using List.reverseRecOn with
  | nil =>
      rw [Stage.after_nil, Stage.collisions_start]
      refine iff_of_false Bool.false_ne_true fun compared => ?_
      obtain ⟨past, operation, initial, -⟩ := compared
      exact absurd (List.prefix_nil.mp initial) (by simp)
  | append_singleton before operation ih =>
      rw [Stage.after_concat, (operation.step _).isSome_flag?, ih, Stage.compared_concat_iff]

/-! ## The whole table -/

theorem Roster.mem_places_iff (nodup : r.ids.Nodup) {x : Actor} (mem : x ∈ r.actors) :
    (x.id, p) ∈ r.places ↔ x.position = p := by
  refine ⟨fun placed => ?_, fun stands => Roster.mem_places.mpr ⟨x, mem, rfl, stands⟩⟩
  obtain ⟨y, present, named, stands⟩ := Roster.mem_places.mp placed
  obtain rfl : y = x := List.inj_on_of_nodup_map nodup present mem named
  exact stands

/-- While no two actors share an id, actors with a row collide exactly if they are close. -/
theorem Stage.colliding_iff (accurate : s.collisions.Accurate s.roster.places)
    (nodup : s.roster.ids.Nodup) :
    s.colliding a b = true ↔ (s.collisions.flag? (.of a b)).isSome = true ∧
      ∃ x ∈ s.roster.actors, ∃ y ∈ s.roster.actors,
        x.id = a ∧ y.id = b ∧ x.position.collides y.position = true := by
  rw [Stage.colliding, CollisionTable.colliding_eq_true_iff]
  constructor
  · intro raised
    obtain ⟨p, q, left, right, close⟩ := accurate.row_of raised
    obtain ⟨x, mem, named, rfl⟩ := Roster.mem_places.mp left
    obtain ⟨y, mem', named', rfl⟩ := Roster.mem_places.mp right
    exact ⟨Option.isSome_of_eq_some raised, x, mem, y, mem', named, named', close.symm⟩
  · rintro ⟨row, x, mem, y, mem', rfl, rfl, close⟩
    obtain ⟨flag, found⟩ := Option.isSome_iff_exists.mp row
    obtain ⟨p, q, left, right, flagged⟩ := accurate.row_of found
    obtain rfl := (Roster.mem_places_iff nodup mem).mp left
    obtain rfl := (Roster.mem_places_iff nodup mem').mp right
    rw [found, flagged, close]

/-- **The collision table is exact.**  In every reached stage a pair has a row if and only if one
of its actors was placed while both were there; there is one row for a pair at most, it is about
two different actors of the stage, and it tells whether these are closer than the radius now.  So
two actors are colliding exactly if they were compared and are close; this counts actors up to
the number of ids, as a later one shares the id of an earlier one.  Through the whole history the
contacts of a pair are rise and fall in turn, beginning with a rise, and the last one is a rise
exactly if the flag is up. -/
theorem collision_table_is_exact (setup : StageSetup) (history : List Operation) :
    (∀ a b, (((Stage.start setup).after history).collisions.flag? (.of a b)).isSome = true ↔
      (Stage.start setup).Compared history a b) ∧
    ((Stage.start setup).after history).collisions.keys.Nodup ∧
    (∀ row ∈ ((Stage.start setup).after history).collisions.flags,
      ∃ x ∈ ((Stage.start setup).after history).roster.actors,
      ∃ y ∈ ((Stage.start setup).after history).roster.actors,
        x.id ≠ y.id ∧ row.1 = .of x.id y.id ∧
        row.2 = decide (x.position.distance y.position < collisionRadius)) ∧
    (((Stage.start setup).after history).roster.actors.length ≤ UInt32.size →
      ∀ a b, ((Stage.start setup).after history).colliding a b = true ↔
        (Stage.start setup).Compared history a b ∧
        ∃ x ∈ ((Stage.start setup).after history).roster.actors,
        ∃ y ∈ ((Stage.start setup).after history).roster.actors,
          x.id = a ∧ y.id = b ∧ x.position.distance y.position < collisionRadius) ∧
    ∀ pair,
      (Contact.edgesOf pair ((Stage.start setup).trace history)).IsChain (· ≠ ·) ∧
      (Contact.edgesOf pair ((Stage.start setup).trace history)).head? ≠ some .fall ∧
      ((Contact.edgesOf pair ((Stage.start setup).trace history)).getLast? = some .rise ↔
        ((Stage.start setup).after history).collisions.colliding pair = true) := by
  have accurate := Stage.accurate_after (Stage.accurate_start setup) history
  refine ⟨Stage.isSome_flag?_iff_compared setup history, accurate.distinct, fun row mem => ?_,
    fun few a b => ?_, fun pair => ?_⟩
  · have found := CollisionTable.flag?_of_mem accurate.distinct mem
    obtain ⟨a, p, b, q, left, right, ne, same, flagged⟩ := accurate.row _ _ found
    obtain ⟨x, mem, rfl, rfl⟩ := Roster.mem_places.mp left
    obtain ⟨y, mem', rfl, rfl⟩ := Roster.mem_places.mp right
    exact ⟨x, mem, y, mem', ne, same, flagged⟩
  · have nodup := ((Stage.wellFormed_start setup).after history).nodup few
    rw [Stage.colliding_iff accurate nodup, Stage.isSome_flag?_iff_compared]
    simp only [Position.collides, decide_eq_true_eq]
  · have leads := (Stage.start setup).leads_trace history pair
    rw [Stage.collisions_start] at leads
    exact ⟨leads.isChain, leads.head?_ne, leads.getLast?_eq_rise_iff⟩

/-- A second actor is placed beside the one of the beginning. -/
def encounter : List Operation := [.create, .place ⟨2⟩ ⟨110, 100⟩]

/-- The two are compared and close, so they collide. -/
theorem encounter_collides :
    ((Stage.start ⟨0, true, 0⟩).after encounter).colliding ⟨1⟩ ⟨2⟩ = true := by
  have checked :
      ((Stage.start ⟨0, true, 0⟩).after encounter).roster.actors.length ≤ UInt32.size ∧
      ⟨1⟩ ∈ ((Stage.start ⟨0, true, 0⟩).after [.create]).roster.ids ∧
      ⟨2⟩ ∈ ((Stage.start ⟨0, true, 0⟩).after [.create]).roster.ids ∧
      ∃ x ∈ ((Stage.start ⟨0, true, 0⟩).after encounter).roster.actors,
      ∃ y ∈ ((Stage.start ⟨0, true, 0⟩).after encounter).roster.actors,
        x.id = ⟨1⟩ ∧ y.id = ⟨2⟩ ∧ x.position.distance y.position < collisionRadius := by
    decide +kernel
  obtain ⟨few, first, second, close⟩ := checked
  have compared : (Stage.start ⟨0, true, 0⟩).Compared encounter ⟨1⟩ ⟨2⟩ :=
    ⟨[.create], .place ⟨2⟩ ⟨110, 100⟩, List.prefix_rfl, by decide, first, second, _, .inr rfl⟩
  obtain ⟨-, -, -, collides, -⟩ := collision_table_is_exact ⟨0, true, 0⟩ encounter
  exact (collides few ⟨1⟩ ⟨2⟩).mpr ⟨compared, close⟩

end BlockStage
