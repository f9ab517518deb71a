import BlockStage.Proofs.Stage.Trace
import BlockStage.Proofs.Swap.Partners

/-!
# Who is swapped

A rise saves the programs of both its actors, whatever they had saved before, and a fall leaves
both of them with nothing saved, whatever the other pairs are doing.  So whether an actor is
swapped is decided by the last contact that names it (`swapped_iff_last_contact_rises`).

A last contact that is a rise is also the last one of its pair, and then the flag of that pair is
up: a swapped actor always has a partner.  The converse fails, as a fall from one partner ends a
swap that another one has begun.
-/

namespace BlockStage

/-! ## The last contact of an actor -/

/-- The edge of the last contact that names an actor. -/
def Contact.lastEdge? (a : ActorId) (contacts : List Contact) : Option Edge :=
  (contacts.filter (·.Names a)).getLast?.map (·.edge)

/-- Whether an actor is swapped after some contacts: the last one that names it is a rise, or none
names it and it was swapped before. -/
def Contact.LeavesSwapped (a : ActorId) (contacts : List Contact) (before : Prop) : Prop :=
  Contact.lastEdge? a contacts = some .rise ∨ Contact.lastEdge? a contacts = none ∧ before

variable {s t : Stage} {a : ActorId} {c : Contact} {contacts later : List Contact}
  {before : Prop}

theorem Contact.lastEdge?_append :
    Contact.lastEdge? a (contacts ++ later) =
      (Contact.lastEdge? a later).or (Contact.lastEdge? a contacts) := by
  rw [Contact.lastEdge?, List.filter_append, List.getLast?_append, Option.map_or]
  rfl

theorem Contact.lastEdge?_singleton :
    Contact.lastEdge? a [c] = if c.Names a then some c.edge else none := by
  by_cases names : c.Names a <;> simp [Contact.lastEdge?, names]

@[simp] theorem Contact.leavesSwapped_nil : Contact.LeavesSwapped a [] before ↔ before := by
  simp [Contact.LeavesSwapped, Contact.lastEdge?]

theorem Contact.leavesSwapped_append :
    Contact.LeavesSwapped a (contacts ++ later) before ↔
      Contact.LeavesSwapped a later (Contact.LeavesSwapped a contacts before) := by
  rw [Contact.LeavesSwapped, Contact.LeavesSwapped, Contact.LeavesSwapped,
    Contact.lastEdge?_append]
  cases Contact.lastEdge? a later <;> simp

theorem Contact.leavesSwapped_singleton :
    Contact.LeavesSwapped a [c] before ↔
      c.Names a ∧ c.edge = .rise ∨ ¬ c.Names a ∧ before := by
  rw [Contact.LeavesSwapped, Contact.lastEdge?_singleton]
  by_cases names : c.Names a <;> simp [names]

/-! ## Swapped actors -/

/-- The actor of an id is swapped. -/
def Stage.Swapped (s : Stage) (a : ActorId) : Prop :=
  ∃ x, s.actor? a = some x ∧ x.isSwapped = true

theorem Stage.swapped_iff_of_actor? {x : Actor} (found : s.actor? a = some x) :
    s.Swapped a ↔ x.isSwapped = true := by
  rw [Stage.Swapped, found]
  simp

theorem Stage.swapped_congr
    (same : (t.actor? a).map Actor.isSwapped = (s.actor? a).map Actor.isSwapped) :
    t.Swapped a ↔ s.Swapped a := by
  rw [Stage.Swapped, Stage.Swapped, ← Option.map_eq_some_iff, same, Option.map_eq_some_iff]

/-- **A contact decides about both its actors, and about no other.** -/
theorem Stage.swapped_settle (ne : c.mover ≠ c.other) (left : c.mover ∈ s.roster.ids)
    (right : c.other ∈ s.roster.ids) :
    (s.settle c).Swapped a ↔ Contact.LeavesSwapped a [c] (s.Swapped a) := by
  rw [Contact.leavesSwapped_singleton]
  by_cases names : c.Names a
  · have decided : (s.settle c).Swapped a ↔ c.edge = .rise := by
      cases edge : c.edge with
      | rise =>
          obtain ⟨x, found⟩ := Roster.exists_get?_of_mem_ids left
          obtain ⟨y, found'⟩ := Roster.exists_get?_of_mem_ids right
          have after := Stage.actor?_settle_of_rise edge ne found found' a
          refine iff_of_true ?_ rfl
          rcases names with rfl | rfl
          · exact ⟨_, after.trans (if_pos rfl), rfl⟩
          · exact ⟨_, after.trans ((if_neg ne.symm).trans (if_pos rfl)), rfl⟩
      | fall =>
          refine iff_of_false (fun swapped => ?_) (by decide)
          obtain ⟨z, found, holds⟩ := swapped
          rw [Stage.actor?_settle_of_fall edge, if_pos (names.imp Eq.symm Eq.symm)] at found
          obtain ⟨x, -, rfl⟩ := Option.map_eq_some_iff.mp found
          rw [Actor.isSwapped, Actor.saved_restored] at holds
          cases holds
    simp [names, decided]
  · have kept := congrArg (Option.map Actor.isSwapped)
      (Stage.actor?_settle_of_not_names (s := s) names)
    simp [names, Stage.swapped_congr kept]

theorem Stage.swapped_settleAll
    (within : ∀ c ∈ contacts, c.mover ≠ c.other ∧ c.mover ∈ s.roster.ids ∧ c.other ∈ s.roster.ids) :
    (s.settleAll contacts).Swapped a ↔ Contact.LeavesSwapped a contacts (s.Swapped a) := by
  induction contacts generalizing s with
  | nil => exact Contact.leavesSwapped_nil.symm
  | cons c rest ih =>
      obtain ⟨⟨ne, left, right⟩, within⟩ := List.forall_mem_cons.mp within
      rw [Stage.settleAll_cons, ih (s.ids_settle c ▸ within), Stage.swapped_settle ne left right,
        ← Contact.leavesSwapped_append, List.singleton_append]

theorem Stage.Alike.swapped (h : s.Alike t) : t.Swapped a ↔ s.Swapped a := by
  have keeps : ∀ {s t : Stage}, s.Alike t → t.Swapped a → s.Swapped a := by
    rintro s t h ⟨y, found, swapped⟩
    obtain ⟨x, was, bare⟩ := h.exists_get? found
    rw [Actor.isSwapped, ← Actor.saved_eq_of_bare bare] at swapped
    exact ⟨x, was, swapped⟩
  exact ⟨keeps h, keeps h.symm⟩

theorem Stage.swapped_moved (s : Stage) (id : ActorId) (position : Position) :
    (s.moved id position).Swapped a ↔ s.Swapped a := by
  refine Stage.swapped_congr ?_
  show ((s.moved id position).roster.get? a).map _ = _
  rw [Stage.get?_moved]
  split
  · exact Option.map_map ..
  · rfl

theorem Stage.swapped_place (s : Stage) (id : ActorId) (position : Position) :
    (s.place id position).2.Swapped a ↔
      Contact.LeavesSwapped a (s.contacts id position) (s.Swapped a) := by
  by_cases known : id ∈ s.roster.ids
  · rw [Stage.place_of_mem known, Stage.swapped_settleAll, Stage.swapped_moved]
    intro c mem
    obtain ⟨mover, present, other, ne⟩ := Stage.within_of_mem_contacts mem
    rw [s.ids_moved, mover]
    exact ⟨ne.symm, present, other⟩
  · rw [Stage.place_of_not_mem known, Stage.contacts_of_not_mem known,
      Contact.leavesSwapped_nil]

/-- A new actor is not swapped. -/
theorem Stage.swapped_create (s : Stage) : s.create.2.Swapped a ↔ s.Swapped a := by
  have finds := Roster.get?_spawnAt { s.roster with spawner := s.roster.spawner.place.2 }
    s.roster.spawner.place.1 s.registry.scripts a
  constructor
  · rintro ⟨x, found, swapped⟩
    rcases Option.or_eq_some_iff.mp (finds.symm.trans found) with old | ⟨-, new⟩
    · exact ⟨x, old, swapped⟩
    · split at new
      · cases new
        cases swapped
      · cases new
  · rintro ⟨x, found, swapped⟩
    exact ⟨x, finds.trans (Option.or_eq_some_iff.mpr (.inl found)), swapped⟩

theorem Stage.swapped_edited (s : Stage) (edit : Program → Program) :
    (s.edited edit).Swapped a ↔ s.Swapped a := by
  refine Stage.swapped_congr ?_
  show ((s.roster.updateAll (Actor.edit edit)).get? a).map _ = _
  rw [Roster.get?_updateAll (f := Actor.edit edit) fun _ => rfl, Option.map_map]
  exact congrArg (Option.map · _) (funext fun _ => Option.isSome_map)

theorem Stage.swapped_submit (s : Stage) (script : Script) :
    (s.submit script).2.Swapped a ↔ s.Swapped a := by
  by_cases known : s.registry.has script.id = true
  · rw [Stage.submit_of_known known]
  · rw [(Stage.alike_submit known).swapped, Stage.swapped_edited]

/-- **An operation decides by its contacts who is swapped.** -/
theorem Stage.Step.swapped {operation : Operation} (step : s.Step t operation) :
    t.Swapped a ↔ Contact.LeavesSwapped a (operation.contacts s) (s.Swapped a) := by
  cases step with
  | created alike =>
      rw [alike.swapped, s.swapped_create]
      exact Contact.leavesSwapped_nil.symm
  | submitted script alike =>
      rw [alike.swapped, s.swapped_submit]
      exact Contact.leavesSwapped_nil.symm
  | deleted id alike =>
      rw [alike.swapped, (s.alike_delete id).swapped, s.swapped_edited]
      exact Contact.leavesSwapped_nil.symm
  | placed _ alike =>
      rw [alike.swapped, Operation.contacts]
      cases operation.placement? s with
      | none => exact Contact.leavesSwapped_nil.symm
      | some place => exact s.swapped_place place.1 place.2

theorem Stage.swapped_after (s : Stage) (operations : List Operation) :
    (s.after operations).Swapped a ↔
      Contact.LeavesSwapped a (s.trace operations) (s.Swapped a) := by
  induction operations generalizing s with
  | nil => exact Contact.leavesSwapped_nil.symm
  | cons operation rest ih =>
      rw [Stage.after_cons, ih, Stage.trace, Contact.leavesSwapped_append,
        (operation.step s).swapped]

theorem Stage.not_swapped_start (setup : StageSetup) : ¬ (Stage.start setup).Swapped a := by
  rintro ⟨x, found, swapped⟩
  have mem : x ∈ (Stage.start setup).roster.actors := Roster.mem_of_get? found
  rw [Stage.start] at mem
  split at mem
  · rw [List.mem_singleton.mp mem] at swapped
    cases swapped
  · cases mem

/-! ## Partners of swapped actors -/

theorem Contact.names_of_getLast? (last : (contacts.filter (·.Names a)).getLast? = some c) :
    c.Names a := by
  simpa using (List.mem_filter.mp (List.mem_of_getLast? last)).2

/-- The last contact of an actor is also the last one of its pair. -/
theorem Contact.getLast?_edgesOf_pair
    (last : (contacts.filter (·.Names a)).getLast? = some c) :
    (Contact.edgesOf c.pair contacts).getLast? = some c.edge := by
  obtain ⟨earlier, split⟩ := List.getLast?_eq_some_iff.mp last
  have among : contacts.filter (·.pair = c.pair) =
      (contacts.filter (·.Names a)).filter (·.pair = c.pair) := by
    rw [List.filter_filter]
    refine List.filter_congr fun d _ => ?_
    by_cases same : d.pair = c.pair
    · have names : d.Names a := by
        obtain ⟨mover, other⟩ := Contact.names_of_pair same
        rcases Contact.names_of_getLast? last with rfl | rfl
        · exact mover
        · exact other
      simp [same, names]
    · simp [same]
  rw [Contact.edgesOf, among, split, List.filter_append]
  simp

/-- A swapped actor collides with the other one of its last contact. -/
theorem Stage.engaged_of_lastEdge? {setup : StageSetup} {history : List Operation}
    (last : Contact.lastEdge? a ((Stage.start setup).trace history) = some .rise) :
    ((Stage.start setup).after history).Engaged a := by
  obtain ⟨c, final, rise⟩ := Option.map_eq_some_iff.mp last
  have leads := (Stage.start setup).leads_trace history c.pair
  rw [Stage.collisions_start] at leads
  have raised := leads.getLast?_eq_rise_iff.mp (rise ▸ Contact.getLast?_edgesOf_pair final)
  have partners : ((Stage.start setup).after history).Partners c.mover c.other :=
    ((Stage.wellFormed_start setup).after history).partners_iff.mpr raised
  rcases Contact.names_of_getLast? final with rfl | rfl
  · exact ⟨c.other, partners⟩
  · exact ⟨c.mover, partners.symm⟩

/-- **The last contact decides who is swapped.**  Whatever a history does, playback included, an
actor of the stage that it reaches has a saved program if and only if some contact has named it and
the last one was a rise.  So a swapped actor always collides with another one, and an actor that
collides with nobody has nothing saved. -/
theorem swapped_iff_last_contact_rises (setup : StageSetup) (history : List Operation)
    (a : ActorId) (x : Actor) (found : ((Stage.start setup).after history).actor? a = some x) :
    (x.isSwapped = true ↔
      Contact.lastEdge? a ((Stage.start setup).trace history) = some .rise) ∧
    (x.isSwapped = true → ∃ b, b ≠ a ∧ b ∈ ((Stage.start setup).after history).roster.ids ∧
      ((Stage.start setup).after history).colliding a b = true) ∧
    ((∀ b, ((Stage.start setup).after history).colliding a b = false) → x.saved = none) := by
  have decided : x.isSwapped = true ↔
      Contact.lastEdge? a ((Stage.start setup).trace history) = some .rise := by
    rw [← Stage.swapped_iff_of_actor? found, Stage.swapped_after, Contact.LeavesSwapped]
    exact or_iff_left fun before => Stage.not_swapped_start setup before.2
  have engaged : x.isSwapped = true → ((Stage.start setup).after history).Engaged a :=
    fun swapped => Stage.engaged_of_lastEdge? (decided.mp swapped)
  refine ⟨decided, fun swapped => ?_, fun alone => ?_⟩
  · obtain ⟨b, -, present, ne, collides⟩ := engaged swapped
    exact ⟨b, ne.symm, present, collides⟩
  · by_contra holds
    obtain ⟨b, -, -, -, collides⟩ := engaged (Option.isSome_iff_ne_none.mpr holds)
    rw [alone b] at collides
    cases collides

/-- After the visit the third actor is swapped, and the first one is not. -/
theorem visitor_is_swapped :
    (∃ x, ((Stage.start quietSetup).after visit).actor? ⟨3⟩ = some x ∧ x.isSwapped = true ∧
      ∃ b, b ≠ ⟨3⟩ ∧ ((Stage.start quietSetup).after visit).colliding ⟨3⟩ b = true) ∧
    ∃ x, ((Stage.start quietSetup).after visit).actor? ⟨1⟩ = some x ∧ ¬ x.isSwapped = true := by
  have checked :
      (((Stage.start quietSetup).after visit).actor? ⟨3⟩).isSome = true ∧
      (((Stage.start quietSetup).after visit).actor? ⟨1⟩).isSome = true ∧
      Contact.lastEdge? ⟨3⟩ ((Stage.start quietSetup).trace visit) = some .rise ∧
      Contact.lastEdge? ⟨1⟩ ((Stage.start quietSetup).trace visit) = none := by
    decide +kernel
  obtain ⟨third, first, rise, unmet⟩ := checked
  obtain ⟨x, found⟩ := Option.isSome_iff_exists.mp third
  obtain ⟨y, found'⟩ := Option.isSome_iff_exists.mp first
  obtain ⟨decided, partner, -⟩ := swapped_iff_last_contact_rises quietSetup visit ⟨3⟩ x found
  have unswapped := (swapped_iff_last_contact_rises quietSetup visit ⟨1⟩ y found').1
  obtain ⟨b, ne, -, collides⟩ := partner (decided.mpr rise)
  refine ⟨⟨x, found, decided.mpr rise, b, ne, collides⟩, y, found', ?_⟩
  rw [unswapped, unmet]
  exact nofun

end BlockStage
