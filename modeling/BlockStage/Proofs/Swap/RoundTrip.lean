import BlockStage.Proofs.Registry.Broadcast
import BlockStage.Proofs.Stage.Trace
import BlockStage.Proofs.Swap.Partners

/-!
# There and back again

Two actors come together, and later they part.  As long as no other contact names one of them in
between, each gets back the program that it held before, whatever it had saved then and whatever
else is going on: its saved program is not touched by a contact, and the edits reach it as they
reach the registry (`Stage.InStep.onlyEdits_after`).  So the program that comes back is the one
from before with the edits in between carried out on it (`round_trip_returns_programs`).
-/

namespace BlockStage

variable {s t u : Stage} {a b : ActorId} {c d : Contact} {operation : Operation}
  {edit edit' next : Program → Program}

/-! ## Actors that are only edited -/

/-- Both programs of an actor are edited from `s` to `t`, and nothing else happens to them. -/
def Stage.OnlyEdits (s t : Stage) (a : ActorId) (edit : Program → Program) : Prop :=
  ∀ x, s.actor? a = some x →
    ∃ y, t.actor? a = some y ∧ y.program = edit x.program ∧ y.saved = x.saved.map edit

theorem Stage.OnlyEdits.trans (first : s.OnlyEdits t a edit) (second : t.OnlyEdits u a next) :
    s.OnlyEdits u a fun program => next (edit program) := by
  intro x found
  obtain ⟨y, found', program, saved⟩ := first x found
  obtain ⟨z, found'', program', saved'⟩ := second y found'
  refine ⟨z, found'', program'.trans (congrArg next program), ?_⟩
  rw [saved', saved, Option.map_map]
  rfl

theorem Stage.OnlyEdits.of_actor? (same : t.actor? a = s.actor? a) :
    s.OnlyEdits t a fun program => program :=
  fun x found => ⟨x, same.trans found, rfl, Option.map_id'.symm⟩

theorem Stage.Alike.onlyEdits (h : s.Alike t) : s.OnlyEdits t a fun program => program := by
  intro x found
  obtain ⟨y, found', bare⟩ := h.symm.exists_get? found
  exact ⟨y, found', Actor.program_eq_of_bare bare,
    (Actor.saved_eq_of_bare bare).trans Option.map_id'.symm⟩

/-- Only the programs that the actors of `s` list can be told apart. -/
theorem Stage.OnlyEdits.congr (h : s.OnlyEdits t a edit) {ids : List ScriptId}
    (held : s.roster.Lists ids)
    (same : ∀ program, Program.ids program = ids → edit program = edit' program) :
    s.OnlyEdits t a edit' := by
  intro x found
  obtain ⟨y, found', program, saved⟩ := h x found
  have lists := held x (Roster.mem_of_get? found)
  refine ⟨y, found', program.trans (same _ lists.program), saved.trans ?_⟩
  exact Option.map_congr fun program holds => same program (lists.saved program holds)

theorem Stage.onlyEdits_create (s : Stage) : s.OnlyEdits s.create.2 a fun program => program := by
  intro x found
  have finds := Roster.get?_spawnAt { s.roster with spawner := s.roster.spawner.place.2 }
    s.roster.spawner.place.1 s.registry.scripts a
  exact ⟨x, finds.trans (Option.or_eq_some_iff.mpr (.inl found)), rfl, Option.map_id'.symm⟩

theorem Stage.onlyEdits_edited (s : Stage) (edit : Program → Program) :
    s.OnlyEdits (s.edited edit) a edit := by
  intro x found
  refine ⟨x.edit edit, ?_, rfl, rfl⟩
  exact (Roster.get?_updateAll (f := Actor.edit edit) (fun _ => rfl) a).trans
    (congrArg (Option.map (Actor.edit edit)) found)

theorem Stage.onlyEdits_moved (s : Stage) (id : ActorId) (position : Position) :
    s.OnlyEdits (s.moved id position) a fun program => program := by
  intro x found
  have finds := s.get?_moved id position a
  rw [show s.roster.get? a = some x from found, Option.map_some] at finds
  by_cases mover : a = id
  · exact ⟨_, finds.trans (if_pos mover), rfl, Option.map_id'.symm⟩
  · exact ⟨x, finds.trans (if_neg mover), rfl, Option.map_id'.symm⟩

theorem Stage.actor?_settleAll_of_not_names {contacts : List Contact}
    (unnamed : ∀ c ∈ contacts, ¬ c.Names a) : (s.settleAll contacts).actor? a = s.actor? a := by
  induction contacts generalizing s with
  | nil => rfl
  | cons c rest ih =>
      obtain ⟨here, later⟩ := List.forall_mem_cons.mp unnamed
      exact (ih later).trans (Stage.actor?_settle_of_not_names here)

theorem Stage.onlyEdits_place {id : ActorId} {position : Position}
    (unnamed : ∀ c ∈ s.contacts id position, ¬ c.Names a) :
    s.OnlyEdits (s.place id position).2 a fun program => program := by
  by_cases known : id ∈ s.roster.ids
  · rw [Stage.place_of_mem known]
    exact (s.onlyEdits_moved id position).trans
      (.of_actor? (Stage.actor?_settleAll_of_not_names unnamed))
  · rw [Stage.place_of_not_mem known]
    exact .of_actor? rfl

theorem Act.edit_of_isQuiet (quiet : operation.isQuiet = true) (scripts : List Script) :
    Act.edit scripts (.operate operation) = scripts := by
  cases operation with
  | create | submit | delete => cases quiet
  | place | face | select | nudge | perform | hush | note | take => rfl

theorem Program.append_eq_edit (program : Program) (script : Script) :
    program.append script = Act.edit program (.operate (.submit script)) := by
  rw [Program.append, Act.edit]
  simp only [Program.has_iff_mem_ids]

/-- **An operation only edits an actor that none of its contacts names.** -/
theorem Stage.InStep.onlyEdits (h : s.InStep)
    (unnamed : ∀ c ∈ operation.contacts s, ¬ c.Names a) :
    s.OnlyEdits (operation.apply s) a (Act.edit · (.operate operation)) := by
  cases operation.step s with
  | created alike => exact s.onlyEdits_create.trans alike.onlyEdits
  | submitted script alike =>
      by_cases known : s.registry.has script.id = true
      · rw [Stage.submit_of_known known] at alike
        refine alike.onlyEdits.congr h.held fun program lists => ?_
        rw [Act.edit, lists, if_pos (Registry.has_iff.mp known)]
      · refine Stage.OnlyEdits.congr ((s.onlyEdits_edited _).trans
          ((Stage.alike_submit known).trans alike).onlyEdits) h.held fun program _ => ?_
        exact program.append_eq_edit script
  | deleted id alike =>
      refine Stage.OnlyEdits.congr ((s.onlyEdits_edited _).trans
        ((s.alike_delete id).trans alike).onlyEdits) h.held fun program lists => ?_
      exact Program.drop_eq_eraseP (lists ▸ h.distinct) id
  | placed quiet alike =>
      have placed : s.OnlyEdits (s.placedAt (operation.placement? s)) a fun program => program := by
        rw [Operation.contacts] at unnamed
        cases placement : operation.placement? s with
        | none => exact .of_actor? rfl
        | some place =>
            rw [placement] at unnamed
            exact Stage.onlyEdits_place unnamed
      refine (placed.trans alike.onlyEdits).congr h.held fun program _ => ?_
      exact (Act.edit_of_isQuiet quiet program).symm

/-- A program with the edits of some operations carried out on it in order. -/
def Program.replay (operations : List Operation) (program : Program) : Program :=
  operations.foldl (fun program operation => Act.edit program (.operate operation)) program

theorem Stage.InStep.onlyEdits_after (h : s.InStep) {operations : List Operation}
    (unnamed : ∀ c ∈ s.trace operations, ¬ c.Names a) :
    s.OnlyEdits (s.after operations) a (Program.replay operations) := by
  induction operations generalizing s with
  | nil => exact .of_actor? rfl
  | cons operation rest ih =>
      obtain ⟨here, later⟩ := List.forall_mem_append.mp unnamed
      exact (h.onlyEdits here).trans (ih (h.apply operation) later)

/-! ## Contacts that stand alone -/

/-- Actors that come together save what they hold. -/
theorem Stage.saves_settle (rise : c.edge = .rise) (ne : c.mover ≠ c.other)
    (left : c.mover ∈ s.roster.ids) (right : c.other ∈ s.roster.ids) (names : c.Names a) {x : Actor}
    (found : s.actor? a = some x) :
    ∃ y, (s.settle c).actor? a = some y ∧ y.saved = some x.program := by
  rcases names with rfl | rfl
  · obtain ⟨y, other⟩ := Roster.exists_get?_of_mem_ids right
    have traded := Stage.actor?_settle_of_rise rise ne found other c.mover
    exact ⟨_, traded.trans (if_pos rfl), rfl⟩
  · obtain ⟨y, mover⟩ := Roster.exists_get?_of_mem_ids left
    have traded := Stage.actor?_settle_of_rise rise ne mover found c.other
    exact ⟨_, traded.trans ((if_neg ne.symm).trans (if_pos rfl)), rfl⟩

/-- Actors that part get back what they have saved. -/
theorem Stage.returns_settle (fall : c.edge = .fall) (names : c.Names a) {x : Actor}
    {program : Program} (found : s.actor? a = some x) (saved : x.saved = some program) :
    ∃ y, (s.settle c).actor? a = some y ∧ y.program = program ∧ y.saved = none := by
  have returned := Stage.actor?_settle_of_fall (s := s) fall a
  rw [if_pos (names.imp Eq.symm Eq.symm), found, Option.map_some,
    Actor.restored_of_saved saved] at returned
  exact ⟨_, returned, rfl, rfl⟩

/-- The one contact of an operation takes effect on the programs from before. -/
theorem Operation.exists_settle (single : operation.contacts s = [c]) :
    ∃ r, (r.settle c).Alike (operation.apply s) ∧ r.roster.ids = s.roster.ids ∧
      ∀ a, s.OnlyEdits r a fun program => program := by
  cases operation.step s with
  | created | submitted | deleted => cases single
  | placed quiet alike =>
      rw [Operation.contacts] at single
      cases placement : operation.placement? s with
      | none =>
          rw [placement] at single
          cases single
      | some place =>
          rcases place with ⟨id, position⟩
          rw [placement] at single alike
          replace single : s.contacts id position = [c] := single
          have known : id ∈ s.roster.ids := by
            by_contra unknown
            rw [Stage.contacts_of_not_mem unknown] at single
            cases single
          rw [Stage.placedAt, Stage.place_of_mem known, single] at alike
          exact ⟨_, alike, s.ids_moved id position, fun _ => s.onlyEdits_moved id position⟩

theorem Operation.saves (single : operation.contacts s = [c]) (rise : c.edge = .rise)
    (names : c.Names a) {x : Actor} (found : s.actor? a = some x) :
    ∃ y, (operation.apply s).actor? a = some y ∧ y.saved = some x.program := by
  have mem : c ∈ operation.contacts s := single ▸ List.mem_cons_self
  obtain ⟨ne, left, right⟩ := Operation.within_of_mem_contacts mem
  obtain ⟨r, alike, ids, kept⟩ := Operation.exists_settle single
  obtain ⟨x', found', program, -⟩ := kept a x found
  obtain ⟨y, traded, saved⟩ := Stage.saves_settle rise ne (ids.symm ▸ left) (ids.symm ▸ right)
    names found'
  obtain ⟨z, after, -, saved'⟩ := alike.onlyEdits y traded
  refine ⟨z, after, ?_⟩
  rw [saved', saved, program, Option.map_some]

theorem Operation.returns (single : operation.contacts s = [c]) (fall : c.edge = .fall)
    (names : c.Names a) {x : Actor} {program : Program} (found : s.actor? a = some x)
    (saved : x.saved = some program) :
    ∃ y, (operation.apply s).actor? a = some y ∧ y.program = program ∧ y.saved = none := by
  obtain ⟨r, alike, -, kept⟩ := Operation.exists_settle single
  obtain ⟨x', found', -, saved'⟩ := kept a x found
  rw [saved, Option.map_some] at saved'
  obtain ⟨y, returned, program', free⟩ := Stage.returns_settle fall names found' saved'
  obtain ⟨z, after, program'', free'⟩ := alike.onlyEdits y returned
  refine ⟨z, after, program''.trans program', ?_⟩
  rw [free', free, Option.map_none]

/-! ## Round trips -/

/-- The contacts of an operation that name one of two actors are one contact between them. -/
def Operation.OnlyContact (operation : Operation) (s : Stage) (a b : ActorId) (edge : Edge) :
    Prop :=
  ∃ c : Contact, (operation.contacts s).filter (fun c => c.Names a ∨ c.Names b) = [c] ∧
    c.pair = .of a b ∧ c.edge = edge

/-- Two actors come together by one operation and part by another, and no other contact from the
first operation to the last one names them. -/
structure Stage.RoundTrip (s : Stage) (meet : Operation) (interim : List Operation)
    (part : Operation) (a b : ActorId) : Prop where
  met : meet.OnlyContact s a b .rise
  undisturbed : ∀ c ∈ (meet.apply s).trace interim, ¬ c.Names a ∧ ¬ c.Names b
  parted : part.OnlyContact ((meet.apply s).after interim) a b .fall

/-- All contacts of an operation have the same mover. -/
theorem Operation.mover_eq_of_mem (left : c ∈ operation.contacts s)
    (right : d ∈ operation.contacts s) : c.mover = d.mover := by
  rw [Operation.contacts] at left right
  cases placement : operation.placement? s with
  | none =>
      rw [placement] at left
      cases left
  | some place =>
      rw [placement] at left right
      exact (Stage.within_of_mem_contacts left).1.trans (Stage.within_of_mem_contacts right).1.symm

/-- The mover of the one contact is the mover of all, so this is the only one at all. -/
theorem Operation.OnlyContact.exists_contacts {edge : Edge}
    (h : operation.OnlyContact s a b edge) :
    ∃ c, operation.contacts s = [c] ∧ c.Names a ∧ c.Names b ∧ c.edge = edge := by
  obtain ⟨c, only, pair, same⟩ := h
  obtain ⟨left, right⟩ := Contact.names_of_pair pair
  have mem : c ∈ operation.contacts s :=
    List.mem_of_mem_filter (only ▸ List.mem_cons_self : c ∈ (operation.contacts s).filter _)
  have mover : c.mover = a ∨ c.mover = b :=
    (ActorPair.of_eq_of_iff.mp pair).imp And.left And.left
  refine ⟨c, ?_, left, right, same⟩
  rw [← only, eq_comm, List.filter_eq_self]
  intro d among
  have named : d.Names a ∨ d.Names b := by
    rw [Operation.mover_eq_of_mem mem among] at mover
    exact mover.imp .inl .inl
  simpa using named

variable {meet part : Operation} {interim : List Operation}

/-- What an actor has saved at the first contact comes back at the last one, edited meanwhile. -/
theorem Stage.InStep.returns (h : s.InStep) (met : meet.contacts s = [c]) (rise : c.edge = .rise)
    (unnamed : ∀ e ∈ (meet.apply s).trace interim, ¬ e.Names a)
    (parted : part.contacts ((meet.apply s).after interim) = [d]) (fall : d.edge = .fall)
    (first : c.Names a) (last : d.Names a) {x : Actor} (found : s.actor? a = some x) :
    ∃ y, (part.apply ((meet.apply s).after interim)).actor? a = some y ∧
      y.program = Program.replay interim x.program ∧ y.saved = none := by
  obtain ⟨x', found', saved⟩ := Operation.saves met rise first found
  obtain ⟨x'', found'', -, saved'⟩ := (h.apply meet).onlyEdits_after unnamed x' found'
  rw [saved, Option.map_some] at saved'
  exact Operation.returns parted fall last found'' saved'

theorem Stage.InStep.registry_after (h : s.InStep) (operations : List Operation) :
    (s.after operations).registry.scripts = Program.replay operations s.registry.scripts := by
  induction operations generalizing s with
  | nil => rfl
  | cons operation rest ih =>
      have edited : (operation.apply s).registry.scripts = _ := h.registry_act (.operate operation)
      rw [Stage.after_cons, ih (h.apply operation), edited]
      rfl

/-- **A round trip returns the programs, edited meanwhile.**  Two actors of a reached stage,
swapped or not, come together; after any operations they part; and no other contact names one of
them.  Then each holds in the end what it held at first, with the edits in between carried out in
order, and has nothing saved.  These are the edits that the registry has got in between. -/
theorem round_trip_returns_programs (setup : StageSetup) (before interim : List Operation)
    (meet part : Operation) (a b : ActorId) (x y : Actor)
    (left : ((Stage.start setup).after before).actor? a = some x)
    (right : ((Stage.start setup).after before).actor? b = some y)
    (trip : ((Stage.start setup).after before).RoundTrip meet interim part a b) :
    (∃ x', ((Stage.start setup).after (before ++ meet :: interim ++ [part])).actor? a = some x' ∧
      x'.program = Program.replay interim x.program ∧ x'.saved = none) ∧
    (∃ y', ((Stage.start setup).after (before ++ meet :: interim ++ [part])).actor? b = some y' ∧
      y'.program = Program.replay interim y.program ∧ y'.saved = none) ∧
    ((Stage.start setup).after (before ++ meet :: interim)).registry.scripts =
      Program.replay interim ((Stage.start setup).after (before ++ [meet])).registry.scripts := by
  have inStep := (Stage.inStep_start setup).after before
  obtain ⟨c, met, names, names', rise⟩ := trip.met.exists_contacts
  obtain ⟨d, parted, last, last', fall⟩ := trip.parted.exists_contacts
  rw [Stage.after_concat, Stage.after_concat, Stage.after_append, Stage.after_cons]
  refine ⟨?_, ?_, (inStep.apply meet).registry_after interim⟩
  · exact inStep.returns met rise (fun e mem => (trip.undisturbed e mem).1) parted fall names last
      left
  · exact inStep.returns met rise (fun e mem => (trip.undisturbed e mem).2) parted fall names' last'
      right

/-- While the visit lasts, a script is added, and the move is taken out and put in again. -/
def meanwhile : List Operation :=
  [.submit (Block.turnLeft.instantiate ⟨"turn"⟩ .nil), .delete ⟨"move"⟩,
    .submit (Block.move.instantiate ⟨"move"⟩ .nil), .place ⟨1⟩ ⟨200, 400⟩]

/-- After such a visit the third actor lists the new script before the move. -/
theorem visitor_gets_program_back :
    ∃ x, ((Stage.start quietSetup).after (visit ++ meanwhile ++ [leave])).actor? ⟨3⟩ = some x ∧
      Program.ids x.program = [⟨"turn"⟩, ⟨"move"⟩] ∧ x.saved = none := by
  have checked :
      (((Stage.start quietSetup).after visit.dropLast).actor? ⟨3⟩).map
        (fun x => Program.ids (Program.replay meanwhile x.program)) =
          some [⟨"turn"⟩, ⟨"move"⟩] ∧
      (((Stage.start quietSetup).after visit.dropLast).actor? ⟨2⟩).isSome = true ∧
      ((Operation.place ⟨3⟩ ⟨300, 110⟩).contacts
        ((Stage.start quietSetup).after visit.dropLast)).filter
          (fun c => c.Names ⟨3⟩ ∨ c.Names ⟨2⟩) = [⟨⟨3⟩, ⟨2⟩, .rise⟩] ∧
      (∀ c ∈ ((Stage.start quietSetup).after visit).trace meanwhile,
        ¬ c.Names ⟨3⟩ ∧ ¬ c.Names ⟨2⟩) ∧
      (leave.contacts (((Stage.start quietSetup).after visit).after meanwhile)).filter
        (fun c => c.Names ⟨3⟩ ∨ c.Names ⟨2⟩) = [⟨⟨3⟩, ⟨2⟩, .fall⟩] := by
    decide +kernel
  obtain ⟨listed, present, met, undisturbed, parted⟩ := checked
  obtain ⟨x, left, ids⟩ := Option.map_eq_some_iff.mp listed
  obtain ⟨y, right⟩ := Option.isSome_iff_exists.mp present
  obtain ⟨⟨x', found, program, free⟩, -, -⟩ := round_trip_returns_programs quietSetup
    visit.dropLast meanwhile (.place ⟨3⟩ ⟨300, 110⟩) leave ⟨3⟩ ⟨2⟩ x y left right
    ⟨⟨_, met, rfl, rfl⟩, undisturbed, ⟨_, parted, rfl, rfl⟩⟩
  exact ⟨x', found, program ▸ ids, free⟩

end BlockStage
