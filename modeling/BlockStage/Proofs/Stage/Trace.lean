import BlockStage.Proofs.Collision.Rows
import BlockStage.Proofs.Registry.Edits
import BlockStage.Proofs.Stage.Placement

/-!
# The contacts of a history

An operation places one actor at most (`Operation.placement?`), and the contacts that it brings
about are those of this placement (`Operation.contacts`).  A history brings about the contacts of
its operations one after another (`Stage.trace`).  Every contact is between two different actors
of the stage, and the contacts of a pair lead its flag through the history (`Stage.leads_trace`).
Turns and passes are made of operations (`Stage.exists_operations_afterActs`), so what is said of
histories of operations is said of playback as well.
-/

namespace BlockStage

variable {s t : Stage} {id : ActorId} {position : Position}

/-! ## Contacts -/

/-- An actor is one of the two that a contact is about. -/
def Contact.Names (c : Contact) (a : ActorId) : Prop := c.mover = a ∨ c.other = a

instance (c : Contact) (a : ActorId) : Decidable (c.Names a) :=
  inferInstanceAs (Decidable (_ ∨ _))

theorem Contact.names_of_pair {c : Contact} {a b : ActorId} (pair : c.pair = .of a b) :
    c.Names a ∧ c.Names b := by
  rcases ActorPair.of_eq_of_iff.mp pair with ⟨mover, other⟩ | ⟨mover, other⟩
  · exact ⟨.inl mover, .inr other⟩
  · exact ⟨.inr other, .inl mover⟩

/-- A rise trades the programs of its two actors. -/
theorem Stage.actor?_settle_of_rise {c : Contact} (rise : c.edge = .rise) (ne : c.mover ≠ c.other)
    {x y : Actor} (left : s.actor? c.mover = some x) (right : s.actor? c.other = some y)
    (a : ActorId) :
    (s.settle c).actor? a =
      if a = c.mover then some (x.traded y.program)
      else if a = c.other then some (y.traded x.program)
      else s.actor? a := by
  rw [Stage.settle, rise]
  exact Roster.get?_exchange ne left right a

/-- A fall gives its two actors their programs back. -/
theorem Stage.actor?_settle_of_fall {c : Contact} (fall : c.edge = .fall) (a : ActorId) :
    (s.settle c).actor? a =
      if a = c.mover ∨ a = c.other then (s.actor? a).map Actor.restored else s.actor? a := by
  rw [Stage.settle, fall]
  exact Roster.get?_separate a

/-- A contact is nothing to an actor that it does not name. -/
theorem Stage.actor?_settle_of_not_names {c : Contact} {a : ActorId} (unnamed : ¬ c.Names a) :
    (s.settle c).actor? a = s.actor? a := by
  obtain ⟨first, second⟩ := not_or.mp unnamed
  cases edge : c.edge with
  | rise =>
      rw [Stage.settle, edge]
      exact Roster.get?_exchange_of_ne (Ne.symm first) (Ne.symm second)
  | fall =>
      rw [Stage.actor?_settle_of_fall edge, if_neg]
      rintro (rfl | rfl)
      · exact first rfl
      · exact second rfl

/-- The contacts of a placement, if there is one. -/
def Stage.contactsOf (s : Stage) : Option (ActorId × Position) → List Contact
  | some (id, position) => s.contacts id position
  | none => []

/-- The contacts that an operation brings about, in the order in which they take effect. -/
def Operation.contacts (operation : Operation) (s : Stage) : List Contact :=
  s.contactsOf (operation.placement? s)

/-- The contacts that some operations bring about one after another. -/
def Stage.trace (s : Stage) : List Operation → List Contact
  | [] => []
  | operation :: rest => operation.contacts s ++ (operation.apply s).trace rest

theorem Stage.within_of_mem_contacts {c : Contact} (mem : c ∈ s.contacts id position) :
    c.mover = id ∧ id ∈ s.roster.ids ∧ c.other ∈ s.roster.ids ∧ c.other ≠ id := by
  have within := CollisionTable.within_of_mem_detect mem
  rwa [show (s.roster.place id position).2.ids = s.roster.ids from s.ids_moved id position]
    at within

/-- A contact is between two different actors of the stage. -/
theorem Operation.within_of_mem_contacts {operation : Operation} {c : Contact}
    (mem : c ∈ operation.contacts s) :
    c.mover ≠ c.other ∧ c.mover ∈ s.roster.ids ∧ c.other ∈ s.roster.ids := by
  rw [Operation.contacts] at mem
  cases placement : operation.placement? s with
  | none =>
      rw [placement] at mem
      cases mem
  | some placed =>
      rcases placed with ⟨id, position⟩
      rw [placement] at mem
      obtain ⟨rfl, known, other, ne⟩ := Stage.within_of_mem_contacts mem
      exact ⟨ne.symm, known, other⟩

/-! ## Flags along a history -/

theorem Stage.collisions_start (setup : StageSetup) :
    (Stage.start setup).collisions = .empty := by
  rw [Stage.start]
  split <;> rfl

/-- An id without an actor is placed nowhere. -/
theorem Stage.contacts_of_not_mem (unknown : id ∉ s.roster.ids) (position : Position) :
    s.contacts id position = [] :=
  List.eq_nil_iff_forall_not_mem.mpr fun _ mem =>
    unknown (Stage.within_of_mem_contacts mem).2.1

/-- The contacts of a placement lead every flag from what it was to what it is. -/
theorem Stage.leads_place (s : Stage) (id : ActorId) (position : Position) (pair : ActorPair) :
    Edge.Leads (s.collisions.colliding pair) (Contact.edgesOf pair (s.contacts id position))
      ((s.place id position).2.collisions.colliding pair) := by
  by_cases known : id ∈ s.roster.ids
  · rw [Stage.collisions_place known]
    exact s.collisions.leads_detect _ id pair
  · rw [Stage.contacts_of_not_mem known, Stage.place_of_not_mem known]
    exact .still

/-- Whatever else an operation does, its placement alone changes flags. -/
theorem Stage.Step.collisions {operation : Operation} (step : s.Step t operation) :
    t.collisions = (s.placedAt (operation.placement? s)).collisions := by
  cases step with
  | created alike => exact alike.collisions
  | submitted script alike => exact alike.collisions.trans (s.collisions_submit script)
  | deleted id alike => exact alike.collisions.trans (s.collisions_delete id)
  | placed _ alike => exact alike.collisions

theorem Stage.Step.leads {operation : Operation} (step : s.Step t operation) (pair : ActorPair) :
    Edge.Leads (s.collisions.colliding pair) (Contact.edgesOf pair (operation.contacts s))
      (t.collisions.colliding pair) := by
  rw [step.collisions, Operation.contacts]
  cases operation.placement? s with
  | none => exact .still
  | some place => exact s.leads_place place.1 place.2 pair

/-- **Along a history the flag of a pair follows its contacts**, which rise and fall in turn. -/
theorem Stage.leads_trace (s : Stage) (operations : List Operation) (pair : ActorPair) :
    Edge.Leads (s.collisions.colliding pair) (Contact.edgesOf pair (s.trace operations))
      ((s.after operations).collisions.colliding pair) := by
  induction operations generalizing s with
  | nil => exact .still
  | cons operation rest ih =>
      rw [Stage.trace, Contact.edgesOf_append, Stage.after_cons]
      exact ((operation.step s).leads pair).append (ih _)

end BlockStage
