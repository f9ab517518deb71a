import BlockStage.Proofs.Collision.Contacts
import BlockStage.Stage.Basic

/-!
# Placements taken apart

A placement first puts the actor on its place and brings all its flags up to date
(`Stage.moved`), and then lets the contacts found on the way (`Stage.contacts`) take effect one by
one.  The contacts only move programs about, so the flags after a placement are those that it
wrote at once, and a contact is a flag that differs before and after (`Stage.mem_contacts`).
-/

namespace BlockStage

variable {s : Stage} {id : ActorId} {position : Position}

/-- The stage once an actor stands on its new place and all flags are up to date. -/
def Stage.moved (s : Stage) (id : ActorId) (position : Position) : Stage :=
  let roster := (s.roster.place id position).2
  { s with roster, collisions := (s.collisions.detect roster id).2 }

/-- The contacts that a placement finds. -/
def Stage.contacts (s : Stage) (id : ActorId) (position : Position) : List Contact :=
  (s.collisions.detect (s.roster.place id position).2 id).1

/-- The stage once some contacts have taken effect. -/
def Stage.settleAll (s : Stage) (contacts : List Contact) : Stage := contacts.foldl Stage.settle s

@[simp] theorem Stage.settleAll_nil (s : Stage) : s.settleAll [] = s := rfl

@[simp] theorem Stage.settleAll_cons (s : Stage) (contact : Contact) (rest : List Contact) :
    s.settleAll (contact :: rest) = (s.settle contact).settleAll rest := rfl

theorem Stage.place_of_mem (known : id ∈ s.roster.ids) (position : Position) :
    (s.place id position).2 = (s.moved id position).settleAll (s.contacts id position) := by
  rw [Stage.place, Roster.place, Roster.has_iff_mem_ids.mpr known]
  rfl

theorem Stage.place_of_not_mem (unknown : id ∉ s.roster.ids) (position : Position) :
    s.place id position = (false, s) := by
  have absent : s.roster.has id = false := by
    rw [← Bool.not_eq_true, Roster.has_iff_mem_ids]
    exact unknown
  rw [Stage.place, Roster.place, absent]

/-- An actor of the stage has a program. -/
theorem Stage.exists_program?_of_mem (present : id ∈ s.roster.ids) :
    s.program? id = some ((s.program? id).getD []) := by
  obtain ⟨x, found⟩ := Roster.exists_get?_of_mem_ids present
  have here : s.actor? id = some x := found
  rw [Stage.program?, here]
  rfl

/-! ## What contacts leave alone -/

/-- The scripts, the places that are left for new actors, and the selection. -/
def Stage.backdrop (s : Stage) : Registry × Spawner × Option ActorId :=
  (s.registry, s.roster.spawner, s.selected)

theorem Stage.backdrop_settle (s : Stage) (contact : Contact) :
    (s.settle contact).backdrop = s.backdrop := by
  have spawner : (s.settle contact).roster.spawner = s.roster.spawner := by
    rw [Stage.settle]
    cases contact.edge with
    | rise => exact s.roster.spawner_exchange _ _
    | fall => exact (Roster.spawner_restore _ _).trans (s.roster.spawner_restore _)
  rw [Stage.backdrop, spawner]
  rfl

theorem Stage.backdrop_settleAll (s : Stage) (contacts : List Contact) :
    (s.settleAll contacts).backdrop = s.backdrop := by
  induction contacts generalizing s with
  | nil => rfl
  | cons contact rest ih => exact (ih (s.settle contact)).trans (s.backdrop_settle contact)

theorem Stage.registry_settleAll (s : Stage) (contacts : List Contact) :
    (s.settleAll contacts).registry = s.registry :=
  congrArg Prod.fst (s.backdrop_settleAll contacts)

theorem Stage.collisions_settleAll (s : Stage) (contacts : List Contact) :
    (s.settleAll contacts).collisions = s.collisions := by
  induction contacts generalizing s with
  | nil => rfl
  | cons contact rest ih => exact ih (s.settle contact)

/-- A contact changes nothing about actors but their programs. -/
theorem Stage.map_settle {α : Type} {g : Actor → α}
    (kept : ∀ (x : Actor) program saved, g { x with program, saved } = g x) (s : Stage)
    (contact : Contact) : (s.settle contact).roster.actors.map g = s.roster.actors.map g := by
  rw [Stage.settle]
  cases contact.edge with
  | rise => exact Roster.map_exchange kept s.roster _ _
  | fall => exact Roster.map_separate kept s.roster _ _

theorem Stage.map_settleAll {α : Type} {g : Actor → α}
    (kept : ∀ (x : Actor) program saved, g { x with program, saved } = g x) (s : Stage)
    (contacts : List Contact) :
    (s.settleAll contacts).roster.actors.map g = s.roster.actors.map g := by
  induction contacts generalizing s with
  | nil => rfl
  | cons contact rest ih => exact (ih (s.settle contact)).trans (Stage.map_settle kept s contact)

theorem Stage.ids_settle (s : Stage) (contact : Contact) :
    (s.settle contact).roster.ids = s.roster.ids := Stage.map_settle (fun _ _ _ => rfl) s contact

theorem Stage.ids_settleAll (s : Stage) (contacts : List Contact) :
    (s.settleAll contacts).roster.ids = s.roster.ids :=
  Stage.map_settleAll (fun _ _ _ => rfl) s contacts

/-! ## What a placement does -/

theorem Stage.ids_moved (s : Stage) (id : ActorId) (position : Position) :
    (s.moved id position).roster.ids = s.roster.ids := Roster.ids_update fun _ => rfl

theorem Stage.get?_moved (s : Stage) (id : ActorId) (position : Position) (other : ActorId) :
    (s.moved id position).roster.get? other =
      if other = id then
        (s.roster.get? other).map fun x => { x with position := position.clamped }
      else s.roster.get? other := by
  show (s.roster.update id fun x => { x with position := position.clamped }).get? other = _
  rw [Roster.get?_update]
  exact fun _ => rfl

/-- A placement changes nothing about actors but places and programs. -/
theorem Stage.map_place {α : Type} {g : Actor → α}
    (kept : ∀ (x : Actor) program saved, g { x with program, saved } = g x)
    (kept' : ∀ (x : Actor) position, g { x with position } = g x) (s : Stage) (id : ActorId)
    (position : Position) :
    (s.place id position).2.roster.actors.map g = s.roster.actors.map g := by
  by_cases known : id ∈ s.roster.ids
  · rw [Stage.place_of_mem known, Stage.map_settleAll kept]
    exact Roster.map_updateFirst (fun x => kept' x _) s.roster.actors
  · rw [Stage.place_of_not_mem known]

theorem Stage.ids_place (s : Stage) (id : ActorId) (position : Position) :
    (s.place id position).2.roster.ids = s.roster.ids :=
  Stage.map_place (fun _ _ _ => rfl) (fun _ _ => rfl) s id position

theorem Stage.backdrop_place (s : Stage) (id : ActorId) (position : Position) :
    (s.place id position).2.backdrop = s.backdrop := by
  by_cases known : id ∈ s.roster.ids
  · rw [Stage.place_of_mem known, Stage.backdrop_settleAll]
    rfl
  · rw [Stage.place_of_not_mem known]

theorem Stage.registry_place (s : Stage) (id : ActorId) (position : Position) :
    (s.place id position).2.registry = s.registry :=
  congrArg Prod.fst (s.backdrop_place id position)

theorem Stage.collisions_place (known : id ∈ s.roster.ids) (position : Position) :
    (s.place id position).2.collisions = (s.moved id position).collisions := by
  rw [Stage.place_of_mem known, Stage.collisions_settleAll]

theorem Stage.exists_get?_moved (known : id ∈ s.roster.ids) (position : Position) :
    ∃ x, (s.moved id position).roster.get? id = some x := by
  rw [← s.ids_moved id position] at known
  exact Roster.exists_get?_of_mem_ids known

/-- Flags change only between the mover and another actor of the stage. -/
theorem Stage.colliding_place_of_ne (known : id ∈ s.roster.ids) {pair : ActorPair}
    (apart : ∀ other ∈ s.roster.ids, other ≠ id → pair ≠ .of id other) :
    (s.place id position).2.collisions.colliding pair = s.collisions.colliding pair := by
  rw [← s.ids_moved id position] at apart
  rw [Stage.collisions_place known]
  exact CollisionTable.colliding_detect_of_ne apart

/-- **The contacts of a placement are the flags of its actor that it changes.** -/
theorem Stage.mem_contacts (nodup : s.roster.ids.Nodup) (known : id ∈ s.roster.ids)
    {c : Contact} :
    c ∈ s.contacts id position ↔ c.mover = id ∧ c.other ∈ s.roster.ids ∧ c.other ≠ id ∧
      Edge.between? (s.colliding id c.other) ((s.place id position).2.colliding id c.other) =
        some c.edge := by
  obtain ⟨x, found⟩ := Stage.exists_get?_moved known position
  have moved := CollisionTable.mem_detect (t := s.collisions) (c := c)
    ((s.ids_moved id position).symm ▸ nodup) found
  rw [Stage.ids_moved] at moved
  rw [Stage.colliding, Stage.colliding, Stage.collisions_place known]
  exact moved

/-- The contacts of a placement stand in the order of the roster. -/
theorem Stage.map_other_contacts (s : Stage) (id : ActorId) (position : Position) :
    ((s.contacts id position).map (·.other)).Sublist s.roster.ids := by
  rw [← s.ids_moved id position]
  exact CollisionTable.map_other_detect _ _ _

end BlockStage
