import BlockStage.Swap
import Mathlib.Data.List.Nodup

/-!
# The roster seen through its look-ups

A roster is changed at one id at a time, so what an operation does to it is best said by what
is found under each id afterwards: `Roster.get?_update` for a single change,
`Roster.get?_exchange` for a trade, `Roster.get?_separate` for the two returns of a parting.
Statements about every actor, also about those that no id finds, go through
`Roster.forall_update`.
-/

namespace BlockStage

/-- Where keys are distinct, every entry is found under its key. -/
theorem find?_of_nodup_map {α β : Type} [DecidableEq β] {key : α → β} {l : List α}
    (nodup : (l.map key).Nodup) {x : α} (mem : x ∈ l) : l.find? (key · = key x) = some x := by
  cases found : l.find? (key · = key x) with
  | none =>
      have absent := List.find?_eq_none.mp found x mem
      simp at absent
  | some y =>
      have same : key y = key x := by simpa using List.find?_some found
      rw [List.inj_on_of_nodup_map nodup (List.mem_of_find?_eq_some found) mem same]

variable {r : Roster} {id other a b : ActorId} {f : Actor → Actor}

/-! ## Changing the first actor of an id -/

/-- What a change does not touch is the same along the whole list. -/
theorem Roster.map_updateFirst {α : Type} {g : Actor → α} (kept : ∀ x, g (f x) = g x)
    (l : List Actor) : (Roster.updateFirst id f l).map g = l.map g := by
  induction l with
  | nil => rfl
  | cons x rest ih =>
      rw [Roster.updateFirst]
      split
      · rw [List.map_cons, List.map_cons, kept]
      · rw [List.map_cons, List.map_cons, ih]

theorem Roster.updateFirst_of_fixed {l : List Actor} (fixed : ∀ x ∈ l, x.id = id → f x = x) :
    Roster.updateFirst id f l = l := by
  induction l with
  | nil => rfl
  | cons x rest ih =>
      obtain ⟨here, later⟩ := List.forall_mem_cons.mp fixed
      rw [Roster.updateFirst]
      split
      · next found => rw [here found]
      · rw [ih later]

/-- A change that is no change of the actors of its id changes nothing. -/
theorem Roster.update_of_fixed (fixed : ∀ x ∈ r.actors, x.id = id → f x = x) :
    r.update id f = r := by
  rw [Roster.update, Roster.updateFirst_of_fixed fixed]

/-- A change finds nobody under an id that no actor has. -/
theorem Roster.update_of_not_mem (absent : id ∉ r.ids) : r.update id f = r :=
  Roster.update_of_fixed fun _ mem found => absurd (found ▸ List.mem_map_of_mem mem) absent

theorem Roster.mem_updateFirst {x : Actor} {l : List Actor}
    (mem : x ∈ Roster.updateFirst id f l) : x ∈ l ∨ ∃ y ∈ l, y.id = id ∧ x = f y := by
  induction l with
  | nil => cases mem
  | cons y rest ih =>
      rw [Roster.updateFirst] at mem
      split at mem
      · next found =>
        rcases List.mem_cons.mp mem with rfl | later
        · exact .inr ⟨y, List.mem_cons_self, found, rfl⟩
        · exact .inl (List.mem_cons_of_mem _ later)
      · rcases List.mem_cons.mp mem with rfl | later
        · exact .inl List.mem_cons_self
        · rcases ih later with kept | ⟨z, inRest, found, rfl⟩
          · exact .inl (List.mem_cons_of_mem _ kept)
          · exact .inr ⟨z, List.mem_cons_of_mem _ inRest, found, rfl⟩

/-- Whoever has another id stays as it is. -/
theorem Roster.mem_updateFirst_of_ne {x : Actor} {l : List Actor} (mem : x ∈ l) (ne : x.id ≠ id) :
    x ∈ Roster.updateFirst id f l := by
  induction l with
  | nil => cases mem
  | cons y rest ih =>
      rw [Roster.updateFirst]
      split
      · next found =>
        rcases List.mem_cons.mp mem with rfl | later
        · exact absurd found ne
        · exact List.mem_cons_of_mem _ later
      · rcases List.mem_cons.mp mem with rfl | later
        · exact List.mem_cons_self
        · exact List.mem_cons_of_mem _ (ih later)

theorem Roster.find?_updateFirst (kept : ∀ x, (f x).id = x.id) (l : List Actor) :
    (Roster.updateFirst id f l).find? (·.id = other) =
      if other = id then (l.find? (·.id = other)).map f else l.find? (·.id = other) := by
  induction l with
  | nil => simp [Roster.updateFirst]
  | cons x rest ih =>
      rw [Roster.updateFirst]
      by_cases found : x.id = id
      · rw [if_pos found]
        by_cases same : other = id
        · simp [kept, found, same]
        · have apart : ¬ x.id = other := fun h => same (h.symm.trans found)
          simp [kept, apart, same]
      · rw [if_neg found]
        by_cases hit : x.id = other
        · have apart : ¬ other = id := fun h => found (hit.trans h)
          simp [hit, apart]
        · simpa [hit] using ih

/-! ## Look-ups -/

theorem Roster.mem_of_get? {x : Actor} (found : r.get? id = some x) : x ∈ r.actors :=
  List.mem_of_find?_eq_some found

theorem Roster.id_of_get? {x : Actor} (found : r.get? id = some x) : x.id = id := by
  simpa using List.find?_some found

theorem Roster.mem_ids : id ∈ r.ids ↔ ∃ x ∈ r.actors, x.id = id := List.mem_map

theorem Roster.mem_ids_of_get? {x : Actor} (found : r.get? id = some x) : id ∈ r.ids :=
  Roster.mem_ids.mpr ⟨x, Roster.mem_of_get? found, Roster.id_of_get? found⟩

theorem Roster.exists_get?_of_mem_ids (mem : id ∈ r.ids) : ∃ x, r.get? id = some x := by
  obtain ⟨x, present, rfl⟩ := Roster.mem_ids.mp mem
  cases found : r.get? x.id with
  | some y => exact ⟨y, rfl⟩
  | none =>
      have absent := List.find?_eq_none.mp found x present
      simp at absent

/-- An id finds its actor when no two actors share one. -/
theorem Roster.get?_of_mem (nodup : r.ids.Nodup) {x : Actor} (mem : x ∈ r.actors) :
    r.get? x.id = some x := find?_of_nodup_map nodup mem

/-- What is the same along two rosters, with the ids, is found the same under each id. -/
theorem Roster.map_get?_congr {α : Type} {g : Actor → α} {r' : Roster}
    (same : (r'.actors.map fun x => (x.id, g x)) = r.actors.map fun x => (x.id, g x))
    (id : ActorId) : (r'.get? id).map g = (r.get? id).map g := by
  have finds (r : Roster) :
      (r.get? id).map g =
        ((r.actors.map fun x => (x.id, g x)).find? (·.1 = id)).map (·.2) := by
    rw [List.find?_map, Option.map_map]
    rfl
  rw [finds, finds, same]

theorem Roster.has_iff_mem_ids : r.has id = true ↔ id ∈ r.ids := by
  rw [Roster.has, Option.isSome_iff_exists]
  exact ⟨fun ⟨_, found⟩ => Roster.mem_ids_of_get? found, Roster.exists_get?_of_mem_ids⟩

/-- A new actor is found under its id, unless an earlier one has it. -/
theorem Roster.get?_spawnAt (r : Roster) (position : Position) (program : Program)
    (other : ActorId) :
    (r.spawnAt position program).2.get? other =
      (r.get? other).or
        (if other = r.nextId then some (.fresh r.nextId position program) else none) := by
  have finds : (r.spawnAt position program).2.get? other =
      (r.get? other).or ([Actor.fresh r.nextId position program].find? (·.id = other)) :=
    List.find?_append
  rw [finds, List.find?_singleton]
  by_cases same : other = r.nextId
  · simp [Actor.fresh, same]
  · simp [Actor.fresh, same, Ne.symm same]

/-! ## One change -/

@[simp] theorem Roster.ids_update (kept : ∀ x, (f x).id = x.id) : (r.update id f).ids = r.ids :=
  Roster.map_updateFirst kept r.actors

theorem Roster.get?_update (kept : ∀ x, (f x).id = x.id) (other : ActorId) :
    (r.update id f).get? other = if other = id then (r.get? other).map f else r.get? other :=
  Roster.find?_updateFirst kept r.actors

/-- A property of all actors survives a change that keeps it at the actor it meets. -/
theorem Roster.forall_update {P : Actor → Prop} (all : ∀ x ∈ r.actors, P x)
    (kept : ∀ x ∈ r.actors, x.id = id → P x → P (f x)) : ∀ x ∈ (r.update id f).actors, P x := by
  intro x mem
  rcases Roster.mem_updateFirst mem with old | ⟨y, old, found, rfl⟩
  · exact all x old
  · exact kept y old found (all y old)

@[simp] theorem Roster.ids_updateAll (kept : ∀ x, (f x).id = x.id) :
    (r.updateAll f).ids = r.ids := by
  simp [Roster.ids, Roster.updateAll, Function.comp_def, kept]

theorem Roster.get?_updateAll (kept : ∀ x, (f x).id = x.id) (other : ActorId) :
    (r.updateAll f).get? other = (r.get? other).map f := by
  rw [Roster.get?, Roster.updateAll, List.find?_map]
  simp only [Function.comp_def, kept]
  rfl

/-! ## Trades -/

/-- An actor that has just traded its program for `other`. -/
def Actor.traded (other : Program) (x : Actor) : Actor :=
  { x with program := other.reversed, saved := some x.program }

theorem Roster.exchange_of_get? (ne : a ≠ b) {x y : Actor} (left : r.get? a = some x)
    (right : r.get? b = some y) :
    (r.exchange a b).2 =
      (r.update a fun z => { z with program := y.program.reversed, saved := some x.program }).update
        b fun z => { z with program := x.program.reversed, saved := some y.program } := by
  rw [Roster.exchange, Roster.pair?, if_neg ne, left, right]

/-- What is found under each id after a trade of two different actors. -/
theorem Roster.get?_exchange (ne : a ≠ b) {x y : Actor} (left : r.get? a = some x)
    (right : r.get? b = some y) (other : ActorId) :
    (r.exchange a b).2.get? other =
      if other = a then some (x.traded y.program)
      else if other = b then some (y.traded x.program)
      else r.get? other := by
  rw [Roster.exchange_of_get? ne left right, Roster.get?_update, Roster.get?_update]
  · by_cases first : other = a
    · subst first
      rw [if_neg ne, if_pos rfl, if_pos rfl, left]
      rfl
    · by_cases second : other = b
      · subst second
        rw [if_pos rfl, if_neg first, if_neg first, if_pos rfl, right]
        rfl
      · rw [if_neg second, if_neg first, if_neg first, if_neg second]
  all_goals exact fun _ => rfl

/-- A trade is nothing to a third actor, whoever trades. -/
theorem Roster.get?_exchange_of_ne (left : other ≠ a) (right : other ≠ b) :
    (r.exchange a b).2.get? other = r.get? other := by
  rw [Roster.exchange]
  split
  · rfl
  · show ((r.update a _).update b _).get? other = r.get? other
    rw [Roster.get?_update, Roster.get?_update, if_neg right, if_neg left]
    all_goals exact fun _ => rfl

/-- A trade changes nothing but programs. -/
theorem Roster.map_exchange {α : Type} {g : Actor → α}
    (kept : ∀ (x : Actor) program saved, g { x with program, saved } = g x) (r : Roster)
    (a b : ActorId) : (r.exchange a b).2.actors.map g = r.actors.map g := by
  rw [Roster.exchange]
  split
  · rfl
  · exact (Roster.map_updateFirst (fun x => kept x _ _) _).trans
      (Roster.map_updateFirst (fun x => kept x _ _) _)

theorem Roster.spawner_exchange (r : Roster) (a b : ActorId) :
    (r.exchange a b).2.spawner = r.spawner := by
  rw [Roster.exchange]
  split <;> rfl

/-! ## Returns -/

/-- An actor with its saved program back, if it has one. -/
def Actor.restored (x : Actor) : Actor :=
  match x.saved with
  | none => x
  | some program => { x with program, saved := none }

@[simp] theorem Actor.id_restored (x : Actor) : x.restored.id = x.id := by
  unfold Actor.restored; split <;> rfl

@[simp] theorem Actor.saved_restored (x : Actor) : x.restored.saved = none := by
  unfold Actor.restored
  split
  · next none => exact none
  · rfl

theorem Actor.restored_of_saved {x : Actor} {program : Program} (saved : x.saved = some program) :
    x.restored = { x with program, saved := none } := by
  rw [Actor.restored, saved]

@[simp] theorem Actor.restored_restored (x : Actor) : x.restored.restored = x.restored := by
  rw [Actor.restored.eq_def x.restored, Actor.saved_restored]

theorem Roster.get?_restore (other : ActorId) :
    (r.restore id).2.get? other =
      if other = id then (r.get? id).map Actor.restored else r.get? other := by
  rw [Roster.restore]
  split
  · next nothing =>
    by_cases same : other = id
    · subst same
      rw [if_pos rfl]
      cases found : r.get? other with
      | none => rfl
      | some x =>
          rw [found, Option.bind_some] at nothing
          rw [Option.map_some, Actor.restored, nothing]
    · rw [if_neg same]
  · next saved holds =>
    obtain ⟨x, found, has⟩ := Option.bind_eq_some_iff.mp holds
    show (r.update id _).get? other = _
    rw [Roster.get?_update]
    · by_cases same : other = id
      · subst same
        rw [if_pos rfl, if_pos rfl, found, Option.map_some, Option.map_some,
          Actor.restored_of_saved has]
      · rw [if_neg same, if_neg same]
    · exact fun _ => rfl

/-- Nor does a return. -/
theorem Roster.map_restore {α : Type} {g : Actor → α}
    (kept : ∀ (x : Actor) program saved, g { x with program, saved } = g x) (r : Roster)
    (id : ActorId) : (r.restore id).2.actors.map g = r.actors.map g := by
  rw [Roster.restore]
  split
  · rfl
  · exact Roster.map_updateFirst (fun x => kept x _ _) _

theorem Roster.spawner_restore (r : Roster) (id : ActorId) :
    (r.restore id).2.spawner = r.spawner := by
  rw [Roster.restore]
  split <;> rfl

theorem Roster.map_separate {α : Type} {g : Actor → α}
    (kept : ∀ (x : Actor) program saved, g { x with program, saved } = g x) (r : Roster)
    (a b : ActorId) : (r.separate a b).2.actors.map g = r.actors.map g :=
  (Roster.map_restore kept (r.restore a).2 b).trans (Roster.map_restore kept r a)

/-- What is found under each id after two actors part. -/
theorem Roster.get?_separate (other : ActorId) :
    (r.separate a b).2.get? other =
      if other = a ∨ other = b then (r.get? other).map Actor.restored else r.get? other := by
  show ((r.restore a).2.restore b).2.get? other = _
  rw [Roster.get?_restore, Roster.get?_restore, Roster.get?_restore]
  by_cases second : other = b
  · subst second
    by_cases first : other = a
    · subst first
      cases r.get? other <;> simp
    · simp [first]
  · by_cases first : other = a
    · subst first
      simp [second]
    · simp [first, second]

theorem Roster.ids_separate : (r.separate a b).2.ids = r.ids :=
  Roster.map_separate (fun _ _ _ => rfl) r a b

end BlockStage
