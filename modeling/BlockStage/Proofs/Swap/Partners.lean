import BlockStage.Proofs.Stage.WellFormed
import BlockStage.Proofs.Swap.Settlement
import Mathlib.Data.List.Induction
import Mathlib.Data.List.Infix
import Mathlib.Data.List.Perm.Subperm

/-!
# Swaps that revert

While every actor has one partner at most, a swap has a simple life: actors that come together
hold each other's program and have saved their own, and when they part they have it back.  So an
actor without a partner holds the registered scripts as they are (`Stage.Settled`).

There is one way out of this.  When a placement takes an actor straight from one partner to
another, the two contacts take effect in the order of the roster.  If the new partner stands
first, the trade with it saves what the actor held from the old one, and the parting from the old
one gives just that back: the actor stays with its new partner as if it were free, and holds the
traded program for good (`Stage.JumpsBack`).  `swaps_revert_iff_never_jumping_back` says that
nothing else goes wrong.
-/

namespace BlockStage

/-! ## Partners -/

/-- Two different actors of a stage that are colliding. -/
def Stage.Partners (s : Stage) (a b : ActorId) : Prop :=
  a ∈ s.roster.ids ∧ b ∈ s.roster.ids ∧ a ≠ b ∧ s.colliding a b = true

instance (s : Stage) (a b : ActorId) : Decidable (s.Partners a b) :=
  inferInstanceAs (Decidable (_ ∧ _))

/-- No actor has more than one partner. -/
def Stage.OnePartner (s : Stage) : Prop := ∀ a b c, s.Partners a b → s.Partners a c → b = c

instance (s : Stage) : Decidable s.OnePartner :=
  decidable_of_iff (∀ a ∈ s.roster.ids, ∀ b ∈ s.roster.ids, ∀ c ∈ s.roster.ids,
    s.Partners a b → s.Partners a c → b = c)
    ⟨fun h a b c left right => h a left.1 b left.2.1 c right.2.1 left right,
      fun h a _ b _ c _ => h a b c⟩

/-- An actor has some partner. -/
def Stage.Engaged (s : Stage) (a : ActorId) : Prop := ∃ b, s.Partners a b

instance (s : Stage) (a : ActorId) : Decidable (s.Engaged a) :=
  decidable_of_iff (∃ b ∈ s.roster.ids, s.Partners a b)
    ⟨fun ⟨b, _, partners⟩ => ⟨b, partners⟩, fun ⟨b, partners⟩ => ⟨b, partners.2.1, partners⟩⟩

/-- The actors that are swapped are those with a partner, and the others hold the registered
scripts. -/
def Stage.Reverted (s : Stage) : Prop :=
  ∀ x ∈ s.roster.actors,
    (x.isSwapped = true ↔ s.Engaged x.id) ∧
    (¬ s.Engaged x.id → x.program = s.registry.scripts)

/-- From `s` to `t` an actor has gone straight from one partner to another, and the new one stands
before the old one. -/
def Stage.JumpsBack (s t : Stage) : Prop :=
  ∃ a old new, s.Partners a old ∧ ¬ t.Partners a old ∧ t.Partners a new ∧ ¬ s.Partners a new ∧
    [new, old].Sublist s.roster.ids

instance (s t : Stage) : Decidable (s.JumpsBack t) :=
  decidable_of_iff (∃ a ∈ s.roster.ids, ∃ old ∈ s.roster.ids, ∃ new ∈ s.roster.ids,
    s.Partners a old ∧ ¬ t.Partners a old ∧ t.Partners a new ∧ ¬ s.Partners a new ∧
      [new, old].Sublist s.roster.ids)
    ⟨fun ⟨a, _, old, _, new, _, jump⟩ => ⟨a, old, new, jump⟩,
      fun ⟨a, old, new, jump⟩ => ⟨a, jump.1.1, old, jump.1.2.1, new,
        jump.2.2.2.2.subset List.mem_cons_self, jump⟩⟩

variable {s t : Stage} {a b : ActorId} {position : Position}

theorem Stage.Partners.symm (h : s.Partners a b) : s.Partners b a := by
  obtain ⟨left, right, ne, flag⟩ := h
  refine ⟨right, left, ne.symm, ?_⟩
  rw [Stage.colliding, ActorPair.of_comm]
  exact flag

theorem Stage.WellFormed.partners_iff (h : s.WellFormed) :
    s.Partners a b ↔ s.colliding a b = true := by
  refine ⟨fun partners => partners.2.2.2, fun flag => ?_⟩
  obtain ⟨ne, left, right⟩ := h.of_colliding flag
  exact ⟨left, right, ne, flag⟩

theorem Stage.partners_congr (ids : t.roster.ids = s.roster.ids)
    (flags : t.collisions = s.collisions) (a b : ActorId) :
    t.Partners a b ↔ s.Partners a b := by
  rw [Partners, Partners, ids, Stage.colliding, flags]
  rfl

theorem Stage.not_jumpsBack_of_partners (same : ∀ a b, t.Partners a b ↔ s.Partners a b) :
    ¬ s.JumpsBack t := by
  intro jump
  obtain ⟨a, old, new, was, gone, -⟩ := jump
  exact gone ((same a old).mpr was)

variable {busy : ActorId → Prop}

/-! ## Stages in which swaps can be undone -/

/-- Actors with a partner have saved the registered scripts, and the others hold them. -/
def Stage.Settled (s : Stage) : Prop := s.roster.Settles s.registry.scripts s.Engaged

/-- Coming from `s`, either swaps can still be undone in `t`, or an actor has jumped back and one
is not as it should be. -/
def Stage.Keeps (s t : Stage) : Prop :=
  t.Settled ∧ ¬ s.JumpsBack t ∨ s.JumpsBack t ∧ ¬ t.Reverted

theorem Stage.Settled.reverted (h : s.Settled) (nodup : s.roster.ids.Nodup) : s.Reverted := by
  intro x mem
  obtain ⟨holds, free⟩ := h x.id x (Roster.get?_of_mem nodup mem)
  refine ⟨⟨fun swapped => ?_, fun engaged => ?_⟩, fun alone => (free alone).2⟩
  · by_contra alone
    rw [Actor.isSwapped, (free alone).1] at swapped
    cases swapped
  · rw [Actor.isSwapped, holds engaged]
    rfl

theorem Stage.Settled.moved (h : s.Settled) (a : ActorId) (position : Position) :
    (s.moved a position).roster.Settles s.registry.scripts s.Engaged := by
  refine Roster.Settles.of_get? h fun c y found => ?_
  rw [Stage.get?_moved] at found
  split at found
  · obtain ⟨x, was, rfl⟩ := Option.map_eq_some_iff.mp found
    exact ⟨x, was, rfl, rfl⟩
  · exact ⟨y, found, rfl, rfl⟩

/-! ## Partners after a placement -/

/-- The stage after a placement of a known actor on a stage that hangs together. -/
structure Stage.Placed (s t : Stage) (a : ActorId) (position : Position) : Prop where
  wellFormed : s.WellFormed
  nodup : s.roster.ids.Nodup
  known : a ∈ s.roster.ids
  same : t = (s.place a position).2

namespace Stage.Placed

variable {x y : ActorId}

theorem ids (h : s.Placed t a position) : t.roster.ids = s.roster.ids := by
  rw [h.same]
  exact s.ids_place a position

theorem wellFormed' (h : s.Placed t a position) : t.WellFormed := by
  rw [h.same]
  exact h.wellFormed.place a position

/-- A contact is a flag of the actor that differs before and after. -/
theorem contact_iff (h : s.Placed t a position) {edge : Edge} :
    ⟨a, x, edge⟩ ∈ s.contacts a position ↔
      Edge.between? (s.colliding a x) (t.colliding a x) = some edge := by
  rw [mem_contacts h.nodup h.known, ← h.same]
  refine ⟨fun mem => mem.2.2.2, fun between => ?_⟩
  -- one of the two flags is up, so these are two actors of the stage
  have two : a ≠ x ∧ a ∈ s.roster.ids ∧ x ∈ s.roster.ids := by
    cases edge with
    | rise =>
        have now := (Edge.between?_eq_rise.mp between).2
        exact h.ids ▸ h.wellFormed'.of_colliding now
    | fall => exact h.wellFormed.of_colliding (Edge.between?_eq_fall.mp between).1
  exact ⟨rfl, two.2.2, two.1.symm, between⟩

theorem rise_iff (h : s.Placed t a position) :
    ⟨a, x, .rise⟩ ∈ s.contacts a position ↔ t.Partners a x ∧ ¬ s.Partners a x := by
  rw [h.contact_iff, Edge.between?_eq_rise, h.wellFormed.partners_iff, h.wellFormed'.partners_iff,
    Bool.not_eq_true, and_comm]

theorem fall_iff (h : s.Placed t a position) :
    ⟨a, x, .fall⟩ ∈ s.contacts a position ↔ s.Partners a x ∧ ¬ t.Partners a x := by
  rw [h.contact_iff, Edge.between?_eq_fall, h.wellFormed.partners_iff, h.wellFormed'.partners_iff,
    Bool.not_eq_true]

/-- Two actors that were not placed stand as before. -/
theorem partners_others (h : s.Placed t a position) (left : x ≠ a) (right : y ≠ a) :
    t.Partners x y ↔ s.Partners x y := by
  rw [h.wellFormed.partners_iff, h.wellFormed'.partners_iff, h.same, Stage.colliding,
    Stage.colliding_place_of_ne h.known]
  · rfl
  · intro other _ _ row
    rcases ActorPair.of_eq_of_iff.mp row with ⟨same, -⟩ | ⟨-, same⟩
    · exact left same
    · exact right same

/-- The placed actor has the partners that it did not leave and those that it came to. -/
theorem partners_mover (h : s.Placed t a position) :
    t.Partners a x ↔ ⟨a, x, .rise⟩ ∈ s.contacts a position ∨
      s.Partners a x ∧ ⟨a, x, .fall⟩ ∉ s.contacts a position := by
  rw [h.rise_iff, h.fall_iff]
  by_cases was : s.Partners a x <;> simp [was]

theorem engaged_mover (h : s.Placed t a position) (one : s.OnePartner) :
    t.Engaged a ↔ (∃ n, ⟨a, n, .rise⟩ ∈ s.contacts a position) ∨
      s.Engaged a ∧ ∀ o, ⟨a, o, .fall⟩ ∉ s.contacts a position := by
  constructor
  · intro engaged
    obtain ⟨y, partners⟩ := engaged
    rcases h.partners_mover.mp partners with rise | ⟨was, stays⟩
    · exact .inl ⟨y, rise⟩
    · refine .inr ⟨⟨y, was⟩, fun o fall => stays ?_⟩
      rw [one a y o was (h.fall_iff.mp fall).1]
      exact fall
  · intro after
    rcases after with ⟨n, rise⟩ | ⟨⟨y, was⟩, stays⟩
    · exact ⟨n, (h.rise_iff.mp rise).1⟩
    · exact ⟨y, h.partners_mover.mpr (.inr ⟨was, stays y⟩)⟩

theorem engaged_other (h : s.Placed t a position) (one : s.OnePartner) (other : x ≠ a) :
    t.Engaged x ↔ ⟨a, x, .rise⟩ ∈ s.contacts a position ∨
      s.Engaged x ∧ ⟨a, x, .fall⟩ ∉ s.contacts a position := by
  constructor
  · intro engaged
    obtain ⟨y, partners⟩ := engaged
    by_cases mover : y = a
    · subst mover
      rcases h.partners_mover.mp partners.symm with rise | ⟨was, stays⟩
      · exact .inl rise
      · exact .inr ⟨⟨y, was.symm⟩, stays⟩
    · have was := (h.partners_others other mover).mp partners
      refine .inr ⟨⟨y, was⟩, fun fall => mover ?_⟩
      exact one x y a was (h.fall_iff.mp fall).1.symm
  · intro after
    rcases after with rise | ⟨⟨y, was⟩, stays⟩
    · exact ⟨a, (h.rise_iff.mp rise).1.symm⟩
    · by_cases mover : y = a
      · subst mover
        exact ⟨y, (h.partners_mover.mpr (.inr ⟨was.symm, stays⟩)).symm⟩
      · exact ⟨y, (h.partners_others other mover).mpr was⟩

/-- Who has a partner, while no one ever had two. -/
theorem engaged_iff (h : s.Placed t a position) (one : s.OnePartner) :
    t.Engaged x ↔
      (∃ n, ⟨a, n, .rise⟩ ∈ s.contacts a position ∧ (x = a ∨ x = n)) ∨
      s.Engaged x ∧ ¬ ∃ o, ⟨a, o, .fall⟩ ∈ s.contacts a position ∧ (x = a ∨ x = o) := by
  by_cases mover : x = a
  · subst mover
    rw [h.engaged_mover one]
    simp
  · rw [h.engaged_other one mover]
    simp [mover]

/-- Whoever goes from one partner to another is the actor that was placed. -/
theorem jumpsBack_iff (h : s.Placed t a position) :
    s.JumpsBack t ↔ ∃ old new, ⟨a, old, .fall⟩ ∈ s.contacts a position ∧
      ⟨a, new, .rise⟩ ∈ s.contacts a position ∧ [new, old].Sublist s.roster.ids := by
  constructor
  · intro jump
    obtain ⟨c, old, new, was, gone, now, fresh, order⟩ := jump
    have mover : c = a := by
      by_contra other
      by_cases left : old = a
      · by_cases right : new = a
        · exact gone (left ▸ right ▸ now)
        · exact fresh ((h.partners_others other right).mp now)
      · exact gone ((h.partners_others other left).mpr was)
    subst mover
    exact ⟨old, new, h.fall_iff.mpr ⟨was, gone⟩, h.rise_iff.mpr ⟨now, fresh⟩, order⟩
  · intro jump
    obtain ⟨old, new, fall, rise, order⟩ := jump
    obtain ⟨was, gone⟩ := h.fall_iff.mp fall
    obtain ⟨now, fresh⟩ := h.rise_iff.mp rise
    exact ⟨a, old, new, was, gone, now, fresh, order⟩

theorem mover_of_mem (h : s.Placed t a position) {c : Contact}
    (mem : c ∈ s.contacts a position) : c.mover = a :=
  ((mem_contacts h.nodup h.known).mp mem).1

/-- With one partner before and after, a placement leaves one and comes to one at most. -/
theorem nodup_edges (h : s.Placed t a position) (one : s.OnePartner) (one' : t.OnePartner) :
    ((s.contacts a position).map (·.edge)).Nodup := by
  have nodup : (s.contacts a position).Nodup :=
    (h.nodup.sublist (s.map_other_contacts a position)).of_map _
  refine List.Nodup.map_on (fun c mem d mem' same => ?_) nodup
  rcases c with ⟨m, x, edge⟩
  rcases d with ⟨m', y, edge'⟩
  obtain rfl : m = a := h.mover_of_mem mem
  obtain rfl : m' = m := h.mover_of_mem mem'
  obtain rfl : edge = edge' := same
  cases edge with
  | rise => rw [one' m' x y (h.rise_iff.mp mem).1 (h.rise_iff.mp mem').1]
  | fall => rw [one m' x y (h.fall_iff.mp mem).1 (h.fall_iff.mp mem').1]

/-- So there are five ways to be placed. -/
theorem contacts_cases (h : s.Placed t a position) (one : s.OnePartner) (one' : t.OnePartner) :
    s.contacts a position = [] ∨
    (∃ n, s.contacts a position = [⟨a, n, .rise⟩]) ∨
    (∃ o, s.contacts a position = [⟨a, o, .fall⟩]) ∨
    (∃ o n, s.contacts a position = [⟨a, o, .fall⟩, ⟨a, n, .rise⟩]) ∨
    (∃ o n, s.contacts a position = [⟨a, n, .rise⟩, ⟨a, o, .fall⟩]) := by
  have edges := h.nodup_edges one one'
  have mover : ∀ c ∈ s.contacts a position, c.mover = a := fun c mem => h.mover_of_mem mem
  rcases contacts : s.contacts a position with _ | ⟨⟨m, x, edge⟩, rest⟩
  · exact .inl rfl
  rw [contacts] at mover edges
  obtain rfl : m = a := mover _ List.mem_cons_self
  rcases rest with _ | ⟨⟨m', y, edge'⟩, rest⟩
  · cases edge with
    | rise => exact .inr (.inl ⟨x, rfl⟩)
    | fall => exact .inr (.inr (.inl ⟨x, rfl⟩))
  obtain rfl : m' = m := mover _ (List.mem_cons_of_mem _ List.mem_cons_self)
  rcases rest with _ | ⟨⟨m'', z, edge''⟩, rest⟩
  · cases edge <;> cases edge'
    · simp at edges
    · exact .inr (.inr (.inr (.inr ⟨y, x, rfl⟩)))
    · exact .inr (.inr (.inr (.inl ⟨x, y, rfl⟩)))
    · simp at edges
  · -- there are only two kinds of contacts, so a third one repeats
    cases edge <;> cases edge' <;> cases edge'' <;> simp at edges

/-! ## One placement -/

/-- The actor that jumps back has nothing saved in the end, though it has a partner. -/
theorem not_reverted (h : s.Placed t a position) {o n : ActorId}
    (contacts : s.contacts a position = [⟨a, n, .rise⟩, ⟨a, o, .fall⟩]) : ¬ t.Reverted := by
  intro reverted
  have partners : t.Partners a n := (h.rise_iff.mp (contacts ▸ List.mem_cons_self)).1
  obtain ⟨x, found⟩ := Roster.exists_get?_of_mem_ids partners.1
  have roster : t.roster = (((s.moved a position).roster.exchange a n).2.separate a o).2 := by
    rw [h.same, place_of_mem h.known, contacts]
    rfl
  have saved : x.saved = none := by
    rw [roster, Roster.get?_separate, if_pos (.inl rfl)] at found
    obtain ⟨y, -, rfl⟩ := Option.map_eq_some_iff.mp found
    exact y.saved_restored
  have swapped : x.isSwapped = true := by
    refine (reverted x (Roster.mem_of_get? found)).1.mpr ?_
    rw [Roster.id_of_get? found]
    exact ⟨n, partners⟩
  rw [Actor.isSwapped, saved] at swapped
  cases swapped

/-- The new partner was free, or it would have two now. -/
theorem free_of_rise (h : s.Placed t a position) (one' : t.OnePartner) {n : ActorId}
    (rise : ⟨a, n, .rise⟩ ∈ s.contacts a position) : ¬ s.Engaged n := by
  intro engaged
  obtain ⟨y, was⟩ := engaged
  obtain ⟨now, fresh⟩ := h.rise_iff.mp rise
  have other : y ≠ a := by
    intro mover
    subst mover
    exact fresh was.symm
  have stays : t.Partners n y := (h.partners_others now.2.2.1.symm other).mpr was
  exact other (one' n y a stays now.symm)

/-- An actor that leaves nobody was free as well. -/
theorem mover_free_of_rise (h : s.Placed t a position) (one' : t.OnePartner) {n : ActorId}
    (rise : ⟨a, n, .rise⟩ ∈ s.contacts a position)
    (leaves : ∀ o, ⟨a, o, .fall⟩ ∉ s.contacts a position) : ¬ s.Engaged a := by
  intro engaged
  obtain ⟨y, was⟩ := engaged
  obtain ⟨now, fresh⟩ := h.rise_iff.mp rise
  have stays : t.Partners a y := h.partners_mover.mpr (.inr ⟨was, leaves y⟩)
  rw [one' a y n stays now] at was
  exact fresh was

/-- What the contacts leave of the roster is what the partners after the placement ask for. -/
theorem settled_of_settles (h : s.Placed t a position) {contacts : List Contact}
    (found : s.contacts a position = contacts)
    (settles : ((s.moved a position).settleAll contacts).roster.Settles s.registry.scripts busy)
    (same : ∀ x, t.Engaged x ↔ busy x) : t.Settled := by
  have registry : t.registry = s.registry := by
    rw [h.same]
    exact s.registry_place a position
  rw [← found, ← place_of_mem h.known, ← h.same] at settles
  rw [Settled, registry]
  exact settles.congr same

theorem settled_of_rise (h : s.Placed t a position) (settled : s.Settled) (one : s.OnePartner)
    (one' : t.OnePartner) {n : ActorId} (contacts : s.contacts a position = [⟨a, n, .rise⟩]) :
    t.Settled := by
  have rise : ⟨a, n, .rise⟩ ∈ s.contacts a position := contacts ▸ List.mem_cons_self
  have partners := (h.rise_iff.mp rise).1
  have free := h.mover_free_of_rise one' rise (by simp [contacts])
  have free' := h.free_of_rise one' rise
  have traded := (settled.moved a position).exchange partners.2.2.1
    ((s.ids_moved a position).symm ▸ h.known)
    ((s.ids_moved a position).symm ▸ h.ids ▸ partners.2.1) free free'
  refine h.settled_of_settles contacts traded fun x => ?_
  rw [h.engaged_iff one, contacts]
  simp [or_comm]

theorem settled_of_fall (h : s.Placed t a position) (settled : s.Settled) (one : s.OnePartner)
    {o : ActorId} (contacts : s.contacts a position = [⟨a, o, .fall⟩]) : t.Settled := by
  have parted := (settled.moved a position).separate (a := a) (b := o)
  refine h.settled_of_settles contacts parted fun x => ?_
  rw [h.engaged_iff one, contacts]
  simp

theorem settled_of_fall_rise (h : s.Placed t a position) (settled : s.Settled)
    (one : s.OnePartner) (one' : t.OnePartner) {o n : ActorId}
    (contacts : s.contacts a position = [⟨a, o, .fall⟩, ⟨a, n, .rise⟩]) : t.Settled := by
  have rise : ⟨a, n, .rise⟩ ∈ s.contacts a position := by simp [contacts]
  have partners := (h.rise_iff.mp rise).1
  have free' := h.free_of_rise one' rise
  have parted := (settled.moved a position).separate (a := a) (b := o)
  have ids : ((s.moved a position).roster.separate a o).2.ids = s.roster.ids :=
    Roster.ids_separate.trans (s.ids_moved a position)
  have traded := parted.exchange partners.2.2.1 (ids.symm ▸ h.known)
    (ids.symm ▸ h.ids ▸ partners.2.1) (fun busy => busy.2 (.inl rfl)) (fun busy => free' busy.1)
  refine h.settled_of_settles contacts traded fun x => ?_
  rw [h.engaged_iff one, contacts]
  simp [or_comm]

/-- A placement keeps swaps undoable, unless its actor jumps back. -/
theorem keeps (h : s.Placed t a position) (settled : s.Settled) (one : s.OnePartner)
    (one' : t.OnePartner) : s.Keeps t := by
  have order := s.map_other_contacts a position
  rw [Keeps, h.jumpsBack_iff]
  rcases h.contacts_cases one one' with
    contacts | ⟨n, contacts⟩ | ⟨o, contacts⟩ | ⟨o, n, contacts⟩ | ⟨o, n, contacts⟩
  · refine .inl ⟨h.settled_of_settles contacts (settled.moved a position) fun x => ?_, ?_⟩
    · simp [h.engaged_iff one, contacts]
    · simp [contacts]
  · exact .inl ⟨h.settled_of_rise settled one one' contacts, by simp [contacts]⟩
  · exact .inl ⟨h.settled_of_fall settled one contacts, by simp [contacts]⟩
  · refine .inl ⟨h.settled_of_fall_rise settled one one' contacts, ?_⟩
    intro jump
    obtain ⟨old, new, fall, rise, back⟩ := jump
    -- the old partner stands first in the roster, so the new one does not
    rw [contacts] at fall rise order
    obtain rfl : old = o := by simpa using fall
    obtain rfl : new = n := by simpa using rise
    have same := (List.Nodup.perm_iff_eq_of_sublist h.nodup order back).mp (List.Perm.swap _ _ _)
    have apart : old ≠ new := by
      intro twice
      subst twice
      exact absurd (h.nodup.sublist order) (by simp)
    exact apart (List.cons.inj same).1
  · refine .inr ⟨⟨o, n, ?_, ?_, ?_⟩, h.not_reverted contacts⟩
    · simp [contacts]
    · simp [contacts]
    · rw [contacts] at order
      exact order

end Stage.Placed

/-! ## One operation -/

theorem Stage.Alike.partners (h : s.Alike t) (a b : ActorId) : t.Partners a b ↔ s.Partners a b :=
  partners_congr h.ids h.collisions a b

theorem Stage.Alike.engaged (h : s.Alike t) (a : ActorId) : t.Engaged a ↔ s.Engaged a :=
  exists_congr (h.partners a)

theorem Stage.Alike.onePartner (h : s.Alike t) (one : t.OnePartner) : s.OnePartner :=
  fun a b c left right => one a b c ((h.partners a b).mpr left) ((h.partners a c).mpr right)

theorem Stage.Alike.settled (h : s.Alike t) (settled : s.Settled) : t.Settled := by
  rw [Settled, h.registry]
  refine (Roster.Settles.of_get? settled fun a y found => ?_).congr h.engaged
  obtain ⟨x, was, bare⟩ := h.exists_get? found
  exact ⟨x, was, Actor.program_eq_of_bare bare, Actor.saved_eq_of_bare bare⟩

theorem Stage.Alike.reverted (h : s.Alike t) (reverted : s.Reverted) : t.Reverted := by
  intro y mem
  obtain ⟨x, old, bare⟩ := h.exists_bare mem
  rw [Actor.isSwapped, ← Actor.saved_eq_of_bare bare, ← Actor.program_eq_of_bare bare,
    ← Actor.id_eq_of_bare bare, h.engaged, h.registry]
  exact reverted x old

theorem Stage.Keeps.of_alike {u : Stage} (h : s.Keeps t) (alike : t.Alike u) : s.Keeps u := by
  have jumps : s.JumpsBack u ↔ s.JumpsBack t := by
    simp only [JumpsBack, alike.partners]
  rw [Keeps, jumps]
  refine h.imp (And.imp_left alike.settled) (And.imp_right fun broken reverted => broken ?_)
  exact alike.symm.reverted reverted

theorem Stage.keeps_of_still (alike : s.Alike t) (settled : s.Settled) : s.Keeps t :=
  .inl ⟨alike.settled settled, not_jumpsBack_of_partners alike.partners⟩

theorem Stage.keeps_create (wellFormed : s.WellFormed) (nodup : s.create.2.roster.ids.Nodup)
    (settled : s.Settled) : s.Keeps s.create.2 := by
  have same : ∀ a b, s.create.2.Partners a b ↔ s.Partners a b := by
    intro a b
    rw [wellFormed.partners_iff, wellFormed.create.partners_iff]
    rfl
  have idle : ¬ s.Engaged s.roster.nextId := by
    intro engaged
    obtain ⟨b, partners⟩ := engaged
    rw [s.ids_create] at nodup
    exact List.disjoint_of_nodup_append nodup partners.1 List.mem_cons_self
  refine .inl ⟨?_, not_jumpsBack_of_partners same⟩
  exact (Roster.Settles.spawnAt (r := { s.roster with spawner := _ }) settled idle _).congr
    fun x => exists_congr (same x)

/-- An edit that reaches the registry and every program keeps them equal. -/
theorem Stage.keeps_edit (settled : s.Settled) (edit : Program → Program)
    (alike : (s.edited edit).Alike t) : s.Keeps t := by
  have ids : (s.roster.updateAll (Actor.edit edit)).ids = s.roster.ids :=
    Roster.ids_updateAll fun _ => rfl
  have same : ∀ a b, t.Partners a b ↔ s.Partners a b := fun a b =>
    partners_congr (alike.ids.trans ids) alike.collisions a b
  refine .inl ⟨alike.settled ?_, not_jumpsBack_of_partners same⟩
  refine Roster.Settles.congr (Roster.Settles.updateAll settled edit) fun x => ?_
  exact (alike.engaged x).symm.trans (exists_congr (same x))

theorem Stage.keeps_submit (settled : s.Settled) (script : Script) :
    s.Keeps (s.submit script).2 := by
  by_cases known : s.registry.has script.id = true
  · rw [Stage.submit_of_known known]
    exact keeps_of_still (.refl s) settled
  · exact keeps_edit settled (Program.append · script) (Stage.alike_submit known)

theorem Stage.keeps_place (wellFormed : s.WellFormed) (nodup : s.roster.ids.Nodup)
    (one : s.OnePartner) (settled : s.Settled) (id : ActorId) (position : Position)
    (one' : (s.place id position).2.OnePartner) : s.Keeps (s.place id position).2 := by
  by_cases known : id ∈ s.roster.ids
  · have placed : s.Placed (s.place id position).2 id position :=
      ⟨wellFormed, nodup, known, rfl⟩
    exact placed.keeps settled one one'
  · rw [Stage.place_of_not_mem known]
    exact keeps_of_still (.refl s) settled

/-- **What one operation does to swaps.** -/
theorem Stage.Change.keeps (change : s.Change t) (wellFormed : s.WellFormed)
    (few : t.roster.actors.length ≤ UInt32.size) (one : s.OnePartner) (one' : t.OnePartner)
    (settled : s.Settled) : s.Keeps t := by
  have nodup : t.roster.ids.Nodup := (wellFormed.of_change change).nodup few
  cases change with
  | still alike => exact keeps_of_still alike settled
  | created alike =>
      exact (keeps_create wellFormed (alike.ids ▸ nodup) settled).of_alike alike
  | placed id position alike =>
      rw [alike.ids, s.ids_place] at nodup
      exact (keeps_place wellFormed nodup one settled id position
        (alike.onePartner one')).of_alike alike
  | submitted script alike => exact (keeps_submit settled script).of_alike alike
  | deleted id alike =>
      exact (keeps_edit settled (Program.drop · id) (s.alike_delete id)).of_alike alike

/-! ## Whole histories -/

theorem Stage.settled_start (setup : StageSetup) : (Stage.start setup).Settled := by
  have alone : ∀ a, ¬ (Stage.start setup).Engaged a := by
    intro a engaged
    obtain ⟨b, partners⟩ := engaged
    have flag := partners.2.2.2
    rw [Stage.start] at flag
    split at flag <;> cases flag
  have bare : (Roster.empty setup.seed).Settles [] fun _ => False := by
    intro a x found
    cases found
  have free : (Stage.start setup).roster.Settles (Stage.start setup).registry.scripts
      fun _ => False := by
    rw [Stage.start]
    split
    · exact bare.spawnAt id starterPosition
    · exact bare
  exact free.congr fun a => iff_of_false (alone a) id

/-- Up to the first jump all swaps can be undone, and the first jump is seen. -/
theorem Stage.settled_or_jumpsBack (setup : StageSetup) (history : List Operation)
    (few : ((Stage.start setup).after history).roster.actors.length ≤ UInt32.size)
    (one : ∀ past, past <+: history → ((Stage.start setup).after past).OnePartner) :
    (∀ past, past <+: history → ((Stage.start setup).after past).Settled) ∧
      (∀ past operation, past ++ [operation] <+: history →
        ¬ ((Stage.start setup).after past).JumpsBack
          ((Stage.start setup).after (past ++ [operation]))) ∨
    (∃ past operation, past ++ [operation] <+: history ∧
      ((Stage.start setup).after past).JumpsBack
        ((Stage.start setup).after (past ++ [operation])) ∧
      ¬ ((Stage.start setup).after (past ++ [operation])).Reverted) := by
  induction history using List.reverseRecOn with
  | nil =>
      refine .inl ⟨fun past initial => ?_, fun past operation initial => ?_⟩
      · rw [List.prefix_nil.mp initial]
        exact settled_start setup
      · exact absurd (List.prefix_nil.mp initial) (by simp)
  | append_singleton before operation ih =>
      have initial : before <+: before ++ [operation] := List.prefix_append _ _
      have few' := ((Stage.start setup).after before).length_le_after [operation]
      rw [← Stage.after_append] at few'
      rcases ih (few'.trans few) fun past h => one past (h.trans initial) with
        ⟨settled, still⟩ | ⟨past, jump, h, seen⟩
      · have wellFormed := (Stage.wellFormed_start setup).after before
        have change := operation.change ((Stage.start setup).after before)
        rw [← Stage.after_concat] at change
        rcases change.keeps wellFormed few (one before initial) (one _ List.prefix_rfl)
          (settled before List.prefix_rfl) with ⟨settled', still'⟩ | seen
        · refine .inl ⟨fun past h => ?_, fun past last h => ?_⟩
          · rcases List.prefix_concat_iff.mp h with rfl | h
            · exact settled'
            · exact settled past h
          · rcases List.prefix_concat_iff.mp h with same | h
            · obtain ⟨rfl, rfl⟩ : past = before ∧ last = operation := by simpa using same
              exact still'
            · exact still past last h
        · exact .inr ⟨before, operation, List.prefix_rfl, seen⟩
      · exact .inr ⟨past, jump, h.trans initial, seen⟩

/-- **Swaps revert if and only if nobody jumps back.**  Along a history in which every actor has
one partner at most, the swapped actors are always those with a partner, and all others hold the
registered scripts as they are, exactly if no operation takes an actor straight to a partner that
stands before the one it leaves. -/
theorem swaps_revert_iff_never_jumping_back (setup : StageSetup) (history : List Operation)
    (few : ((Stage.start setup).after history).roster.actors.length ≤ UInt32.size)
    (one : ∀ past, past <+: history → ((Stage.start setup).after past).OnePartner) :
    (∀ past, past <+: history → ((Stage.start setup).after past).Reverted) ↔
      ∀ past operation, past ++ [operation] <+: history →
        ¬ ((Stage.start setup).after past).JumpsBack
          ((Stage.start setup).after (past ++ [operation])) := by
  have nodup : ∀ past, past <+: history → ((Stage.start setup).after past).roster.ids.Nodup := by
    intro past initial
    obtain ⟨later, rfl⟩ := initial
    refine ((Stage.wellFormed_start setup).after past).nodup (le_trans ?_ few)
    rw [Stage.after_append]
    exact Stage.length_le_after _ later
  rcases Stage.settled_or_jumpsBack setup history few one with
    ⟨settled, still⟩ | ⟨past, operation, h, jumps, broken⟩
  · exact iff_of_true (fun past h => (settled past h).reverted (nodup past h)) still
  · exact iff_of_false (fun reverted => broken (reverted _ h)) fun never => never _ _ h jumps

/-! ### A visit, and a jump -/

/-- How a stage with one actor begins. -/
def quietSetup : StageSetup := ⟨0, true, 0⟩

/-- Two more actors take their places, all are given a move, and the third comes to the second. -/
def visit : List Operation :=
  [.create, .place ⟨2⟩ ⟨300, 100⟩, .create, .place ⟨3⟩ ⟨400, 400⟩,
    .submit (Block.move.instantiate ⟨"move"⟩ .nil), .place ⟨3⟩ ⟨300, 110⟩]

/-- The third actor goes away from all others. -/
def leave : Operation := .place ⟨3⟩ ⟨400, 400⟩

/-- The third actor goes to the first. -/
def jump : Operation := .place ⟨3⟩ ⟨100, 110⟩

/-- A visit that ends before another begins is as it should be, and so is what it leaves. -/
theorem visit_reverts :
    ((Stage.start quietSetup).after visit).Reverted ∧
      ((Stage.start quietSetup).after (visit ++ [leave])).Reverted := by
  have checked :
      ((Stage.start quietSetup).after (visit ++ [leave])).roster.actors.length ≤ UInt32.size ∧
      (∀ past ∈ (visit ++ [leave]).inits, ((Stage.start quietSetup).after past).OnePartner) ∧
      ∀ next ∈ (visit ++ [leave]).inits,
        ¬ ((Stage.start quietSetup).after next.dropLast).JumpsBack
          ((Stage.start quietSetup).after next) := by
    decide +kernel
  obtain ⟨few, one, still⟩ := checked
  have reverted := (swaps_revert_iff_never_jumping_back quietSetup (visit ++ [leave]) few
    fun past initial => one past ((List.mem_inits _ _).mpr initial)).mpr (by
      intro past operation initial
      have here := still (past ++ [operation]) ((List.mem_inits _ _).mpr initial)
      rwa [List.dropLast_concat] at here)
  exact ⟨reverted visit (List.prefix_append _ _), reverted _ List.prefix_rfl⟩

/-- **One partner at a time is not enough.**  The third actor goes straight from the second to the
first and is not swapped there; in the end it stands alone with its move negated. -/
theorem swap_lost_by_jumping_back :
    (∀ past, past <+: visit ++ [jump, leave] →
      ((Stage.start quietSetup).after past).OnePartner) ∧
    (∃ x ∈ ((Stage.start quietSetup).after (visit ++ [jump])).roster.actors,
      x.isSwapped = false ∧ ((Stage.start quietSetup).after (visit ++ [jump])).Engaged x.id) ∧
    ∃ x ∈ ((Stage.start quietSetup).after (visit ++ [jump, leave])).roster.actors,
      ¬ ((Stage.start quietSetup).after (visit ++ [jump, leave])).Engaged x.id ∧
      x.program ≠ ((Stage.start quietSetup).after (visit ++ [jump, leave])).registry.scripts := by
  have checked :
      (∀ past ∈ (visit ++ [jump, leave]).inits,
        ((Stage.start quietSetup).after past).OnePartner) ∧
      (∃ x ∈ ((Stage.start quietSetup).after (visit ++ [jump])).roster.actors,
        x.isSwapped = false ∧ ((Stage.start quietSetup).after (visit ++ [jump])).Engaged x.id) ∧
      (∃ x ∈ ((Stage.start quietSetup).after (visit ++ [jump, leave])).roster.actors,
        ¬ ((Stage.start quietSetup).after (visit ++ [jump, leave])).Engaged x.id ∧
        ∃ script ∈ x.program, script.numberOrZero "steps" < 0) ∧
      ∀ script ∈ ((Stage.start quietSetup).after (visit ++ [jump, leave])).registry.scripts,
        ¬ script.numberOrZero "steps" < 0 := by
    decide +kernel
  obtain ⟨one, lost, ⟨x, mem, alone, script, held, backward⟩, forward⟩ := checked
  refine ⟨fun past initial => one past ((List.mem_inits _ _).mpr initial), lost, x, mem, alone, ?_⟩
  intro same
  exact forward script (same ▸ held) backward

end BlockStage
