import BlockStage.Proofs.Collision.Contacts
import Mathlib.Data.List.Chain

/-!
# Flags and contacts, row by row

`Contacts` reads the contacts off the flags before and after a comparison, where no two actors
share an id.  Here they are followed one write after another, so nothing is asked of the ids: the
contacts of a pair lead from its flag before to its flag after, rise and fall in turn
(`Edge.Leads`), and a pair never gets a second row.
-/

namespace BlockStage

/-! ## Keys -/

variable {t : CollisionTable} {mover : ActorId} {place : Position} {others : List Actor}
  {pair : ActorPair}

/-- The pairs that have a row. -/
def CollisionTable.keys (t : CollisionTable) : List ActorPair := t.flags.map (·.1)

theorem CollisionTable.mem_map_setFlag {key : ActorPair} (pair : ActorPair) (flag : Bool)
    (flags : List (ActorPair × Bool)) :
    key ∈ (CollisionTable.setFlag pair flag flags).map (·.1) ↔
      key = pair ∨ key ∈ flags.map (·.1) := by
  induction flags with
  | nil => simp [CollisionTable.setFlag]
  | cons entry rest ih =>
      rw [CollisionTable.setFlag]
      split
      · next row => simp [row]
      · rw [List.map_cons, List.mem_cons, ih, List.map_cons, List.mem_cons, or_left_comm]

theorem CollisionTable.nodup_map_setFlag {flags : List (ActorPair × Bool)}
    (nodup : (flags.map (·.1)).Nodup) (pair : ActorPair) (flag : Bool) :
    ((CollisionTable.setFlag pair flag flags).map (·.1)).Nodup := by
  induction flags with
  | nil => exact List.nodup_singleton pair
  | cons entry rest ih =>
      obtain ⟨fresh, nodup⟩ := List.nodup_cons.mp nodup
      rw [CollisionTable.setFlag]
      split
      · next row => exact List.nodup_cons.mpr ⟨row ▸ fresh, nodup⟩
      · next apart =>
        refine List.nodup_cons.mpr ⟨fun again => ?_, ih nodup⟩
        rcases (CollisionTable.mem_map_setFlag pair flag rest).mp again with same | old
        · exact apart same
        · exact fresh old

theorem CollisionTable.nodup_keys_compare (nodup : t.keys.Nodup) (mover : ActorId)
    (place : Position) (others : List Actor) :
    (CollisionTable.compare mover place others t).2.keys.Nodup := by
  induction others generalizing t with
  | nil => exact nodup
  | cons other rest ih =>
      rw [CollisionTable.snd_compare_cons]
      exact ih (CollisionTable.nodup_map_setFlag nodup _ _)

/-- Where no pair has two rows, every row tells the flag of its pair. -/
theorem CollisionTable.flag?_of_mem (nodup : t.keys.Nodup) {entry : ActorPair × Bool}
    (mem : entry ∈ t.flags) : t.flag? entry.1 = some entry.2 :=
  congrArg (Option.map Prod.snd) (find?_of_nodup_map nodup mem)

/-! ## Edges of a pair -/

/-- Edges that lead from one flag to another: each changes the flag that the one before it has
left. -/
inductive Edge.Leads : (before : Bool) → List Edge → (after : Bool) → Prop
  | still {flag : Bool} : Edge.Leads flag [] flag
  | rise {rest : List Edge} {after : Bool} (later : Edge.Leads true rest after) :
    Edge.Leads false (.rise :: rest) after
  | fall {rest : List Edge} {after : Bool} (later : Edge.Leads false rest after) :
    Edge.Leads true (.fall :: rest) after

variable {before between after : Bool} {edges later : List Edge}

theorem Edge.Leads.append (first : Edge.Leads before edges between)
    (second : Edge.Leads between later after) : Edge.Leads before (edges ++ later) after := by
  induction first with
  | still => exact second
  | rise _ ih => exact .rise (ih second)
  | fall _ ih => exact .fall (ih second)

theorem Edge.leads_between (before after : Bool) :
    Edge.Leads before (Edge.between? before after).toList after := by
  cases before <;> cases after
  · exact .still
  · exact .rise .still
  · exact .fall .still
  · exact .still

/-- The flag that an edge needs, and the one that it leaves. -/
theorem Edge.Leads.of_cons {edge : Edge} (h : Edge.Leads before (edge :: edges) after) :
    before = decide (edge = .fall) ∧ Edge.Leads (decide (edge = .rise)) edges after := by
  cases h with
  | rise later => exact ⟨rfl, later⟩
  | fall later => exact ⟨rfl, later⟩

theorem Edge.Leads.head?_ne (h : Edge.Leads false edges after) : edges.head? ≠ some .fall := by
  cases h <;> simp

/-- No two edges in a row are the same. -/
theorem Edge.Leads.isChain (h : Edge.Leads before edges after) : edges.IsChain (· ≠ ·) := by
  induction h with
  | still => exact .nil
  | rise later ih =>
      cases later with
      | still => exact .singleton _
      | fall => exact .cons_cons (by decide) ih
  | fall later ih =>
      cases later with
      | still => exact .singleton _
      | rise => exact .cons_cons (by decide) ih

/-- The last edge tells the flag, or the flag is what it was. -/
theorem Edge.Leads.eq_getLast? (h : Edge.Leads before edges after) :
    after = (edges.getLast?.map fun edge => decide (edge = .rise)).getD before := by
  induction h with
  | still => rfl
  | @rise rest after _ ih =>
      rw [ih, List.getLast?_cons]
      cases rest.getLast? <;> rfl
  | @fall rest after _ ih =>
      rw [ih, List.getLast?_cons]
      cases rest.getLast? <;> rfl

theorem Edge.Leads.getLast?_eq_rise_iff (h : Edge.Leads false edges after) :
    edges.getLast? = some .rise ↔ after = true := by
  rw [h.eq_getLast?]
  cases edges.getLast? <;> simp

/-- The edges of a pair among some contacts. -/
def Contact.edgesOf (pair : ActorPair) (contacts : List Contact) : List Edge :=
  (contacts.filter (·.pair = pair)).map (·.edge)

@[simp] theorem Contact.edgesOf_append (pair : ActorPair) (first second : List Contact) :
    Contact.edgesOf pair (first ++ second) =
      Contact.edgesOf pair first ++ Contact.edgesOf pair second := by
  rw [Contact.edgesOf, List.filter_append, List.map_append]
  rfl

theorem Contact.edgesOf_cons (pair : ActorPair) (contact : Contact) (rest : List Contact) :
    Contact.edgesOf pair (contact :: rest) =
      if contact.pair = pair then contact.edge :: Contact.edgesOf pair rest
      else Contact.edgesOf pair rest := by
  by_cases same : contact.pair = pair <;> simp [Contact.edgesOf, same]

theorem CollisionTable.edgesOf_contact? (t : CollisionTable) (mover : ActorId)
    (place : Position) (other : Actor) (pair : ActorPair) :
    Contact.edgesOf pair (t.contact? mover place other).toList =
      if pair = .of mover other.id then
        (Edge.between? (t.colliding pair) (place.collides other.position)).toList
      else [] := by
  rw [CollisionTable.contact?]
  by_cases row : pair = .of mover other.id
  · subst row
    rw [if_pos rfl]
    cases Edge.between? (t.colliding (.of mover other.id)) (place.collides other.position) <;>
      simp [Contact.edgesOf, Contact.pair]
  · rw [if_neg row]
    cases Edge.between? (t.colliding (.of mover other.id)) (place.collides other.position) <;>
      simp [Contact.edgesOf, Contact.pair, Ne.symm row]

/-- The contacts of a comparison lead every flag from what it was to what it is. -/
theorem CollisionTable.leads_compare (t : CollisionTable) (mover : ActorId) (place : Position)
    (others : List Actor) (pair : ActorPair) :
    Edge.Leads (t.colliding pair)
      (Contact.edgesOf pair (CollisionTable.compare mover place others t).1)
      ((CollisionTable.compare mover place others t).2.colliding pair) := by
  induction others generalizing t with
  | nil => exact .still
  | cons other rest ih =>
      rw [CollisionTable.fst_compare_cons, CollisionTable.snd_compare_cons,
        Contact.edgesOf_append]
      refine Edge.Leads.append ?_ (ih _)
      rw [CollisionTable.colliding_update, CollisionTable.edgesOf_contact?]
      by_cases row : pair = .of mover other.id
      · rw [if_pos row, if_pos row]
        exact Edge.leads_between _ _
      · rw [if_neg row, if_neg row]
        exact .still

/-! ## A mover and its roster -/

variable {r : Roster}

/-- Whatever the ids, a contact is between the mover and another actor of the roster. -/
theorem CollisionTable.within_of_mem_compare {c : Contact}
    (mem : c ∈ (CollisionTable.compare mover place others t).1) :
    c.mover = mover ∧ ∃ o ∈ others, c.other = o.id := by
  induction others generalizing t with
  | nil => cases mem
  | cons other rest ih =>
      rw [CollisionTable.fst_compare_cons] at mem
      rcases List.mem_append.mp mem with here | later
      · obtain ⟨edge, -, rfl⟩ := Option.map_eq_some_iff.mp (Option.mem_toList.mp here)
        exact ⟨rfl, other, List.mem_cons_self, rfl⟩
      · obtain ⟨same, o, inRest, named⟩ := ih later
        exact ⟨same, o, List.mem_cons_of_mem _ inRest, named⟩

theorem CollisionTable.within_of_mem_detect {c : Contact} (mem : c ∈ (t.detect r mover).1) :
    c.mover = mover ∧ mover ∈ r.ids ∧ c.other ∈ r.ids ∧ c.other ≠ mover := by
  rw [CollisionTable.detect] at mem
  split at mem
  · cases mem
  · next found =>
    obtain ⟨same, o, inOthers, named⟩ := CollisionTable.within_of_mem_compare mem
    obtain ⟨present, ne⟩ := Roster.mem_others_iff.mp (List.mem_map_of_mem inOthers)
    exact ⟨same, Roster.mem_ids_of_get? found, named ▸ present, named ▸ ne⟩

theorem CollisionTable.nodup_keys_detect (nodup : t.keys.Nodup) (r : Roster) (mover : ActorId) :
    (t.detect r mover).2.keys.Nodup := by
  rw [CollisionTable.detect]
  split
  · exact nodup
  · exact CollisionTable.nodup_keys_compare nodup _ _ _

theorem CollisionTable.leads_detect (t : CollisionTable) (r : Roster) (mover : ActorId)
    (pair : ActorPair) :
    Edge.Leads (t.colliding pair) (Contact.edgesOf pair (t.detect r mover).1)
      ((t.detect r mover).2.colliding pair) := by
  rw [CollisionTable.detect]
  split
  · exact .still
  · exact t.leads_compare _ _ _ _

end BlockStage
