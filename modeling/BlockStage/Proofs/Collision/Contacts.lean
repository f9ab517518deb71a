import BlockStage.Collision
import BlockStage.Proofs.Roster
import Std.Data.String.ToNat

/-!
# What a comparison with all others finds

A comparison writes the rows of its mover, each as the mover stands to one of the others, and no
other row (`CollisionTable.flag?_detect_of_mem`, `CollisionTable.flag?_detect_of_ne`).  A pair does
not depend on the order of its actors (`ActorPair.of_eq_of_iff`), so where no two actors share an
id, the rows that are visited are as many as there are others, and none of them is visited twice.
Each row is therefore compared with the flag that it had before the whole comparison:
`CollisionTable.mem_detect` lists the contacts by the flags before and after it, and
`CollisionTable.map_other_detect` puts them in the order of the roster.
-/

namespace BlockStage

/-! ## Pairs -/

/-- The written form tells ids apart. -/
theorem ActorId.label_injective {a b : ActorId} (same : a.label = b.label) : a = b := by
  have digits : a.index.toNat.repr = b.index.toNat.repr :=
    (String.append_right_inj "sprite").mp same
  exact congrArg ActorId.mk (UInt32.toNat_inj.mp (Nat.repr_injective digits))

theorem ActorPair.of_comm (a b : ActorId) : ActorPair.of a b = ActorPair.of b a := by
  rw [ActorPair.of, ActorPair.of]
  by_cases le : a.label ≤ b.label
  · by_cases ge : b.label ≤ a.label
    · rw [ActorId.label_injective (String.le_antisymm le ge)]
    · rw [if_pos le, if_neg ge]
  · have ge : b.label ≤ a.label := (String.le_total a.label b.label).resolve_left le
    rw [if_neg le, if_pos ge]

/-- Two pairs are equal if they have the same actors, in whatever order. -/
theorem ActorPair.of_eq_of_iff {a b c d : ActorId} :
    ActorPair.of a b = ActorPair.of c d ↔ a = c ∧ b = d ∨ a = d ∧ b = c := by
  constructor
  · intro same
    unfold ActorPair.of at same
    split at same <;> split at same <;> cases same
    · exact .inl ⟨rfl, rfl⟩
    · exact .inr ⟨rfl, rfl⟩
    · exact .inr ⟨rfl, rfl⟩
    · exact .inl ⟨rfl, rfl⟩
  · rintro (⟨rfl, rfl⟩ | ⟨rfl, rfl⟩)
    · rfl
    · exact ActorPair.of_comm a b

theorem ActorPair.of_right_injective {a b c : ActorId} (same : ActorPair.of a b = .of a c) :
    b = c := by
  rcases ActorPair.of_eq_of_iff.mp same with ⟨-, same⟩ | ⟨first, second⟩
  · exact same
  · exact second.trans first

/-! ## One row -/

variable {t : CollisionTable} {mover : ActorId} {place : Position} {others : List Actor}
  {pair : ActorPair}

theorem CollisionTable.find?_setFlag (pair other : ActorPair) (flag : Bool)
    (flags : List (ActorPair × Bool)) :
    (CollisionTable.setFlag pair flag flags).find? (·.1 = other) =
      if other = pair then some (pair, flag) else flags.find? (·.1 = other) := by
  induction flags with
  | nil =>
      by_cases same : other = pair
      · simp [CollisionTable.setFlag, same]
      · simp [CollisionTable.setFlag, same, Ne.symm same]
  | cons entry rest ih =>
      rw [CollisionTable.setFlag]
      by_cases row : entry.1 = pair
      · rw [if_pos row]
        by_cases same : other = pair
        · simp [same]
        · have apart : ¬ entry.1 = other := fun h => same (h.symm.trans row)
          simp [same, Ne.symm same, apart]
      · rw [if_neg row]
        by_cases hit : entry.1 = other
        · have apart : ¬ other = pair := fun h => row (hit.trans h)
          simp [hit, apart]
        · simpa [hit] using ih

theorem CollisionTable.colliding_eq_true_iff :
    t.colliding pair = true ↔ t.flag? pair = some true := by
  rw [CollisionTable.colliding]
  cases t.flag? pair <;> simp

theorem CollisionTable.flag?_update (t : CollisionTable) (pair other : ActorPair) (flag : Bool) :
    (t.update pair flag).2.flag? other = if other = pair then some flag else t.flag? other := by
  rw [CollisionTable.flag?, CollisionTable.update, CollisionTable.find?_setFlag]
  split
  · rfl
  · rfl

theorem CollisionTable.colliding_update (t : CollisionTable) (pair other : ActorPair)
    (flag : Bool) :
    (t.update pair flag).2.colliding other = if other = pair then flag else t.colliding other := by
  rw [CollisionTable.colliding, CollisionTable.flag?_update]
  split
  · rfl
  · rfl

/-! ## All rows of a mover -/

/-- The contact that comparing `mover` with one actor finds. -/
def CollisionTable.contact? (t : CollisionTable) (mover : ActorId) (place : Position)
    (other : Actor) : Option Contact :=
  (Edge.between? (t.colliding (.of mover other.id)) (place.collides other.position)).map
    (⟨mover, other.id, ·⟩)

theorem CollisionTable.fst_compare_cons (t : CollisionTable) (mover : ActorId) (place : Position)
    (other : Actor) (rest : List Actor) :
    (CollisionTable.compare mover place (other :: rest) t).1 =
      (t.contact? mover place other).toList ++
        (CollisionTable.compare mover place rest
          (t.update (.of mover other.id) (place.collides other.position)).2).1 := by
  rw [CollisionTable.compare, CollisionTable.contact?]
  cases between :
    Edge.between? (t.colliding (.of mover other.id)) (place.collides other.position) with
  | none => simp [CollisionTable.update, between]
  | some edge => simp [CollisionTable.update, between]

theorem CollisionTable.snd_compare_cons (t : CollisionTable) (mover : ActorId) (place : Position)
    (other : Actor) (rest : List Actor) :
    (CollisionTable.compare mover place (other :: rest) t).2 =
      (CollisionTable.compare mover place rest
        (t.update (.of mover other.id) (place.collides other.position)).2).2 := by
  rw [CollisionTable.compare]
  cases between :
    Edge.between? (t.colliding (.of mover other.id)) (place.collides other.position) with
  | none => simp [CollisionTable.update, between]
  | some edge => simp [CollisionTable.update, between]

/-- Rows of other pairs are left alone. -/
theorem CollisionTable.flag?_compare_of_ne (apart : ∀ o ∈ others, pair ≠ .of mover o.id) :
    (CollisionTable.compare mover place others t).2.flag? pair = t.flag? pair := by
  induction others generalizing t with
  | nil => rfl
  | cons other rest ih =>
      obtain ⟨here, later⟩ := List.forall_mem_cons.mp apart
      rw [CollisionTable.snd_compare_cons, ih later, CollisionTable.flag?_update, if_neg here]

/-- A row of the mover tells how it stands to one of the actors that the row may mean. -/
theorem CollisionTable.flag?_compare_of_mem (t : CollisionTable) (place : Position)
    (row : ∃ o ∈ others, pair = .of mover o.id) :
    ∃ o ∈ others, pair = .of mover o.id ∧
      (CollisionTable.compare mover place others t).2.flag? pair =
        some (place.collides o.position) := by
  induction others generalizing t with
  | nil =>
      obtain ⟨o, mem, -⟩ := row
      cases mem
  | cons other rest ih =>
      rw [CollisionTable.snd_compare_cons]
      by_cases later : ∃ o ∈ rest, pair = .of mover o.id
      · obtain ⟨o, mem, same, flag⟩ := ih _ later
        exact ⟨o, List.mem_cons_of_mem _ mem, same, flag⟩
      · -- nothing writes the row again, so the first comparison stays
        obtain ⟨o, mem, same⟩ := row
        obtain rfl : o = other := by
          rcases List.mem_cons.mp mem with here | inRest
          · exact here
          · exact absurd ⟨o, inRest, same⟩ later
        refine ⟨o, List.mem_cons_self, same, ?_⟩
        rw [CollisionTable.flag?_compare_of_ne fun x inRest eq => later ⟨x, inRest, eq⟩,
          CollisionTable.flag?_update, if_pos same]

theorem ActorPair.of_ne_of_not_mem {other : Actor} {rest : List Actor}
    (fresh : other.id ∉ rest.map (·.id)) :
    ∀ o ∈ rest, ActorPair.of mover other.id ≠ .of mover o.id := fun o mem same =>
  fresh (List.mem_map.mpr ⟨o, mem, (ActorPair.of_right_injective same).symm⟩)

/-- Every visited row holds how the two actors stand now. -/
theorem CollisionTable.colliding_compare_of_mem (distinct : (others.map (·.id)).Nodup)
    {other : Actor} (mem : other ∈ others) :
    (CollisionTable.compare mover place others t).2.colliding (.of mover other.id) =
      place.collides other.position := by
  obtain ⟨o, among, same, flag⟩ := t.flag?_compare_of_mem place ⟨other, mem, rfl⟩
  have named : o.id = other.id := ActorPair.of_right_injective same.symm
  obtain rfl : o = other := List.inj_on_of_nodup_map distinct among mem named
  rw [CollisionTable.colliding, flag, Option.getD_some]

/-- As no row is visited twice, all contacts can be read off the flags before. -/
theorem CollisionTable.fst_compare (distinct : (others.map (·.id)).Nodup) :
    (CollisionTable.compare mover place others t).1 =
      others.filterMap (t.contact? mover place) := by
  induction others generalizing t with
  | nil => rfl
  | cons other rest ih =>
      obtain ⟨fresh, distinct⟩ := List.nodup_cons.mp distinct
      have unmet : ∀ o ∈ rest,
          (t.update (.of mover other.id) (place.collides other.position)).2.contact? mover place o =
            t.contact? mover place o := by
        intro o mem
        have apart : ActorPair.of mover other.id ≠ .of mover o.id :=
          ActorPair.of_ne_of_not_mem fresh o mem
        rw [CollisionTable.contact?, CollisionTable.colliding_update, if_neg apart.symm]
        rfl
      rw [CollisionTable.fst_compare_cons, ih distinct, List.filterMap_congr unmet]
      rw [List.filterMap_cons]
      cases t.contact? mover place other <;> rfl

/-- Whatever the ids, the contacts stand in the order of the others. -/
theorem CollisionTable.map_other_compare (t : CollisionTable) (mover : ActorId)
    (place : Position) (others : List Actor) :
    ((CollisionTable.compare mover place others t).1.map (·.other)).Sublist
      (others.map (·.id)) := by
  induction others generalizing t with
  | nil => exact List.Sublist.refl _
  | cons other rest ih =>
      rw [CollisionTable.fst_compare_cons, List.map_append, List.map_cons]
      cases contact : t.contact? mover place other with
      | none => exact (ih _).cons _
      | some c =>
          obtain ⟨edge, -, rfl⟩ := Option.map_eq_some_iff.mp contact
          exact (ih _).cons_cons _

/-! ## A mover and its roster -/

variable {r : Roster} {x : Actor}

theorem CollisionTable.detect_of_get? (found : r.get? mover = some x) :
    t.detect r mover =
      CollisionTable.compare mover x.position (r.actors.filter (·.id ≠ mover)) t := by
  rw [CollisionTable.detect, found]

theorem Roster.others_sublist (r : Roster) (mover : ActorId) :
    ((r.actors.filter (·.id ≠ mover)).map (·.id)).Sublist r.ids :=
  List.filter_sublist.map _

theorem Roster.mem_others_iff {other : ActorId} :
    other ∈ (r.actors.filter (·.id ≠ mover)).map (·.id) ↔ other ∈ r.ids ∧ other ≠ mover := by
  constructor
  · intro mem
    obtain ⟨o, kept, rfl⟩ := List.mem_map.mp mem
    obtain ⟨present, apart⟩ := List.mem_filter.mp kept
    exact ⟨List.mem_map_of_mem present, by simpa using apart⟩
  · rintro ⟨mem, apart⟩
    obtain ⟨o, present, rfl⟩ := Roster.mem_ids.mp mem
    exact List.mem_map_of_mem (List.mem_filter.mpr ⟨present, by simpa using apart⟩)

theorem CollisionTable.map_other_detect (t : CollisionTable) (r : Roster) (mover : ActorId) :
    ((t.detect r mover).1.map (·.other)).Sublist r.ids := by
  rw [CollisionTable.detect]
  split
  · exact List.nil_sublist _
  · exact (t.map_other_compare _ _ _).trans (r.others_sublist mover)

/-- Only rows of the mover and another actor of the roster are written. -/
theorem CollisionTable.flag?_detect_of_ne
    (apart : ∀ other ∈ r.ids, other ≠ mover → pair ≠ .of mover other) :
    (t.detect r mover).2.flag? pair = t.flag? pair := by
  rw [CollisionTable.detect]
  split
  · rfl
  · refine CollisionTable.flag?_compare_of_ne fun o mem => ?_
    obtain ⟨present, ne⟩ := Roster.mem_others_iff.mp (List.mem_map_of_mem mem)
    exact apart o.id present ne

/-- These rows tell how the mover stands to the others. -/
theorem CollisionTable.flag?_detect_of_mem (found : r.get? mover = some x)
    (row : ∃ other ∈ r.ids, other ≠ mover ∧ pair = .of mover other) :
    ∃ o ∈ r.actors, o.id ≠ mover ∧ pair = .of mover o.id ∧
      (t.detect r mover).2.flag? pair = some (x.position.collides o.position) := by
  obtain ⟨other, mem, ne, same⟩ := row
  obtain ⟨y, among, named⟩ := List.mem_map.mp (Roster.mem_others_iff.mpr ⟨mem, ne⟩)
  obtain ⟨o, among', same', flag⟩ :=
    t.flag?_compare_of_mem x.position ⟨y, among, named ▸ same⟩
  obtain ⟨present, apart⟩ := List.mem_filter.mp among'
  rw [CollisionTable.detect_of_get? found]
  exact ⟨o, present, by simpa using apart, same', flag⟩

/-- Flags change only between the mover and another actor of the roster. -/
theorem CollisionTable.colliding_detect_of_ne
    (apart : ∀ other ∈ r.ids, other ≠ mover → pair ≠ .of mover other) :
    (t.detect r mover).2.colliding pair = t.colliding pair :=
  congrArg (Option.getD · false) (CollisionTable.flag?_detect_of_ne apart)

/-- **The contacts are the flags that changed.** -/
theorem CollisionTable.mem_detect (nodup : r.ids.Nodup) (found : r.get? mover = some x)
    {c : Contact} :
    c ∈ (t.detect r mover).1 ↔ c.mover = mover ∧ c.other ∈ r.ids ∧ c.other ≠ mover ∧
      Edge.between? (t.colliding (.of mover c.other))
        ((t.detect r mover).2.colliding (.of mover c.other)) = some c.edge := by
  have distinct := nodup.sublist (r.others_sublist mover)
  rw [CollisionTable.detect_of_get? found, CollisionTable.fst_compare distinct,
    List.mem_filterMap]
  constructor
  · rintro ⟨o, mem, contact⟩
    obtain ⟨edge, between, rfl⟩ := Option.map_eq_some_iff.mp contact
    obtain ⟨present, apart⟩ := Roster.mem_others_iff.mp (List.mem_map_of_mem mem)
    refine ⟨rfl, present, apart, ?_⟩
    rw [CollisionTable.colliding_compare_of_mem distinct mem]
    exact between
  · rcases c with ⟨m, other, edge⟩
    rintro ⟨same, present, apart, between⟩
    obtain ⟨o, mem, rfl⟩ := List.mem_map.mp (Roster.mem_others_iff.mpr ⟨present, apart⟩)
    rw [CollisionTable.colliding_compare_of_mem distinct mem] at between
    refine ⟨o, mem, ?_⟩
    obtain rfl : m = mover := same
    rw [CollisionTable.contact?, between, Option.map_some]

theorem Edge.between?_eq_rise {before after : Bool} :
    Edge.between? before after = some .rise ↔ before = false ∧ after = true := by
  cases before <;> cases after <;> decide

theorem Edge.between?_eq_fall {before after : Bool} :
    Edge.between? before after = some .fall ↔ before = true ∧ after = false := by
  cases before <;> cases after <;> decide

end BlockStage
