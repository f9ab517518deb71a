import BlockStage.Proofs.Registry.Edits
import BlockStage.Proofs.Script.Ids
import BlockStage.Proofs.Script.Overlay
import BlockStage.Scenario.Basic

/-!
# What the entries of a scenario stand for

The scripts that a list of entries stands for depend on one number only, the largest that an id
written out has: entries without an id get the numbers after it (`ScriptEntry.Denotes`).
-/

namespace BlockStage

variable {entries : List ScriptEntry} {scripts : List Script} {n : Nat}

/-- The largest number of an id that is written out in a list of entries. -/
def ScriptEntry.largestNumber (entries : List ScriptEntry) : Nat :=
  ScriptId.largest (entries.filterMap explicitId?)

/-- The scripts that entries stand for; those without an id get the numbers after `n`. -/
inductive ScriptEntry.Denotes : (n : Nat) → List ScriptEntry → List Script → Prop
  | nil (n : Nat) : Denotes n [] []
  | full {n : Nat} {entries : List ScriptEntry} {scripts : List Script} (script : Script)
    (rest : Denotes n entries scripts) : Denotes n (.full script :: entries) (script :: scripts)
  | named {n : Nat} {entries : List ScriptEntry} {scripts : List Script} {script : Script}
    {block : Block} {id : ScriptId} {params : Params none}
    (overlaid : block.Overlaid id params script) (rest : Denotes n entries scripts) :
    Denotes n (.palette block.tag (some id) params :: entries) (script :: scripts)
  | minted {n : Nat} {entries : List ScriptEntry} {scripts : List Script} {script : Script}
    {block : Block} {params : Params none}
    (overlaid : block.Overlaid (.numbered (n + 1)) params script) (room : n + 1 < idBound)
    (rest : Denotes (n + 1) entries scripts) :
    Denotes n (.palette block.tag none params :: entries) (script :: scripts)

/-- The script of one entry, and the numbers left for those after it. -/
theorem ScriptEntry.denotes_cons {entry : ScriptEntry} {script : Script} {ids : IdAllocator}
    (denoted : entry.script (.past n) = .ok (script, ids)) :
    ∃ k, ids = .past k ∧ ∀ {entries scripts}, Denotes k entries scripts →
      Denotes n (entry :: entries) (script :: scripts) := by
  rw [ScriptEntry.script.eq_def] at denoted
  split at denoted
  · cases denoted
    exact ⟨n, rfl, fun rest => .full script rest⟩
  · next tag id params =>
    split at denoted
    · cases denoted
    · next block known =>
      obtain rfl := Block.tag_of_ofTag known
      split at denoted
      · next id =>
        cases denoted
        exact ⟨n, rfl, fun rest => .named (block.overlaid_instantiate id params) rest⟩
      · rw [IdAllocator.allocate_past] at denoted
        by_cases room : n + 1 < idBound
        · rw [if_pos room] at denoted
          cases denoted
          exact ⟨n + 1, rfl, fun rest =>
            .minted (block.overlaid_instantiate _ params) room rest⟩
        · rw [if_neg room] at denoted
          cases denoted

/-- Whether an entry leaves its id to the allocator. -/
def ScriptEntry.mints : ScriptEntry → Bool
  | .palette _ none _ => true
  | .full _ | .palette _ (some _) _ => false

/-- The ids that the scripts of entries without an id have. -/
def ScriptEntry.allocatedIds (entries : List ScriptEntry) (scripts : List Script) : List ScriptId :=
  ((entries.zip scripts).filter (·.1.mints)).map (·.2.id)

namespace ScriptEntry.Denotes

/-- **The ids that are left to the allocator get one number after another.** -/
theorem id_minted (denotes : Denotes n entries scripts) {i : Nat} {entry : ScriptEntry}
    {script : Script} (here : entries[i]? = some entry) (mints : entry.mints = true)
    (found : scripts[i]? = some script) :
    script.id = .numbered (n + (entries.take i).countP ScriptEntry.mints + 1) ∧
      n + (entries.take i).countP ScriptEntry.mints + 1 < idBound := by
  induction denotes generalizing i with
  | nil => cases here
  | full first rest ih | named overlaid rest ih =>
      cases i with
      | zero =>
          cases here
          cases mints
      | succ i =>
          rw [List.take_succ_cons, List.countP_cons_of_neg (by simp [ScriptEntry.mints])]
          exact ih here found
  | @minted n _ _ script _ _ overlaid room rest ih =>
      cases i with
      | zero =>
          obtain rfl := Option.some.inj found
          rw [List.take_zero, List.countP_nil, Nat.add_zero]
          exact ⟨overlaid.id, room⟩
      | succ i =>
          rw [List.take_succ_cons, List.countP_cons_of_pos (by rfl), ← Nat.add_assoc,
            Nat.add_right_comm n]
          exact ih here found

/-- Allocated ids have the numbers after `n`, in order. -/
theorem allocatedIds_eq (denotes : Denotes n entries scripts) :
    allocatedIds entries scripts =
      (List.range' (n + 1) (entries.countP mints)).map .numbered := by
  induction denotes with
  | nil => rfl
  | full script rest ih | named overlaid rest ih =>
      rw [List.countP_cons_of_neg (by simp [mints]), ← ih]
      rfl
  | minted overlaid room rest ih =>
      rw [List.countP_cons_of_pos (by rfl), List.range'_succ, List.map_cons, ← ih, ← overlaid.id]
      rfl

theorem mem_allocatedIds (denotes : Denotes n entries scripts) {id : ScriptId} :
    id ∈ allocatedIds entries scripts ↔
      ∃ k, n < k ∧ k ≤ n + entries.countP mints ∧ .numbered k = id := by
  rw [denotes.allocatedIds_eq, List.mem_map]
  refine exists_congr fun k => ?_
  rw [List.mem_range'_1, ← and_assoc]
  exact and_congr_left fun _ => by omega

theorem nodup_allocatedIds (denotes : Denotes n entries scripts) :
    (allocatedIds entries scripts).Nodup := by
  rw [denotes.allocatedIds_eq]
  exact List.Nodup.map ScriptId.numbered_injective List.nodup_range'

/-- There is room for all of these numbers. -/
theorem lt_idBound (denotes : Denotes n entries scripts) {k : Nat} (past : n < k)
    (within : k ≤ n + entries.countP mints) : k < idBound := by
  induction denotes with
  | nil => exact absurd past (Nat.not_lt_of_le within)
  | full script rest ih | named overlaid rest ih =>
      rw [List.countP_cons_of_neg (by simp [mints])] at within
      exact ih past within
  | @minted n _ _ _ _ _ overlaid room rest ih =>
      rw [List.countP_cons_of_pos (by rfl)] at within
      rcases Nat.eq_or_lt_of_le (Nat.succ_le_of_lt past) with rfl | later
      · exact room
      · exact ih later (by omega)

/-- The id of a script is written out, unless it is allocated. -/
theorem explicit_or_allocated (denotes : Denotes n entries scripts) {id : ScriptId}
    (mem : id ∈ Program.ids scripts) :
    id ∈ entries.filterMap explicitId? ∨ id ∈ allocatedIds entries scripts := by
  induction denotes with
  | nil => cases mem
  | full script rest ih =>
      rcases List.mem_cons.mp mem with rfl | mem
      · exact .inl List.mem_cons_self
      · exact (ih mem).imp_left (List.mem_cons_of_mem _)
  | named overlaid rest ih =>
      rcases List.mem_cons.mp mem with rfl | mem
      · exact .inl (overlaid.id ▸ List.mem_cons_self)
      · exact (ih mem).imp_left (List.mem_cons_of_mem _)
  | minted overlaid room rest ih =>
      rcases List.mem_cons.mp mem with rfl | mem
      · exact .inr List.mem_cons_self
      · exact (ih mem).imp_right (List.mem_cons_of_mem _)

/-- An allocated id is past the numbers of the ids that entries have themselves. -/
theorem not_explicit (denotes : Denotes (largestNumber entries) entries scripts) {id : ScriptId}
    (allocated : id ∈ allocatedIds entries scripts) : id ∉ entries.filterMap explicitId? := by
  obtain ⟨k, past, within, rfl⟩ := denotes.mem_allocatedIds.mp allocated
  exact ScriptId.numbered_not_mem past (denotes.lt_idBound past within)

/-- The first entries stand for the first scripts. -/
theorem take (denotes : Denotes n entries scripts) (i : Nat) :
    Denotes n (entries.take i) (scripts.take i) := by
  induction denotes generalizing i with
  | nil n =>
      rw [List.take_nil, List.take_nil]
      exact .nil n
  | full script rest ih =>
      cases i with
      | zero => exact .nil _
      | succ i => exact .full script (ih i)
  | named overlaid rest ih =>
      cases i with
      | zero => exact .nil _
      | succ i => exact .named overlaid (ih i)
  | minted overlaid room rest ih =>
      cases i with
      | zero => exact .nil _
      | succ i => exact .minted overlaid room (ih i)

/-- **An allocated id is not one of an earlier script**, which has its id written out or a lower
number. -/
theorem id_not_mem_take (denotes : Denotes (largestNumber entries) entries scripts) {i : Nat}
    {entry : ScriptEntry} {script : Script} (here : entries[i]? = some entry)
    (mints : entry.mints = true) (found : scripts[i]? = some script) :
    script.id ∉ Program.ids (scripts.take i) := by
  obtain ⟨same, small⟩ := denotes.id_minted here mints found
  have earlier := denotes.take i
  intro mem
  rcases earlier.explicit_or_allocated mem with explicit | allocated
  · have written := ((List.take_sublist i entries).filterMap explicitId?).subset explicit
    have past : largestNumber entries < largestNumber entries +
        (entries.take i).countP ScriptEntry.mints + 1 := by
      omega
    exact ScriptId.numbered_not_mem past small (same ▸ written)
  · obtain ⟨k, -, within, number⟩ := earlier.mem_allocatedIds.mp allocated
    have numbers := ScriptId.numbered_injective (number.trans same)
    omega

end ScriptEntry.Denotes

end BlockStage
