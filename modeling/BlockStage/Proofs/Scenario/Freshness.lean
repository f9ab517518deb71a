import BlockStage.Proofs.Scenario.Authoring
import BlockStage.Proofs.Script.Nesting

/-!
# Are allocated ids fresh?

The ids that entries without one get lie past all numbers of ids that entries write out, so they
differ from these and from each other.  But an entry also writes out the ids of the scripts that are
nested in its parameters, and nobody shows those to the allocator.  So allocated ids are fresh
exactly if none of their numbers is nested (`ScriptEntry.Denotes.fresh_iff`).
-/

namespace BlockStage

variable {entries : List ScriptEntry} {scripts : List Script} {n : Nat}

namespace ScriptEntry

/-- The ids of the scripts in the parameters of an entry, at every depth. -/
def nestedIds : ScriptEntry → List ScriptId
  | .full script => script.params.nestedIds
  | .palette _ _ params => params.nestedIds

/-- All ids that an entry writes out. -/
def writtenIds (entry : ScriptEntry) : List ScriptId := entry.explicitId?.toList ++ entry.nestedIds

/-- Entries write out their own ids and those nested in them. -/
theorem writtenIds_perm (entries : List ScriptEntry) :
    (entries.flatMap writtenIds).Perm
      (entries.filterMap explicitId? ++ entries.flatMap nestedIds) := by
  induction entries with
  | nil => exact .refl []
  | cons entry rest ih =>
      have own : (entry :: rest).filterMap explicitId? =
          entry.explicitId?.toList ++ rest.filterMap explicitId? := by
        rw [List.filterMap_cons]
        cases entry.explicitId? <;> rfl
      rw [List.flatMap_cons, List.flatMap_cons, own, writtenIds, List.append_assoc,
        List.append_assoc]
      exact ((ih.append_left entry.nestedIds).trans
        (List.perm_append_comm_assoc _ _ _)).append_left _

namespace Denotes

/-- Scripts nest what their entries nest. -/
theorem nestedIds_perm (denotes : Denotes n entries scripts) :
    (Program.nestedIds scripts).Perm (entries.flatMap nestedIds) := by
  induction denotes with
  | nil => exact .refl []
  | full script rest ih => exact ih.append_left script.params.nestedIds
  | named overlaid rest ih | minted overlaid room rest ih =>
      exact overlaid.nestedIds_perm.append ih

end Denotes

end ScriptEntry

/-! ## The ids on a stage -/

/-- **The ids of a program that was left of some entries' scripts are distinct exactly if no
allocated one is nested**, provided that the entries write out no id twice. -/
theorem ScriptEntry.Denotes.nodup_allIds_iff (denotes : Denotes n entries scripts)
    {program : Program} (left : program.Sublist scripts) (own : (Program.ids program).Nodup)
    (distinct : (entries.flatMap writtenIds).Nodup) :
    (Program.allIds program).Nodup ↔
      ∀ id ∈ allocatedIds entries scripts, id ∈ Program.ids program →
        id ∉ Program.nestedIds program := by
  have nested : (Program.nestedIds program).Sublist (Program.nestedIds scripts) :=
    left.flatMap _
  obtain ⟨-, nestedDistinct, apart⟩ :=
    List.nodup_append.mp ((writtenIds_perm entries).nodup_iff.mp distinct)
  have nestedOwn : (Program.nestedIds program).Nodup :=
    (denotes.nestedIds_perm.nodup_iff.mpr nestedDistinct).sublist nested
  -- Own ids and nested ones are each distinct already, so all depends on whether they meet.
  rw [(Program.allIds_perm program).nodup_iff, List.nodup_append]
  constructor
  · rintro ⟨-, -, disjoint⟩ id - here within
    exact disjoint id here id within rfl
  · refine fun fresh => ⟨own, nestedOwn, ?_⟩
    rintro id here _ within rfl
    rcases denotes.explicit_or_allocated ((left.map _).subset here) with written | allocated
    · exact apart id written id (denotes.nestedIds_perm.subset (nested.subset within)) rfl
    · exact fresh id allocated here within

/-- **Allocated ids differ from all that is written out exactly if none of their numbers is
nested.** -/
theorem ScriptEntry.Denotes.fresh_iff
    (denotes : Denotes (largestNumber entries) entries scripts) :
    (∀ id ∈ allocatedIds entries scripts, id ∉ entries.flatMap writtenIds) ↔
      ∀ k, largestNumber entries < k → k ≤ largestNumber entries + entries.countP mints →
        .numbered k ∉ entries.flatMap nestedIds := by
  have split (id : ScriptId) : id ∈ entries.flatMap writtenIds ↔
      id ∈ entries.filterMap explicitId? ∨ id ∈ entries.flatMap nestedIds :=
    (writtenIds_perm entries).mem_iff.trans List.mem_append
  constructor
  · intro fresh k past within nested
    have allocated := denotes.mem_allocatedIds.mpr ⟨k, past, within, rfl⟩
    exact fresh _ allocated ((split _).mpr (.inr nested))
  · intro fresh id allocated written
    rcases (split id).mp written with own | nested
    · exact denotes.not_explicit allocated own
    · obtain ⟨k, past, within, rfl⟩ := denotes.mem_allocatedIds.mp allocated
      exact fresh k past within nested

/-- What is known of the ids that a scenario leaves to the allocator. -/
structure Scenario.Allocates (scenario : Scenario) (scripts : List Script) (stage : Stage) :
    Prop where
  denotes :
    ScriptEntry.Denotes (ScriptEntry.largestNumber scenario.scripts) scenario.scripts scripts
  /-- The stage has scripts that the entries stand for. -/
  left : stage.registry.scripts.Sublist scripts
  /-- Allocated ids differ from each other. -/
  distinct : (ScriptEntry.allocatedIds scenario.scripts scripts).Nodup
  /-- They differ from the ids that other entries have. -/
  apart : ∀ id ∈ ScriptEntry.allocatedIds scenario.scripts scripts,
    id ∉ scenario.scripts.filterMap ScriptEntry.explicitId?
  /-- They differ from all ids that are written out, nested ones included, exactly if no nested id
  is made of one of the numbers that are allocated. -/
  fresh_iff :
    (∀ id ∈ ScriptEntry.allocatedIds scenario.scripts scripts,
      id ∉ scenario.scripts.flatMap ScriptEntry.writtenIds) ↔
    ∀ k, ScriptEntry.largestNumber scenario.scripts < k →
      k ≤ ScriptEntry.largestNumber scenario.scripts +
        scenario.scripts.countP ScriptEntry.mints →
      .numbered k ∉ scenario.scripts.flatMap ScriptEntry.nestedIds
  /-- If no id is written out twice, all ids on the stage differ exactly if no allocated id there is
  nested there as well. -/
  nodup_iff : (scenario.scripts.flatMap ScriptEntry.writtenIds).Nodup →
    ((Program.allIds stage.registry.scripts).Nodup ↔
      ∀ id ∈ ScriptEntry.allocatedIds scenario.scripts scripts,
        id ∈ Program.ids stage.registry.scripts →
          id ∉ Program.nestedIds stage.registry.scripts)
  /-- So they do if the allocated ids differ from all that are written out. -/
  nodup_of_fresh : (scenario.scripts.flatMap ScriptEntry.writtenIds).Nodup →
    (∀ id ∈ ScriptEntry.allocatedIds scenario.scripts scripts,
      id ∉ scenario.scripts.flatMap ScriptEntry.writtenIds) →
    (Program.allIds stage.registry.scripts).Nodup

namespace Scenario

/-- **Allocated ids are fresh, but for the nested ones.**  Whenever a stage is built, the ids that
entries without one get differ from each other and from the ids of the other entries.  They differ
from the ids in parameters if and only if none of these is made of one of the numbers allocated, and
on that depends whether all ids on the stage differ. -/
theorem allocates_built_stage (scenario : Scenario) (seed : UInt64) (stage : Stage)
    (built : (scenario.build seed).2 = .ok stage) :
    ∃ scripts, scenario.Allocates scripts stage := by
  obtain ⟨scripts, denotes, -, registry⟩ := denotes_build built
  have firsts : stage.registry.scripts.Sublist (Program.firsts [] scripts) :=
    registry ▸ List.filter_sublist
  have left := firsts.trans (Program.firsts_sublist [] scripts)
  have own : (Program.ids stage.registry.scripts).Nodup :=
    (Program.nodup_firsts [] scripts).sublist (firsts.map _)
  refine ⟨scripts, denotes, left, denotes.nodup_allocatedIds, fun _ => denotes.not_explicit,
    denotes.fresh_iff, denotes.nodup_allIds_iff left own, fun distinct fresh => ?_⟩
  refine (denotes.nodup_allIds_iff left own distinct).mpr fun id allocated _ nested => ?_
  have inEntry := denotes.nestedIds_perm.subset ((left.flatMap _).subset nested)
  exact fresh id allocated <|
    (ScriptEntry.writtenIds_perm _).mem_iff.mpr (List.mem_append_right _ inEntry)

/-- A move without an id, and a repetition of a move with one. -/
def looped (inner : ScriptId) : Scenario where
  seed := none
  starter := true
  actors := []
  select := none
  scripts := [.palette "move" none .nil,
    .full (Block.repetition.instantiate ⟨"loop"⟩ (.ofList [("count", .number 1),
      ("scripts", .scripts [Block.move.instantiate inner .nil])]))]
  removed := []

/-- The ids on a stage differ if the repeated move has the second number. -/
theorem looped_ids_differ : ∃ stage, ((looped ⟨"script-2"⟩).build 0).2 = .ok stage ∧
    (Program.allIds stage.registry.scripts).Nodup := by
  have builds : ((looped ⟨"script-2"⟩).build 0).2.toOption.map (fun _ => ()) = some () := by
    decide +kernel
  obtain ⟨stage, built, -⟩ := exists_built builds
  obtain ⟨scripts, allocates⟩ := allocates_built_stage (looped ⟨"script-2"⟩) 0 stage built
  have distinct : ((looped ⟨"script-2"⟩).scripts.flatMap ScriptEntry.writtenIds).Nodup := by
    decide +kernel
  refine ⟨stage, built, allocates.nodup_of_fresh distinct (allocates.fresh_iff.mpr ?_)⟩
  intro k past within
  have numbers : ScriptEntry.largestNumber (looped ⟨"script-2"⟩).scripts = 0 ∧
      (looped ⟨"script-2"⟩).scripts.countP ScriptEntry.mints = 1 := by
    decide +kernel
  obtain rfl : k = 1 := by omega
  decide +kernel

/-- If it has the first number, the other move gets the same id, though no id is written out
twice. -/
theorem looped_id_is_allocated_again :
    ∃ stage scripts, ((looped ⟨"script-1"⟩).build 0).2 = .ok stage ∧
      ScriptEntry.Denotes (ScriptEntry.largestNumber (looped ⟨"script-1"⟩).scripts)
        (looped ⟨"script-1"⟩).scripts scripts ∧
      ((looped ⟨"script-1"⟩).scripts.flatMap ScriptEntry.writtenIds).Nodup ∧
      (∃ id ∈ ScriptEntry.allocatedIds (looped ⟨"script-1"⟩).scripts scripts,
        id ∈ (looped ⟨"script-1"⟩).scripts.flatMap ScriptEntry.writtenIds) ∧
      ¬ (Program.allIds stage.registry.scripts).Nodup := by
  have checked : ((looped ⟨"script-1"⟩).build 0).2.toOption.map
      (fun stage => decide (Program.allIds stage.registry.scripts).Nodup) = some false := by
    decide +kernel
  obtain ⟨stage, built, clash⟩ := exists_built checked
  obtain ⟨scripts, denotes, -⟩ := denotes_build built
  have allocated : ScriptId.numbered 1 ∈
      ScriptEntry.allocatedIds (looped ⟨"script-1"⟩).scripts scripts :=
    denotes.mem_allocatedIds.mpr ⟨1, by decide +kernel, by decide +kernel, rfl⟩
  exact ⟨stage, scripts, built, denotes, by decide +kernel,
    ⟨.numbered 1, allocated, by decide +kernel⟩, of_decide_eq_false clash⟩

end Scenario

end BlockStage
