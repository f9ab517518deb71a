import BlockStage.Proofs.Scenario.Histories

/-!
# Which scenarios fail, and how

A scenario fails before anything is authored, if it selects an actor that it does not have or has
scripts but no actor at all, or at the first of its entries that fails.  An entry fails if the
palette does not have its block, or if it needs a number when the last one is taken; which numbers
are taken depends on all ids that are written out, those of later entries included, and on the
numbers allocated before (`ScriptEntry.Fails`, `Scenario.Fails`).  Nothing else makes a scenario
fail.
-/

namespace BlockStage

variable {s t : Stage} {entry : ScriptEntry} {entries rest : List ScriptEntry} {n i : Nat}
  {e : ScenarioError}

/-! ## Entries -/

namespace ScriptEntry

/-- How an entry fails when all numbers up to `n` are taken. -/
inductive Fails (n : Nat) : ScriptEntry → ScenarioError → Prop
  /-- Its block is not on the palette; that is found out before an id is taken. -/
  | unknownBlock {tag : String} {id : Option ScriptId} {params : Params none}
    (unknown : ∀ block : Block, block.tag ≠ tag) :
    Fails n (.palette tag id params) (.unknownBlock ⟨tag⟩)
  /-- It needs a number, and the last one is taken. -/
  | idsExhausted {tag : String} {params : Params none} {block : Block} (known : block.tag = tag)
    (last : n = idBound - 1) : Fails n (.palette tag none params) (.idsExhausted block)

/-- How the entry at a place fails if none before it does: the numbers up to `n` were taken before,
and each entry without an id has taken one more. -/
def FailsAt (n : Nat) (entries : List ScriptEntry) (i : Nat) (e : ScenarioError) : Prop :=
  ∃ entry, entries[i]? = some entry ∧ entry.Fails (n + (entries.take i).countP mints) e

/-- The first entry that fails does so with `e`. -/
def FailsFirst (n : Nat) (entries : List ScriptEntry) (e : ScenarioError) : Prop :=
  ∃ i, FailsAt n entries i e ∧ ∀ j < i, ∀ other, ¬ FailsAt n entries j other

theorem failsAt_zero : FailsAt n (entry :: rest) 0 e ↔ entry.Fails n e := by
  constructor
  · rintro ⟨first, here, fails⟩
    cases here
    exact fails
  · exact fun fails => ⟨entry, rfl, fails⟩

theorem failsAt_succ : FailsAt n (entry :: rest) (i + 1) e ↔
    FailsAt (n + if entry.mints then 1 else 0) rest i e := by
  rw [FailsAt, FailsAt, List.take_succ_cons, List.countP_cons, Nat.add_assoc,
    Nat.add_comm (if entry.mints = true then 1 else 0)]
  exact Iff.rfl

theorem not_failsFirst_nil : ¬ FailsFirst n [] e := by
  rintro ⟨i, ⟨entry, here, -⟩, -⟩
  cases here

/-- The first failure is that of the first entry, or if it has none, the first of the rest. -/
theorem failsFirst_cons : FailsFirst n (entry :: rest) e ↔
    entry.Fails n e ∨ (∀ other, ¬ entry.Fails n other) ∧
      FailsFirst (n + if entry.mints then 1 else 0) rest e := by
  constructor
  · rintro ⟨i, fails, first⟩
    cases i with
    | zero => exact .inl (failsAt_zero.mp fails)
    | succ i =>
        refine .inr ⟨fun other here => first 0 i.succ_pos other (failsAt_zero.mpr here), i,
          failsAt_succ.mp fails, fun j below other earlier => ?_⟩
        exact first (j + 1) (Nat.succ_lt_succ below) other (failsAt_succ.mpr earlier)
  · rintro (fails | ⟨passes, i, fails, first⟩)
    · exact ⟨0, failsAt_zero.mpr fails, fun j below => absurd below j.not_lt_zero⟩
    · refine ⟨i + 1, failsAt_succ.mpr fails, fun j below other earlier => ?_⟩
      cases j with
      | zero => exact passes other (failsAt_zero.mp earlier)
      | succ j => exact first j (Nat.lt_of_succ_lt_succ below) other (failsAt_succ.mp earlier)

end ScriptEntry

theorem Block.ofTag_tag (block : Block) : Block.ofTag block.tag = .ok block := by
  rw [Block.ofTag, Block.ofTag?_tag]

theorem Block.ofTag_of_unknown {tag : String} (unknown : ∀ block : Block, block.tag ≠ tag) :
    Block.ofTag tag = .error ⟨tag⟩ := by
  have absent : Block.ofTag? tag = none := by
    rw [Block.ofTag?, List.find?_eq_none]
    exact fun block _ => by simpa using unknown block
  rw [Block.ofTag, absent]

theorem Block.tag_injective {block other : Block} (same : block.tag = other.tag) :
    block = other := by
  have found := Block.ofTag?_tag block
  rw [same, Block.ofTag?_tag] at found
  exact (Option.some.inj found).symm

/-- A block of the palette without an id takes the next number, if there is one. -/
theorem ScriptEntry.script_of_minted (n : Nat) (block : Block) (params : Params none) :
    ScriptEntry.script (.past n) (.palette block.tag none params) =
      if n + 1 < idBound then .ok (block.instantiate (.numbered (n + 1)) params, .past (n + 1))
      else .error (.idsExhausted block) := by
  rw [ScriptEntry.script, Block.ofTag_tag]
  dsimp only
  rw [IdAllocator.allocate_past]
  by_cases room : n + 1 < idBound
  · rw [if_pos room, if_pos room]
  · rw [if_neg room, if_neg room]

/-- **An entry fails in one way, or it has a script and leaves the numbers to those after it.** -/
theorem ScriptEntry.script_cases (room : n < idBound) (entry : ScriptEntry) :
    (∃ e, entry.script (.past n) = .error e ∧ ∀ other, entry.Fails n other ↔ other = e) ∨
    ∃ script, (∀ other, ¬ entry.Fails n other) ∧
      (n + if entry.mints then 1 else 0) < idBound ∧
      entry.script (.past n) = .ok (script, .past (n + if entry.mints then 1 else 0)) := by
  cases entry with
  | full script => exact .inr ⟨script, nofun, room, rfl⟩
  | palette tag id params =>
      by_cases unknown : ∀ block : Block, block.tag ≠ tag
      · refine .inl ⟨.unknownBlock ⟨tag⟩, ?_, fun other => ⟨fun fails => ?_, ?_⟩⟩
        · rw [ScriptEntry.script, Block.ofTag_of_unknown unknown]
        · cases fails with
          | unknownBlock _ => rfl
          | idsExhausted known _ => exact absurd known (unknown _)
        · rintro rfl
          exact .unknownBlock unknown
      · push Not at unknown
        obtain ⟨block, rfl⟩ := unknown
        cases id with
        | some id =>
            refine .inr ⟨block.instantiate id params, fun other fails => ?_, room, ?_⟩
            · cases fails with
              | unknownBlock unknown => exact unknown block rfl
            · rw [ScriptEntry.script, Block.ofTag_tag]
              rfl
        | none =>
            by_cases last : n = idBound - 1
            · refine .inl ⟨.idsExhausted block, ?_, fun other => ⟨fun fails => ?_, ?_⟩⟩
              · rw [script_of_minted, if_neg (by omega)]
              · cases fails with
                | unknownBlock unknown => exact absurd rfl (unknown block)
                | idsExhausted known _ => rw [Block.tag_injective known]
              · rintro rfl
                exact .idsExhausted rfl last
            · refine .inr ⟨block.instantiate (.numbered (n + 1)) params, fun other fails => ?_,
                by simp only [mints, if_true]; omega, ?_⟩
              · cases fails with
                | unknownBlock unknown => exact unknown block rfl
                | idsExhausted _ last' => exact last last'
              · rw [script_of_minted, if_pos (by omega)]
                rfl

/-- **Authoring fails exactly with the failure of the first entry that has one.** -/
theorem Scenario.author_error_iff (room : n < idBound) :
    (author entries (.past n) s).2 = .error e ↔ ScriptEntry.FailsFirst n entries e := by
  induction entries generalizing n s with
  | nil => exact ⟨nofun, fun fails => absurd fails ScriptEntry.not_failsFirst_nil⟩
  | cons entry rest ih =>
      rw [author, ScriptEntry.failsFirst_cons]
      rcases entry.script_cases room with ⟨f, fails, only⟩ | ⟨script, passes, room, has⟩
      · rw [fails, only]
        have stuck : ¬ ∀ other, ¬ entry.Fails n other := fun none => none f ((only f).mpr rfl)
        constructor
        · intro same
          cases same
          exact .inl rfl
        · rintro (rfl | ⟨none, -⟩)
          · rfl
          · exact absurd none stuck
      · rw [has]
        dsimp only
        have later : (author rest (.past (n + if entry.mints then 1 else 0))
            (s.submit script).2).2 = .error e ↔ _ := ih room
        constructor
        · intro failed
          refine .inr ⟨passes, later.mp ?_⟩
          split at failed <;> next submitted => rw [submitted]; exact failed
        · rintro (fails | ⟨-, fails⟩)
          · exact absurd fails (passes e)
          · have failed := later.mpr fails
            split <;> next submitted => rw [submitted] at failed; exact failed

/-! ## Scenarios -/

/-- Whether a scenario has an actor of this id, which are `sprite1` and so on. -/
def Scenario.Has (scenario : Scenario) (id : ActorId) : Prop :=
  0 < id.index.toNat ∧ id.index.toNat ≤ scenario.actorCount

/-- While there are fewer actors than ids, the first ids are the first numbers. -/
theorem ActorId.mem_firsts_iff {id : ActorId} (few : n < UInt32.size) :
    id ∈ ActorId.firsts n ↔ 0 < id.index.toNat ∧ id.index.toNat ≤ n := by
  rw [ActorId.firsts, List.mem_map]
  constructor
  · rintro ⟨k, below, rfl⟩
    have below := List.mem_range.mp below
    show 0 < (UInt32.ofNat (k + 1)).toNat ∧ (UInt32.ofNat (k + 1)).toNat ≤ n
    rw [UInt32.toNat_ofNat_of_lt' (by omega)]
    omega
  · rintro ⟨positive, within⟩
    refine ⟨id.index.toNat - 1, List.mem_range.mpr (by omega), ?_⟩
    rw [Nat.sub_add_cancel positive, UInt32.ofNat_toNat]

/-- How a scenario fails. -/
inductive Scenario.Fails (scenario : Scenario) : ScenarioError → Prop
  /-- It selects an actor that it does not have. -/
  | unknownActor {id : ActorId} (selects : scenario.select = some id) (absent : ¬ scenario.Has id) :
    Fails scenario (.unknownActor id)
  /-- It has scripts, but no actor to author them on. -/
  | noActors (selects : ∀ id, scenario.select = some id → scenario.Has id)
    (scripts : scenario.scripts ≠ []) (nobody : scenario.actorCount = 0) : Fails scenario .noActors
  /-- One of its entries fails, when the numbers of all ids that are written out are taken. -/
  | entry (selects : ∀ id, scenario.select = some id → scenario.Has id)
    (somebody : scenario.actorCount ≠ 0) {e : ScenarioError}
    (fails : ScriptEntry.FailsFirst (ScriptEntry.largestNumber scenario.scripts)
      scenario.scripts e) : Fails scenario e

namespace Scenario

/-- The scripts of a scenario on a stage where somebody is selected if anybody is there. -/
theorem authorScripts_error_iff {scenario : Scenario}
    (selected : s.selected = none ↔ scenario.actorCount = 0) :
    (scenario.authorScripts s).2 = .error e ↔
      (scenario.scripts ≠ [] ∧ scenario.actorCount = 0 ∧ e = .noActors) ∨
      (scenario.actorCount ≠ 0 ∧
        ScriptEntry.FailsFirst (ScriptEntry.largestNumber scenario.scripts)
          scenario.scripts e) := by
  rw [authorScripts, allocator_eq]
  simp only [List.isEmpty_iff, Option.isNone_iff_eq_none, selected]
  by_cases none : scenario.scripts = []
  · rw [if_pos none, none]
    constructor
    · intro same
      cases same
    · rintro (⟨some, -⟩ | ⟨-, fails⟩)
      · exact absurd rfl some
      · exact absurd fails ScriptEntry.not_failsFirst_nil
  · rw [if_neg none]
    by_cases nobody : scenario.actorCount = 0
    · rw [if_pos nobody]
      refine ⟨fun same => ?_, ?_⟩
      · cases same
        exact .inl ⟨none, nobody, rfl⟩
      · rintro (⟨-, -, rfl⟩ | ⟨somebody, -⟩)
        · rfl
        · exact absurd nobody somebody
    · have room : ScriptEntry.largestNumber scenario.scripts < idBound := ScriptId.largest_lt _
      rw [if_neg nobody, author_error_iff room]
      refine ⟨fun fails => .inr ⟨nobody, fails⟩, ?_⟩
      rintro (⟨-, nobody', -⟩ | ⟨-, fails⟩)
      · exact absurd nobody' nobody
      · exact fails

theorem build_of_prepare_ok {scenario : Scenario} {seed : UInt64}
    (prepared : scenario.prepare seed = .ok s) :
    (scenario.build seed).2 = .error e ↔ (scenario.authorScripts s).2 = .error e := by
  rw [build, prepared]
  dsimp only
  rcases scenario.authorScripts s with ⟨warnings, failed | authored⟩
  · exact Iff.rfl
  · constructor <;>
    · intro same
      cases same

/-- **A scenario fails exactly when it should, and with its first failure.**  Building gives an
error if and only if it is the failure of the scenario, and a stage if there is none; actors can
always be set up. -/
theorem fails_with_first_failure (scenario : Scenario) (seed : UInt64)
    (few : scenario.actorCount < UInt32.size - 1) :
    (∀ e, (scenario.build seed).2 = .error e ↔ scenario.Fails e) ∧
      ((∀ e, ¬ scenario.Fails e) → ∃ stage, (scenario.build seed).2 = .ok stage) ∧
      ∀ stage, ∃ next, setUpActors scenario.actors stage = .ok next := by
  have ids (id : ActorId) : id ∈ ActorId.firsts scenario.actorCount ↔ scenario.Has id :=
    ActorId.mem_firsts_iff (by omega)
  have exactly (e : ScenarioError) : (scenario.build seed).2 = .error e ↔ scenario.Fails e := by
    rcases scenario.prepare_cases seed with
      ⟨id, selects, absent, failed⟩ | ⟨present, operations, prepared, selected⟩
    · rw [ids] at absent
      have built : (scenario.build seed).2 = .error (.unknownActor id) := by
        rw [build, failed]
      rw [built]
      constructor
      · intro same
        cases same
        exact .unknownActor selects absent
      · rintro (⟨selects', -⟩ | ⟨present, -, -⟩ | ⟨present, -, -⟩)
        · rw [selects] at selects'
          cases selects'
          rfl
        all_goals exact absurd (present id selects) absent
    · have present (id : ActorId) (selects : scenario.select = some id) : scenario.Has id :=
        (ids id).mp (present id selects)
      rw [build_of_prepare_ok prepared, authorScripts_error_iff selected]
      constructor
      · rintro (⟨some, nobody, rfl⟩ | ⟨somebody, fails⟩)
        · exact .noActors present some nobody
        · exact .entry present somebody fails
      · rintro (⟨selects, absent⟩ | ⟨-, some, nobody⟩ | ⟨-, somebody, fails⟩)
        · exact absurd (present _ selects) absent
        · exact .inl ⟨some, nobody, rfl⟩
        · exact .inr ⟨somebody, fails⟩
  refine ⟨exactly, fun sound => ?_, fun stage => ?_⟩
  · cases built : (scenario.build seed).2 with
    | error e => exact absurd ((exactly e).mp built) (sound e)
    | ok stage => exact ⟨stage, rfl⟩
  · obtain ⟨operations, setUp, -⟩ := setUpActors_eq scenario.actors stage
    exact ⟨_, setUp⟩

/-- Two blocks without an id before a script whose id has the last number but one. -/
def lastNumbers : Scenario where
  seed := none
  starter := false
  actors := [⟨some 7, none, none⟩]
  select := some ⟨1⟩
  scripts := [.palette "move" none .nil, .palette "say" none .nil,
    .full (Block.move.instantiate ⟨"script-18446744073709551614"⟩ .nil),
    .palette "dance" none .nil]
  removed := [⟨"unknown"⟩]

/-- The first of them gets the last number, so there is none for the second; the unknown block
comes too late. -/
theorem last_numbers_are_exhausted :
    lastNumbers.actorCount < UInt32.size - 1 ∧
      (lastNumbers.build 0).2 = .error (.idsExhausted .say) := by
  have few : lastNumbers.actorCount < UInt32.size - 1 := by decide
  refine ⟨few, ((fails_with_first_failure lastNumbers 0 few).1 _).mpr ?_⟩
  refine .entry ?_ (by decide) ⟨1, ⟨_, rfl, .idsExhausted rfl (by decide +kernel)⟩, ?_⟩
  · rintro id selects
    cases selects
    exact ⟨by decide, by decide⟩
  · rintro j below other ⟨entry, here, fails⟩
    obtain rfl := Nat.lt_one_iff.mp below
    cases here
    cases fails with
    | unknownBlock unknown => exact unknown .move rfl
    | idsExhausted _ last => exact absurd last (by decide +kernel)

end Scenario

end BlockStage
