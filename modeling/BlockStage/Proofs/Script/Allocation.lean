import BlockStage.Proofs.Script.Ids
import Mathlib.Data.List.Induction
import Mathlib.Order.Bounds.Basic

/-!
# Allocations go on past the largest number

However observations and allocations are mixed, an allocator is told by one number: the largest one
that it has handed out or that an observed id has, which is zero at first
(`IdAllocator.after_fresh`).  The next number is one more, as long as there is one.  So the numbers
that are handed out grow, and an id that is handed out is none of those observed before, however
these write their numbers: an id has one number at most.
-/

namespace BlockStage

variable {id : ScriptId} {n : Nat}

/-! ## Numbers of ids -/

/-- The id is `script-`, at most one plus sign, and some digits, which make a number of 64 bits. -/
def ScriptId.HasNumber (id : ScriptId) (n : Nat) : Prop :=
  ∃ sign digits : List Char, id.text.toList = "script-".toList ++ (sign ++ digits) ∧
    (sign = [] ∨ sign = ['+']) ∧ digits ≠ [] ∧ (∀ c ∈ digits, c.isDigit = true) ∧
    Nat.ofDigitChars 10 digits 0 = n ∧ n < UInt64.size

/-- What reads as a number: one or more digits, after a plus sign or none. -/
theorem ScriptId.readNat?_eq_some_iff {bound : Nat} {chars : List Char} :
    Decimal.readNat? bound (String.ofList chars) = some n ↔
      ∃ sign digits, chars = sign ++ digits ∧ (sign = [] ∨ sign = ['+']) ∧ digits ≠ [] ∧
        (∀ c ∈ digits, c.isDigit = true) ∧ Nat.ofDigitChars 10 digits 0 = n ∧ n < bound := by
  have reads (digits : List Char) :
      (if digits ≠ [] ∧ digits.all Char.isDigit then
        if Decimal.digitsValue digits < bound then some (Decimal.digitsValue digits) else none
      else none) = some n ↔
        digits ≠ [] ∧ (∀ c ∈ digits, c.isDigit = true) ∧ Nat.ofDigitChars 10 digits 0 = n ∧
          n < bound := by
    rw [Option.ite_none_right_eq_some, Option.ite_none_right_eq_some, List.all_eq_true]
    constructor
    · rintro ⟨⟨some, all⟩, below, value⟩
      cases value
      exact ⟨some, all, rfl, below⟩
    · rintro ⟨some, all, rfl, below⟩
      exact ⟨⟨some, all⟩, below, rfl⟩
  rw [Decimal.readNat?, String.toList_ofList]
  dsimp only
  rw [reads]
  constructor
  · intro read
    split at read
    · next rest => exact ⟨['+'], rest, rfl, .inr rfl, read⟩
    · exact ⟨[], chars, rfl, .inl rfl, read⟩
  · rintro ⟨sign, digits, rfl, unsigned | signed, some, all, read⟩
    · subst unsigned
      rw [List.nil_append]
      split
      · next rest =>
        -- a plus sign is no digit
        cases all '+' List.mem_cons_self
      · exact ⟨some, all, read⟩
    · subst signed
      exact ⟨some, all, read⟩

theorem ScriptId.number?_eq_some_iff : id.number? = some n ↔ id.HasNumber n := by
  rw [number?, Option.ite_none_right_eq_some, readNat?_eq_some_iff, HasNumber]
  constructor
  · rintro ⟨begins, sign, digits, rest, read⟩
    have whole := List.take_append_drop word.length id.text.toList
    rw [begins, rest] at whole
    exact ⟨sign, digits, whole.symm, read⟩
  · rintro ⟨sign, digits, text, read⟩
    rw [text]
    exact ⟨List.take_left, sign, digits, List.drop_left, read⟩

theorem ScriptId.largest_append (ids ids' : List ScriptId) :
    largest (ids ++ ids') = max (largest ids) (largest ids') := by
  induction ids with
  | nil => exact (Nat.zero_max _).symm
  | cons first rest ih =>
      rw [List.cons_append, largest_cons, ih, largest_cons, Nat.max_assoc]

theorem ScriptId.largest_singleton (id : ScriptId) : largest [id] = id.number?.getD 0 := by
  rw [largest_cons]
  exact Nat.max_zero _

/-- The largest number is one of the numbers, or zero. -/
theorem ScriptId.isGreatest_largest (ids : List ScriptId) :
    IsGreatest (insert 0 {n | ∃ id ∈ ids, id.number? = some n}) (largest ids) := by
  refine ⟨?_, ?_⟩
  · induction ids with
    | nil => exact .inl rfl
    | cons first rest ih =>
        rw [largest_cons]
        rcases Nat.le_total (first.number?.getD 0) (largest rest) with below | above
        · rw [Nat.max_eq_right below]
          exact ih.imp_right fun ⟨id, mem, number⟩ => ⟨id, List.mem_cons_of_mem _ mem, number⟩
        · rw [Nat.max_eq_left above]
          cases number : first.number? with
          | none => exact .inl rfl
          | some n => exact .inr ⟨first, List.mem_cons_self, number⟩
  · rintro n (rfl | ⟨id, mem, number⟩)
    · exact Nat.zero_le _
    · exact le_largest mem number

/-- Neither their order nor their repetition matters. -/
theorem ScriptId.largest_congr {ids ids' : List ScriptId} (same : ∀ id, id ∈ ids ↔ id ∈ ids') :
    largest ids = largest ids' := by
  refine (isGreatest_largest ids).unique ?_
  simp only [same]
  exact isGreatest_largest ids'

/-! ## Calls -/

namespace IdAllocator

/-- What is asked of an allocator. -/
inductive Call where
  | observe (id : ScriptId)
  | allocate

/-- The allocator after a call. -/
def Call.apply : Call → IdAllocator → IdAllocator
  | .observe id, ids => ids.observe id
  | .allocate, ids => (ids.allocate.map Prod.snd).getD ids

/-- The id that a call hands out, if it does. -/
def Call.answer? (ids : IdAllocator) : Call → Option ScriptId
  | .observe _ => none
  | .allocate => ids.allocate.map Prod.fst

/-- The id that a call shows, if it does. -/
def Call.observed? : Call → Option ScriptId
  | .observe id => some id
  | .allocate => none

/-- The allocator after some calls. -/
def after (ids : IdAllocator) (calls : List Call) : IdAllocator :=
  calls.foldl (fun ids call => call.apply ids) ids

/-- The ids that some calls hand out, in order. -/
def minted : IdAllocator → List Call → List ScriptId
  | _, [] => []
  | ids, call :: rest => (call.answer? ids).toList ++ (call.apply ids).minted rest

/-- The ids that some calls show, in order. -/
def observed (calls : List Call) : List ScriptId := calls.filterMap Call.observed?

theorem after_append (ids : IdAllocator) (first second : List Call) :
    ids.after (first ++ second) = (ids.after first).after second := List.foldl_append

theorem minted_append (ids : IdAllocator) (first second : List Call) :
    ids.minted (first ++ second) = ids.minted first ++ (ids.after first).minted second := by
  induction first generalizing ids with
  | nil => rfl
  | cons call rest ih =>
      rw [List.cons_append, minted, minted, ih, List.append_assoc]
      rfl

theorem observed_append (first second : List Call) :
    observed (first ++ second) = observed first ++ observed second := List.filterMap_append

/-- The ids that some calls show to a fresh allocator or get from it. -/
def known (calls : List Call) : List ScriptId := observed calls ++ fresh.minted calls

/-- One more call makes known what it shows and what it gets. -/
theorem largest_known_append (first second : List Call) :
    ScriptId.largest (known (first ++ second)) =
      max (ScriptId.largest (known first))
        (ScriptId.largest (observed second ++ (fresh.after first).minted second)) := by
  rw [known, observed_append, minted_append, known, ScriptId.largest_append,
    ScriptId.largest_append, ScriptId.largest_append, ScriptId.largest_append,
    ScriptId.largest_append]
  omega

/-- **An allocator is told by the largest number that it knows.** -/
theorem after_fresh (calls : List Call) :
    fresh.after calls = past (ScriptId.largest (known calls)) := by
  induction calls using List.reverseRecOn with
  | nil => exact fresh_eq
  | append_singleton before call ih =>
      have small := ScriptId.largest_lt (known before)
      rw [after_append, largest_known_append, ih]
      generalize ScriptId.largest (known before) = M at small
      cases call with
      | observe id =>
          have shown : observed [.observe id] ++ (past M).minted [.observe id] = [id] := rfl
          rw [shown, ScriptId.largest_singleton]
          exact observe_past small id
      | allocate =>
          show (((past M).allocate.map Prod.snd).getD (past M)) = _
          have gets : observed [.allocate] ++ (past M).minted [.allocate] =
              ((past M).allocate.map Prod.fst).toList := List.append_nil _
          rw [gets, allocate_past]
          by_cases room : M + 1 < idBound
          · rw [if_pos room]
            show past (M + 1) = past (max M (ScriptId.largest [.numbered (M + 1)]))
            rw [ScriptId.largest_singleton, ScriptId.number?_numbered room, Option.getD_some,
              Nat.max_eq_right (Nat.le_succ M)]
          · rw [if_neg room]
            exact congrArg past (Nat.max_zero M).symm

theorem largest_known_le_append (first second : List Call) :
    ScriptId.largest (known first) ≤ ScriptId.largest (known (first ++ second)) := by
  rw [largest_known_append]
  exact Nat.le_max_left _ _

/-- What the next allocation gives. -/
theorem fst_allocate_after (calls : List Call) :
    (fresh.after calls).allocate.map Prod.fst =
      if ScriptId.largest (known calls) + 1 < idBound then
        some (.numbered (ScriptId.largest (known calls) + 1))
      else none := by
  rw [after_fresh, allocate_past]
  split <;> rfl

/-- Observations hand nothing out. -/
theorem minted_observe (ids : IdAllocator) (shown : List ScriptId) :
    ids.minted (shown.map .observe) = [] := by
  induction shown generalizing ids with
  | nil => rfl
  | cons id rest ih => exact ih _

/-- An allocation hands out the next number, if there is one. -/
theorem minted_append_allocate (calls : List Call) :
    fresh.minted (calls ++ [.allocate]) = fresh.minted calls ++
      if ScriptId.largest (known calls) + 1 < idBound then
        [.numbered (ScriptId.largest (known calls) + 1)]
      else [] := by
  have gets : (fresh.after calls).minted [.allocate] =
      ((fresh.after calls).allocate.map Prod.fst).toList := List.append_nil _
  rw [minted_append, gets, fst_allocate_after]
  split <;> rfl

/-- The numbers that are handed out grow. -/
theorem exists_numbers_minted (calls : List Call) :
    ∃ numbers : List Nat, fresh.minted calls = numbers.map .numbered ∧
      numbers.Pairwise (· < ·) ∧
      ∀ n ∈ numbers, n < idBound ∧ n ≤ ScriptId.largest (known calls) := by
  induction calls using List.reverseRecOn with
  | nil => exact ⟨[], rfl, .nil, List.forall_mem_nil _⟩
  | append_singleton before call ih =>
      obtain ⟨numbers, minted, grow, bounded⟩ := ih
      have later := largest_known_le_append before [call]
      have still : ∀ n ∈ numbers,
          n < idBound ∧ n ≤ ScriptId.largest (known (before ++ [call])) :=
        fun n mem => ⟨(bounded n mem).1, (bounded n mem).2.trans later⟩
      cases call with
      | observe id =>
          refine ⟨numbers, ?_, grow, still⟩
          have nothing : (fresh.after before).minted [.observe id] = [] := minted_observe _ [id]
          rw [minted_append, nothing, List.append_nil, minted]
      | allocate =>
          have gets := minted_append_allocate before
          rw [minted] at gets
          by_cases room : ScriptId.largest (known before) + 1 < idBound
          · rw [if_pos room] at gets
            have mem : .numbered (ScriptId.largest (known before) + 1) ∈
                known (before ++ [.allocate]) := by
              rw [known, gets]
              exact List.mem_append_right _ List.mem_concat_self
            refine ⟨numbers ++ [ScriptId.largest (known before) + 1], ?_, ?_, ?_⟩
            · rw [gets, List.map_append]
              rfl
            · refine List.pairwise_append.mpr ⟨grow, List.pairwise_singleton _ _, ?_⟩
              intro n among m new
              rw [List.mem_singleton.mp new]
              exact Nat.lt_succ_of_le (bounded n among).2
            · exact List.forall_mem_append.mpr ⟨still, List.forall_mem_singleton.mpr
                ⟨room, ScriptId.le_largest mem (ScriptId.number?_numbered room)⟩⟩
          · rw [if_neg room, List.append_nil] at gets
            exact ⟨numbers, gets, grow, still⟩

/-- The numbers that some calls hand out, or that ids have which they show. -/
def seen (calls : List Call) : Set Nat :=
  {n | .numbered n ∈ fresh.minted calls ∨ ∃ id ∈ observed calls, id.HasNumber n}

/-- Among the known ids these are the numbers. -/
theorem seen_eq (calls : List Call) :
    seen calls = {n | ∃ id ∈ known calls, id.number? = some n} := by
  obtain ⟨numbers, minted, -, bounded⟩ := exists_numbers_minted calls
  have small (n : Nat) (mem : ScriptId.numbered n ∈ fresh.minted calls) : n < idBound := by
    rw [minted] at mem
    obtain ⟨k, among, same⟩ := List.mem_map.mp mem
    exact ScriptId.numbered_injective same ▸ (bounded k among).1
  ext n
  simp only [seen, Set.mem_ofPred_eq, ← ScriptId.number?_eq_some_iff]
  constructor
  · rintro (handed | ⟨id, shown, number⟩)
    · exact ⟨_, List.mem_append_right _ handed, ScriptId.number?_numbered (small n handed)⟩
    · exact ⟨id, List.mem_append_left _ shown, number⟩
  · rintro ⟨id, mem, number⟩
    rcases List.mem_append.mp mem with shown | handed
    · exact .inr ⟨id, shown, number⟩
    · have handed' := handed
      rw [minted] at handed'
      obtain ⟨k, -, rfl⟩ := List.mem_map.mp handed'
      rw [ScriptId.number?_numbered (small k handed)] at number
      cases number
      exact .inl handed

theorem known_append_observe (calls : List Call) (ids : List ScriptId) :
    known (calls ++ ids.map .observe) = observed calls ++ ids ++ fresh.minted calls := by
  have shows : observed (ids.map .observe) = ids := by
    rw [observed, List.filterMap_map]
    exact List.filterMap_some
  rw [known, observed_append, shows, minted_append, minted_observe, List.append_nil]

/-- **Allocations go on past the largest number.**  After any observations and allocations on a
fresh allocator, let `M` be the largest number that was handed out or that an observed id has, and
zero if there is none: the next allocation gives `script-` and `M + 1`, or nothing if `M` is the
largest number of 64 bits.  So the numbers that are handed out grow and the ids are distinct; the
next id is none of those observed or handed out before; when nothing is left, this remains so; and
observations in another order, or repeated, lead to the same allocator. -/
theorem allocations_go_on_past_largest (calls : List Call) :
    (∃ M, IsGreatest (insert 0 (seen calls)) M ∧ M ≤ UInt64.size - 1 ∧
      (fresh.after calls).allocate.map Prod.fst =
        if M < UInt64.size - 1 then some ⟨"script-" ++ toString (M + 1)⟩ else none) ∧
    (∃ numbers : List Nat, fresh.minted calls = numbers.map .numbered ∧
      numbers.Pairwise (· < ·)) ∧
    (fresh.minted calls).Nodup ∧
    (∀ id next, (fresh.after calls).allocate = some (id, next) →
      id ∉ observed calls ∧ id ∉ fresh.minted calls) ∧
    ((fresh.after calls).allocate = none →
      ∀ later, (fresh.after (calls ++ later)).allocate = none) ∧
    ∀ ids ids' : List ScriptId,
      (∀ id, id ∈ observed calls ++ ids ↔ id ∈ observed calls ++ ids') →
        fresh.after (calls ++ ids.map .observe) = fresh.after (calls ++ ids'.map .observe) := by
  obtain ⟨numbers, minted, grow, -⟩ := exists_numbers_minted calls
  have small := ScriptId.largest_lt (known calls)
  have size : idBound = UInt64.size := rfl
  refine ⟨⟨ScriptId.largest (known calls), ?_, by omega, ?_⟩, ⟨numbers, minted, grow⟩, ?_,
    fun id next given => ?_, fun spent later => ?_, fun ids ids' same => ?_⟩
  · rw [seen_eq]
    exact ScriptId.isGreatest_largest (known calls)
  · rw [fst_allocate_after]
    by_cases room : ScriptId.largest (known calls) < UInt64.size - 1
    · rw [if_pos room, if_pos (by omega)]
      rfl
    · rw [if_neg room, if_neg (by omega)]
  · rw [minted]
    exact (grow.imp Nat.ne_of_lt).map _ fun _ _ => ScriptId.numbered_injective.ne
  · rw [after_fresh, allocate_past, Option.ite_none_right_eq_some] at given
    obtain ⟨room, same⟩ := given
    cases same
    have unknown := ScriptId.numbered_not_mem (Nat.lt_succ_self _) room
    exact ⟨fun shown => unknown (List.mem_append_left _ shown),
      fun handed => unknown (List.mem_append_right _ handed)⟩
  · have later := largest_known_le_append calls later
    rw [after_fresh, allocate_past, ite_eq_right_iff] at spent ⊢
    intro room
    cases spent (by omega)
  · have alike : ScriptId.largest (known (calls ++ ids.map .observe)) =
        ScriptId.largest (known (calls ++ ids'.map .observe)) := by
      rw [known_append_observe, known_append_observe]
      refine ScriptId.largest_congr fun id => ?_
      rw [List.mem_append, same, ← List.mem_append]
    rw [after_fresh, after_fresh, alike]

example :
    fresh.minted [.allocate, .observe ⟨"script-+041"⟩, .observe ⟨"script-x"⟩, .allocate] =
      [⟨"script-1"⟩, ⟨"script-42"⟩] := by
  decide +kernel

end IdAllocator

end BlockStage
