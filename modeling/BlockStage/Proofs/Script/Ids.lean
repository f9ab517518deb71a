import BlockStage.Script.Ids

/-!
# Fresh ids are fresh

An id that the allocator hands out reads as the number it was made of
(`ScriptId.number?_numbered`), so two of them differ, and one past the largest number seen differs
from all ids seen.  What an allocator knows is only that largest number (`IdAllocator.past`).
-/

namespace BlockStage

namespace ScriptId

variable {id : ScriptId} {ids : List ScriptId} {m n : Nat}

/-! ## Numbers of ids -/

theorem toList_text_numbered (n : Nat) : (numbered n).text.toList = word ++ Nat.toDigits 10 n := by
  rw [numbered, String.toList_append, Nat.toString_eq_repr, Nat.toList_repr]
  rfl

/-- A number is read back as it was written. -/
theorem readNat?_toDigits {bound : Nat} (small : n < bound) :
    Decimal.readNat? bound (String.ofList (Nat.toDigits 10 n)) = some n := by
  have digits : ∀ c ∈ Nat.toDigits 10 n, c.isDigit = true := fun c mem =>
    Nat.isDigit_of_mem_toDigits (by decide) (by decide) mem
  have value : Decimal.digitsValue (Nat.toDigits 10 n) = n := Nat.ofDigitChars_ten_toDigits
  rw [Decimal.readNat?, String.toList_ofList]
  generalize written : Nat.toDigits 10 n = chars at digits value
  have nonempty : chars ≠ [] := written ▸ Nat.toDigits_ne_nil
  split
  · cases digits '+' List.mem_cons_self
  · rw [if_pos ⟨nonempty, List.all_eq_true.mpr digits⟩, value, if_pos small]

/-- What is read lies below the bound. -/
theorem lt_of_readNat? {bound : Nat} {text : String} (read : Decimal.readNat? bound text = some n) :
    n < bound := by
  rw [Decimal.readNat?] at read
  dsimp only at read
  rw [Option.ite_none_right_eq_some, Option.ite_none_right_eq_some] at read
  obtain ⟨-, below, value⟩ := read
  exact Option.some.inj value ▸ below

theorem number?_numbered (small : n < idBound) : (numbered n).number? = some n := by
  rw [number?, toList_text_numbered, List.take_left, List.drop_left, if_pos rfl]
  exact readNat?_toDigits small

/-- Numbers have 64 bits. -/
theorem number?_lt (number : id.number? = some n) : n < idBound := by
  rw [number?] at number
  rw [Option.ite_none_right_eq_some] at number
  exact lt_of_readNat? number.2

theorem numbered_injective : Function.Injective numbered := by
  intro m n same
  have texts := congrArg (fun id => id.text.toList) same
  simp only [toList_text_numbered] at texts
  have values := congrArg (fun digits => Nat.ofDigitChars 10 digits 0)
    (List.append_cancel_left texts)
  simpa only [Nat.ofDigitChars_ten_toDigits] using values

/-- The largest number among ids, 0 if none has a number. -/
def largest (ids : List ScriptId) : Nat := (ids.filterMap number?).foldr max 0

theorem largest_cons (id : ScriptId) (ids : List ScriptId) :
    largest (id :: ids) = max (id.number?.getD 0) (largest ids) := by
  rw [largest, List.filterMap_cons]
  cases id.number? with
  | none => exact (Nat.zero_max _).symm
  | some n => rfl

theorem le_largest (mem : id ∈ ids) (number : id.number? = some n) : n ≤ largest ids := by
  induction ids with
  | nil => cases mem
  | cons first rest ih =>
      rw [largest_cons]
      rcases List.mem_cons.mp mem with rfl | mem
      · rw [number]
        exact Nat.le_max_left _ _
      · exact Nat.le_trans (ih mem) (Nat.le_max_right _ _)

/-- The largest number has 64 bits as well. -/
theorem largest_lt (ids : List ScriptId) : largest ids < idBound := by
  induction ids with
  | nil => decide
  | cons id rest ih =>
      rw [largest_cons]
      refine Nat.max_lt.mpr ⟨?_, ih⟩
      cases number : id.number? with
      | none => decide
      | some n => exact number?_lt number

/-- An id past the largest number is not among the ids. -/
theorem numbered_not_mem (past : largest ids < n) (small : n < idBound) : numbered n ∉ ids :=
  fun mem => Nat.not_le_of_lt past (le_largest mem (number?_numbered small))

end ScriptId

/-! ## What an allocator knows -/

namespace IdAllocator

variable {m n : Nat}

/-- An allocator that has seen numbers up to `n`, and `n` itself. -/
def past (n : Nat) : IdAllocator := ⟨successor n⟩

theorem fresh_eq : fresh = past 0 := by decide

theorem allocate_past (n : Nat) :
    (past n).allocate =
      if n + 1 < idBound then some (.numbered (n + 1), past (n + 1)) else none := by
  rw [allocate, past, successor]
  split <;> rfl

theorem observe_past (small : n < idBound) (id : ScriptId) :
    (past n).observe id = past (max n (id.number?.getD 0)) := by
  cases number : id.number? with
  | none =>
      rw [observe, number, Option.getD_none, Nat.max_zero]
  | some k =>
      have below := ScriptId.number?_lt number
      rw [Option.getD_some, observe, number, past, successor]
      by_cases room : n + 1 < idBound
      · rw [if_pos room]
        dsimp only
        by_cases jumps : n + 1 ≤ k
        · rw [if_pos jumps, Nat.max_eq_right (Nat.le_of_succ_le jumps), past]
        · rw [if_neg jumps, Nat.max_eq_left (by omega), past, successor, if_pos room]
      · rw [if_neg room, Nat.max_eq_left (by omega), past, successor, if_neg room]

/-- **After some ids an allocator goes on past the largest of their numbers.** -/
theorem foldl_observe (small : n < idBound) (ids : List ScriptId) :
    ids.foldl observe (past n) = past (max n (ScriptId.largest ids)) := by
  induction ids generalizing n with
  | nil => rw [List.foldl_nil, ScriptId.largest, List.filterMap_nil, List.foldr_nil, Nat.max_zero]
  | cons id rest ih =>
      have below : max n (id.number?.getD 0) < idBound := by
        cases number : id.number? with
        | none => simpa using small
        | some k => exact Nat.max_lt.mpr ⟨small, ScriptId.number?_lt number⟩
      rw [List.foldl_cons, observe_past small, ih below, ScriptId.largest_cons, Nat.max_assoc]

end IdAllocator

end BlockStage
