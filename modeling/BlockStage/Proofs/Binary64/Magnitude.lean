import BlockStage.Proofs.Binary64.Order
import BlockStage.Proofs.Binary64.Rounding
import BlockStage.Proofs.Binary64.Sign

/-!
# How large doubles are

Of a double that is finite it is told below which power of two it lies (`Binary64.Below`), of one
that is positive as well which power of two it reaches (`Binary64.Between`).  Comparisons pass these
bounds on: what reaches a positive number is as large (`Binary64.Between.of_le`), and what does not
reach past one is as small (`Binary64.Between.of_ge`).
-/

namespace BlockStage.Binary64

open Float.Model Float.Model.UnpackedFloat

variable {x y : Float} {a b : Nat} {l h l' h' : Int} {m n : Nat} {e f : Int} {s t : Sign}

/-- Whether a double is finite and, its sign aside, less than `2 ^ a`. -/
def Below (a : Nat) (x : Float) : Prop :=
  (∃ s, x.toModel.unpack = .zero s) ∨
    ∃ s m e pos, x.toModel.unpack = .finite s m e pos ∧ totalExponent m e ≤ a

/-- Whether a double is positive, at least `2 ^ (l - 1)` and less than `2 ^ h`. -/
def Between (l h : Int) (x : Float) : Prop :=
  ∃ m e pos, x.toModel.unpack = .finite .positive m e pos ∧
    l ≤ totalExponent m e ∧ totalExponent m e ≤ h

theorem Below.mono (below : Below a x) (le : a ≤ b) : Below b x := by
  rcases below with zero | ⟨s, m, e, pos, parts, size⟩
  · exact .inl zero
  · exact .inr ⟨s, m, e, pos, parts, by omega⟩

theorem Between.mono (between : Between l h x) (low : l' ≤ l) (high : h ≤ h') :
    Between l' h' x := by
  obtain ⟨m, e, pos, parts, above, below⟩ := between
  exact ⟨m, e, pos, parts, by omega, by omega⟩

theorem Between.below (between : Between l h x) (le : h ≤ a) : Below a x := by
  obtain ⟨m, e, pos, parts, -, below⟩ := between
  exact .inr ⟨_, m, e, pos, parts, by omega⟩

theorem Below.not_isNaN (below : Below a x) : x.isNaN = false := by
  show x.toModel.unpack.isNaN = false
  rcases below with ⟨s, parts⟩ | ⟨s, m, e, pos, parts, -⟩ <;> rw [parts] <;> rfl

theorem Below.not_isInf (below : Below a x) : x.isInf = false := by
  show x.toModel.unpack.isInf = false
  rcases below with ⟨s, parts⟩ | ⟨s, m, e, pos, parts, -⟩ <;> rw [parts] <;> rfl

theorem Below.neg (below : Below a x) : Below a (-x) := by
  rcases below with ⟨s, parts⟩ | ⟨s, m, e, pos, parts, size⟩
  · exact .inl ⟨-s, by rw [unpack_neg, parts]; rfl⟩
  · exact .inr ⟨-s, m, e, pos, by rw [unpack_neg, parts]; rfl, size⟩

theorem Between.not_isNaN (between : Between l h x) : x.isNaN = false :=
  (between.below (Int.self_le_toNat h)).not_isNaN

theorem Below.abs (below : Below a x) : Below a x.abs := by
  rcases abs_eq_or_eq_neg x with same | negated
  · rwa [same]
  · rw [negated]
    exact below.neg

/-! ## What the order says -/

/-- A larger positive number has no smaller total exponent. -/
theorem totalExponent_le_of_le {pos : 0 < m} {pos' : 0 < n}
    (left : x.toModel.unpack = .finite .positive m e pos)
    (right : y.toModel.unpack = .finite .positive n f pos') (le : x ≤ y) :
    totalExponent m e ≤ totalExponent n f := by
  have canonical := canonical_iff.mp (canonical_of_unpack left).1
  have canonical' := canonical_iff.mp (canonical_of_unpack right).1
  obtain ⟨-, ranks⟩ := le_iff_rank.mp le
  rw [left, right, rank, rank, Prod.Lex.toLex_le_toLex, Prod.Lex.toLex_le_toLex] at ranks
  rw [totalExponent_eq, totalExponent_eq]
  rcases ranks with kinds | ⟨-, lower | ⟨same, mantissas⟩⟩
  · exact absurd kinds (lt_irrefl _)
  · dsimp only at lower
    omega
  · dsimp only at same mantissas
    have logs : Nat.log 2 m ≤ Nat.log 2 n := Nat.log_mono_right (Int.ofNat_le.mp mantissas)
    omega

theorem abs_nonneg (number : x.isNaN = false) : 0 ≤ x.abs := by
  have number' : x.abs.isNaN = false := by
    rcases abs_eq_or_eq_neg x with same | negated
    · rwa [same]
    · rwa [negated, isNaN_neg]
  refine le_iff_rank.mpr ⟨⟨rfl, number'⟩, ?_⟩
  rw [unpack_abs]
  cases x.toModel.unpack with
  | notANumber | zero => exact le_rfl
  | infinity => exact (by decide : rank (.zero .positive) ≤ rank (.infinity .positive))
  | finite => exact (Prod.Lex.toLex_lt_toLex.mpr (.inl Int.one_pos)).le

/-- A number that is at least zero is zero or positive. -/
theorem Below.zero_or_between (below : Below a x) (nonneg : 0 ≤ x) :
    (∃ s, x.toModel.unpack = .zero s) ∨ Between (-1073) a x := by
  rcases below with zero | ⟨s, m, e, pos, parts, size⟩
  · exact .inl zero
  cases s with
  | negative =>
      have kinds := kind_le_of_le nonneg
      rw [parts] at kinds
      exact absurd kinds (by decide : ¬ (0 : ℤ) ≤ -1)
  | positive =>
      have canonical := canonical_iff.mp (canonical_of_unpack parts).1
      refine .inr ⟨m, e, pos, parts, ?_, size⟩
      rw [totalExponent_eq]
      omega

/-- What reaches a positive number is positive and as large. -/
theorem Between.of_le (between : Between l h x) (below : Below a y) (le : x ≤ y) :
    Between l a y := by
  obtain ⟨m, e, pos, parts, above, -⟩ := between
  have kinds := kind_le_of_le le
  rw [parts] at kinds
  rcases below with ⟨s, zero⟩ | ⟨s, n, f, pos', parts', size⟩
  · rw [zero] at kinds
    exact absurd kinds (by decide : ¬ (1 : ℤ) ≤ 0)
  cases s with
  | negative =>
      rw [parts'] at kinds
      exact absurd kinds (by decide : ¬ (1 : ℤ) ≤ -1)
  | positive =>
      exact ⟨n, f, pos', parts', above.trans (totalExponent_le_of_le parts parts' le), size⟩

/-- A positive number that does not reach another one is as small. -/
theorem Between.of_ge (between : Between l h x) (bound : Between l' h' y) (le : x ≤ y) :
    Between l h' x := by
  obtain ⟨m, e, pos, parts, above, -⟩ := between
  obtain ⟨n, f, pos', parts', -, below⟩ := bound
  exact ⟨m, e, pos, parts, above, (totalExponent_le_of_le parts parts' le).trans below⟩

end BlockStage.Binary64
