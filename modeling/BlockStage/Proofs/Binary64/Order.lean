import Mathlib

/-!
# The order of doubles

A double that is a number has a rank: its kind comes first, from the negative infinity to the
positive one, and then its exponent and its mantissa.  Comparisons are comparisons of ranks
(`Binary64.lt_iff_rank`, `Binary64.le_iff_rank`), so numbers are in a linear order, in which the two
zeros have the same rank; what is not a number is not comparable to anything.
-/

namespace BlockStage.Binary64

open Float.Model Float.Model.UnpackedFloat

/-! ## Ranks -/

/-- Where a number stands among the others; what is not a number has no place of its own. -/
def rank : UnpackedFloat → ℤ ×ₗ ℤ ×ₗ ℤ
  | .infinity .negative => toLex (-2, toLex (0, 0))
  | .finite .negative m e _ => toLex (-1, toLex (-e, -m))
  | .zero _ | .notANumber => toLex (0, toLex (0, 0))
  | .finite .positive m e _ => toLex (1, toLex (e, m))
  | .infinity .positive => toLex (2, toLex (0, 0))

theorem compare_natCast (m n : ℕ) : compare (m : ℤ) n = compare m n := by
  rw [← cmp_eq_compare, ← cmp_eq_compare, Int.natCast_strictMono.cmp_map_eq]

theorem compare_neg_neg (a b : ℤ) : compare (-a) (-b) = (compare a b).swap := by
  rw [← cmp_eq_compare, ← cmp_eq_compare, cmp_swap]
  exact StrictAnti.cmp_map_eq (fun _ _ => Int.neg_lt_neg) a b

/-- Numbers of one kind are told apart by their exponents and then by their mantissas. -/
theorem compare_toLex (kind a b c d : ℤ) :
    compare (toLex (kind, toLex (a, b))) (toLex (kind, toLex (c, d))) =
      (compare a c).then (compare b d) := by
  have same : compare kind kind = .eq := compare_eq_iff_eq.mpr rfl
  show (compare kind kind).then ((compare a c).then (compare b d)) = _
  rw [same, Ordering.eq_then]

theorem compare_eq_rank {u v : UnpackedFloat} (left : u.isNaN = false)
    (right : v.isNaN = false) : u.compare v = some (compare (rank u) (rank v)) := by
  cases u with
  | notANumber => cases left
  | infinity s =>
      cases v with
      | notANumber => cases right
      | infinity t | zero t | finite t => cases s <;> cases t <;> rfl
  | zero s =>
      cases v with
      | notANumber => cases right
      | infinity t | finite t => cases t <;> rfl
      | zero t => rfl
  | finite s m e =>
      cases v with
      | notANumber => cases right
      | infinity t => cases s <;> cases t <;> rfl
      | zero t => cases s <;> rfl
      | finite t m' e' =>
          cases s <;> cases t
          · rw [rank, rank, compare_toLex, compare_neg_neg, compare_neg_neg, compare_natCast,
              ← Ordering.swap_then]
            rfl
          · rfl
          · rfl
          · rw [rank, rank, compare_toLex, compare_natCast]
            rfl

theorem compare_eq_none {u v : UnpackedFloat} (unrelated : ¬ (u.isNaN = false ∧ v.isNaN = false)) :
    u.compare v = none := by
  cases u with
  | notANumber => cases v <;> rfl
  | infinity | zero | finite =>
      cases v with
      | notANumber => rfl
      | infinity | zero | finite => exact absurd ⟨rfl, rfl⟩ unrelated

/-! ## Comparisons -/

variable {x y z : Float}

/-- **One number is below another if its rank is.** -/
theorem lt_iff_rank : x < y ↔ (x.isNaN = false ∧ y.isNaN = false) ∧
    rank x.toModel.unpack < rank y.toModel.unpack := by
  have compares : x < y ↔ x.toModel.unpack.compare y.toModel.unpack = some .lt :=
    decide_eq_true_iff.trans beq_iff_eq
  rw [compares]
  by_cases numbers : x.isNaN = false ∧ y.isNaN = false
  · rw [compare_eq_rank numbers.1 numbers.2, Option.some_inj, compare_lt_iff_lt]
    exact (and_iff_right numbers).symm
  · rw [compare_eq_none numbers]
    exact ⟨nofun, fun h => absurd h.1 numbers⟩

theorem le_iff_rank : x ≤ y ↔ (x.isNaN = false ∧ y.isNaN = false) ∧
    rank x.toModel.unpack ≤ rank y.toModel.unpack := by
  have compares : x ≤ y ↔
      (x.toModel.unpack.compare y.toModel.unpack).any Ordering.isLE = true :=
    decide_eq_true_iff
  rw [compares]
  by_cases numbers : x.isNaN = false ∧ y.isNaN = false
  · rw [compare_eq_rank numbers.1 numbers.2, Option.any_some, Ordering.isLE_iff_ne_gt,
      compare_gt_iff_gt, not_lt]
    exact (and_iff_right numbers).symm
  · rw [compare_eq_none numbers]
    exact ⟨nofun, fun h => absurd h.1 numbers⟩

/-- The kinds of numbers are in order. -/
theorem kind_le_of_le (h : x ≤ y) :
    (ofLex (rank x.toModel.unpack)).1 ≤ (ofLex (rank y.toModel.unpack)).1 :=
  Prod.Lex.monotone_fst_ofLex (le_iff_rank.mp h).2

theorem isNaN_of_le (h : x ≤ y) : x.isNaN = false ∧ y.isNaN = false := (le_iff_rank.mp h).1

/-- Of two numbers one is at most the other. -/
theorem le_of_not_lt (left : x.isNaN = false) (right : y.isNaN = false) (h : ¬ x < y) : y ≤ x := by
  refine le_iff_rank.mpr ⟨⟨right, left⟩, ?_⟩
  exact not_lt.mp fun below => h (lt_iff_rank.mpr ⟨⟨left, right⟩, below⟩)

theorem le_of_not_le (left : x.isNaN = false) (right : y.isNaN = false) (h : ¬ x ≤ y) : y ≤ x := by
  refine le_iff_rank.mpr ⟨⟨right, left⟩, ?_⟩
  exact (not_le.mp fun below => h (le_iff_rank.mpr ⟨⟨left, right⟩, below⟩)).le

theorem not_lt_of_le (h : x ≤ y) : ¬ y < x :=
  fun below => (le_iff_rank.mp h).2.not_gt (lt_iff_rank.mp below).2

theorem le_of_lt (h : x < y) : x ≤ y :=
  le_iff_rank.mpr ⟨(lt_iff_rank.mp h).1, (lt_iff_rank.mp h).2.le⟩

theorem le_trans (first : x ≤ y) (second : y ≤ z) : x ≤ z := by
  obtain ⟨⟨left, -⟩, below⟩ := le_iff_rank.mp first
  obtain ⟨⟨-, right⟩, below'⟩ := le_iff_rank.mp second
  exact le_iff_rank.mpr ⟨⟨left, right⟩, below.trans below'⟩

end BlockStage.Binary64
