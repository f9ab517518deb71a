import Mathlib

/-!
# Doubles up to their sign

A negation changes the sign field of a double and no other, and a double is put together again as
it was taken apart, so negating twice is nothing at all (`Binary64.neg_neg`), and whether a double
is finite does not depend on its sign.  A difference taken the other way round is the same up to its
sign (`Binary64.sub_eq_or_eq_neg_sub`); it need not be its negation, as a number less itself is the
positive zero either way.
-/

namespace BlockStage.Binary64

open Float.Model Float.Model.UnpackedFloat

/-! ## Negation -/

/-- A negation changes the sign and no field. -/
theorem neg_unpack {format : Format} (s : Sign) (e : BitVec format.exponentBits)
    (m : BitVec format.mantissaBitsWithoutImplicit) :
    (UnpackedFloat.unpack format (packComponents format s e m)).neg =
      UnpackedFloat.unpack format (packComponents format (-s) e m) := by
  unfold UnpackedFloat.unpack
  simp only [unpackMantissa_packComponents, unpackExponent_packComponents,
    unpackSign_packComponents, Sign.ofBitVec_toBitVec]
  split
  · split <;> rfl
  · split
    · split <;> rfl
    · rfl

theorem unpack_pack_neg (u : UnpackedFloat) :
    UnpackedFloat.unpack .binary64 (UnpackedFloat.pack .binary64 u.neg) =
      (UnpackedFloat.unpack .binary64 (UnpackedFloat.pack .binary64 u)).neg := by
  cases u with
  | notANumber => rfl
  | infinity s => exact (neg_unpack s _ _).symm
  | zero s => exact (neg_unpack s _ _).symm
  | finite s m e pos =>
      simp only [UnpackedFloat.neg, UnpackedFloat.pack]
      split
      · exact (neg_unpack s _ _).symm
      · split
        · exact (neg_unpack s _ _).symm
        · exact (neg_unpack s _ _).symm

theorem pack_unpack (f : Float.Model) : Float.Model.pack f.unpack = f := by
  rcases f with ⟨bits, valid⟩
  simp only [Float.Model.pack, Float.Model.unpack, pack_unpack_of_valid valid]

theorem eq_of_unpack_eq {x y : Float} (same : x.toModel.unpack = y.toModel.unpack) : x = y := by
  have model : x.toModel = y.toModel := by
    rw [← pack_unpack x.toModel, same, pack_unpack]
  exact congrArg Float.ofModel model

theorem unpack_pack (u : UnpackedFloat) :
    (Float.Model.pack u).unpack =
      UnpackedFloat.unpack .binary64 (UnpackedFloat.pack .binary64 u) := rfl

theorem toModel_neg (x : Float) : (-x).toModel = .pack x.toModel.unpack.neg := rfl

theorem unpack_neg (x : Float) : (-x).toModel.unpack = x.toModel.unpack.neg := by
  rw [toModel_neg, unpack_pack, unpack_pack_neg, ← unpack_pack, pack_unpack]

theorem neg_neg_unpacked (u : UnpackedFloat) : u.neg.neg = u := by
  have twice : ∀ s : Sign, - -s = s := fun s => by cases s <;> rfl
  cases u <;> simp only [UnpackedFloat.neg, twice]

@[simp] theorem neg_neg (x : Float) : - -x = x := by
  refine eq_of_unpack_eq ?_
  rw [unpack_neg, unpack_neg, neg_neg_unpacked]

@[simp] theorem isFinite_neg (x : Float) : (-x).isFinite = x.isFinite := by
  show (-x).toModel.unpack.isFinite = x.toModel.unpack.isFinite
  rw [unpack_neg]
  cases x.toModel.unpack <;> rfl

@[simp] theorem isInf_neg (x : Float) : (-x).isInf = x.isInf := by
  show (-x).toModel.unpack.isInf = x.toModel.unpack.isInf
  rw [unpack_neg]
  cases x.toModel.unpack <;> rfl

theorem isNaN_neg (x : Float) : (-x).isNaN = x.isNaN := by
  show (-x).toModel.unpack.isNaN = x.toModel.unpack.isNaN
  rw [unpack_neg]
  cases x.toModel.unpack <;> rfl

@[simp] theorem abs_neg (x : Float) : (-x).abs = x.abs := by
  have same : (-x).toModel.unpack.abs = x.toModel.unpack.abs := by
    rw [unpack_neg]
    cases x.toModel.unpack <;> rfl
  exact congrArg (fun u => Float.ofModel (.pack u)) same

theorem abs_unpacked (u : UnpackedFloat) : u.abs = u ∨ u.abs = u.neg := by
  cases u with
  | notANumber => exact .inl rfl
  | infinity s | zero s | finite s =>
      cases s
      · exact .inr rfl
      · exact .inl rfl

/-- The absolute value is the double itself or its negation. -/
theorem abs_eq_or_eq_neg (x : Float) : x.abs = x ∨ x.abs = -x := by
  have absolute : x.abs = .ofModel (.pack x.toModel.unpack.abs) := rfl
  rcases abs_unpacked x.toModel.unpack with same | negated
  · exact .inl (by rw [absolute, same, pack_unpack])
  · exact .inr (by rw [absolute, negated]; rfl)

theorem unpack_abs (x : Float) : x.abs.toModel.unpack = x.toModel.unpack.abs := by
  have absolute : x.abs.toModel = .pack x.toModel.unpack.abs := rfl
  rcases abs_unpacked x.toModel.unpack with same | negated
  · rw [absolute, same, pack_unpack]
  · rw [absolute, negated, ← toModel_neg, unpack_neg]

/-! ## Differences -/

theorem round_neg (s : Sign) (mantissa : Nat) (exponent : Int) :
    UnpackedFloat.round .binary64 (-s) mantissa exponent =
      (UnpackedFloat.round .binary64 s mantissa exponent).neg := by
  simp only [UnpackedFloat.round, roundWithAccuracy]
  split <;> rfl

theorem normalize_neg {mantissa : Int} (nonzero : mantissa ≠ 0) (exponent : Int) (s : Sign) :
    UnpackedFloat.normalize .binary64 (-mantissa) exponent s =
      (UnpackedFloat.normalize .binary64 mantissa exponent s).neg := by
  rcases Int.lt_or_gt_of_ne nonzero with negative | positive
  · have before : compare mantissa 0 = .lt := Int.compare_eq_lt.mpr negative
    have after : compare (-mantissa) 0 = .gt := Int.compare_eq_gt.mpr (by omega)
    rw [UnpackedFloat.normalize, UnpackedFloat.normalize, before, after]
    exact round_neg .negative _ exponent
  · have before : compare mantissa 0 = .gt := Int.compare_eq_gt.mpr positive
    have after : compare (-mantissa) 0 = .lt := Int.compare_eq_lt.mpr (by omega)
    rw [UnpackedFloat.normalize, UnpackedFloat.normalize, before, after, Int.neg_neg]
    exact round_neg .positive _ exponent

theorem normalize_sub (a b exponent : Int) :
    UnpackedFloat.normalize .binary64 (a - b) exponent .positive =
        UnpackedFloat.normalize .binary64 (b - a) exponent .positive ∨
      UnpackedFloat.normalize .binary64 (a - b) exponent .positive =
        (UnpackedFloat.normalize .binary64 (b - a) exponent .positive).neg := by
  by_cases same : a = b
  · exact .inl (by rw [same])
  · refine .inr ?_
    rw [← normalize_neg (by omega), Int.neg_sub]

theorem sub_unpacked (u v : UnpackedFloat) :
    UnpackedFloat.sub .binary64 u v = UnpackedFloat.sub .binary64 v u ∨
      UnpackedFloat.sub .binary64 u v = (UnpackedFloat.sub .binary64 v u).neg := by
  cases u with
  | notANumber => cases v <;> exact .inl rfl
  | infinity s =>
      cases v with
      | notANumber => exact .inl rfl
      | infinity t =>
          cases s <;> cases t
          · exact .inl rfl
          · exact .inr rfl
          · exact .inr rfl
          · exact .inl rfl
      | zero => cases s <;> exact .inr rfl
      | finite => cases s <;> exact .inr rfl
  | zero s =>
      cases v with
      | notANumber => exact .inl rfl
      | infinity => exact .inr rfl
      | zero t =>
          cases s <;> cases t
          · exact .inl rfl
          · exact .inr rfl
          · exact .inr rfl
          · exact .inl rfl
      | finite => exact .inr rfl
  | finite s m e pos =>
      cases v with
      | notANumber => exact .inl rfl
      | infinity => exact .inr rfl
      | zero => cases s <;> exact .inr rfl
      | finite t m' e' pos' =>
          simp only [UnpackedFloat.sub, Int.min_comm e' e]
          exact normalize_sub _ _ _

/-- The difference taken the other way round is the same or its negation. -/
theorem sub_eq_or_eq_neg_sub (x y : Float) : x - y = y - x ∨ x - y = -(y - x) := by
  rcases sub_unpacked x.toModel.unpack y.toModel.unpack with same | negated
  · exact .inl (congrArg (fun u => Float.ofModel (.pack u)) same)
  · refine .inr (eq_of_unpack_eq ?_)
    rw [unpack_neg]
    exact (congrArg (fun u => (Float.Model.pack u).unpack) negated).trans (unpack_pack_neg _)

end BlockStage.Binary64
