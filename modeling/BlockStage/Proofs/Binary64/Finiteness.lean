import BlockStage.Proofs.Binary64.Arithmetic
import BlockStage.Proofs.Binary64.Constants

/-!
# Finite doubles

A double is finite exactly if it has exact parts (`Binary64.isFinite_iff_exact`).  The double
nearest to a quotient is not much larger than the quotient (`Binary64.below_ofRatio`), so it is
finite unless the quotient is huge.  A finite double times zero is a zero, and a zero added to a
number gives one of the same rank (`Binary64.rank_add_of_zero`), though a zero may change its sign.
-/

namespace BlockStage.Binary64

open Float.Model Float.Model.UnpackedFloat

variable {x y z : Float} {num den k m : Nat} {e : Int} {s : Sign}

/-! ## Exponent fields -/

theorem toNat_unpackExponent (bits : BitVec Format.binary64.numBits) :
    (unpackExponent bits).toNat = bits.toNat / hiddenBit % 2048 := by
  show bits.toNat >>> 52 % 2 ^ 11 = _
  rw [Nat.shiftRight_eq_div_pow]
  rfl

theorem unpackExponent_eq_largest_iff (bits : BitVec Format.binary64.numBits) :
    unpackExponent bits = -1#_ ↔ bits.toNat / hiddenBit % 2048 = 2047 := by
  rw [← toNat_unpackExponent]
  exact ⟨congrArg BitVec.toNat, fun same => BitVec.eq_of_toNat_eq same⟩

/-- Bits stand for a finite double unless their exponent field is the largest. -/
theorem isFinite_unpack_iff (bits : BitVec Format.binary64.numBits) :
    (UnpackedFloat.unpack .binary64 bits).isFinite = true ↔
      bits.toNat / hiddenBit % 2048 ≠ 2047 := by
  rw [Ne, ← unpackExponent_eq_largest_iff, UnpackedFloat.unpack]
  dsimp only
  split
  · next largest =>
    refine iff_of_false ?_ (not_not_intro largest)
    split <;> exact Bool.false_ne_true
  · next other =>
    refine iff_of_true ?_ other
    split
    · split <;> rfl
    · rfl

/-- **The finite doubles are those that have exact parts.** -/
theorem isFinite_iff_exact :
    x.isFinite = true ↔ ∃ negative mantissa exponent,
      exact x = .finite negative mantissa exponent := by
  have finite : x.isFinite = true ↔ x.toBits.toNat / hiddenBit % 2048 ≠ 2047 :=
    isFinite_unpack_iff _
  rw [finite, exact.eq_def]
  by_cases largest : x.toBits.toNat / hiddenBit % 2048 = 2047
  · rw [if_pos largest]
    refine iff_of_false (not_not_intro largest) ?_
    split <;> exact nofun
  · rw [if_neg largest]
    refine iff_of_true largest ?_
    split <;> exact ⟨_, _, _, rfl⟩

/-! ## Finite doubles in order -/

theorem Below.isFinite (below : Below k x) : x.isFinite = true := by
  show x.toModel.unpack.isFinite = true
  rcases below with ⟨s, parts⟩ | ⟨s, m, e, pos, parts, -⟩ <;> rw [parts] <;> rfl

theorem finite_cases (finite : x.isFinite = true) : (∃ s, x.toModel.unpack = .zero s) ∨
    ∃ s m e pos, x.toModel.unpack = .finite s m e pos := by
  replace finite : x.toModel.unpack.isFinite = true := finite
  generalize x.toModel.unpack = u at finite
  cases u with
  | notANumber => cases finite
  | infinity s => cases finite
  | zero s => exact .inl ⟨s, rfl⟩
  | finite s m e pos => exact .inr ⟨s, m, e, pos, rfl⟩

theorem kind_of_isFinite (finite : x.isFinite = true) :
    -1 ≤ (ofLex (rank x.toModel.unpack)).1 ∧ (ofLex (rank x.toModel.unpack)).1 ≤ 1 := by
  rcases finite_cases finite with ⟨s, parts⟩ | ⟨s, m, e, pos, parts⟩ <;> rw [parts]
  · exact (by decide : (-1 : ℤ) ≤ 0 ∧ (0 : ℤ) ≤ 1)
  · cases s with
    | negative => exact (by decide : (-1 : ℤ) ≤ -1 ∧ (-1 : ℤ) ≤ 1)
    | positive => exact (by decide : (-1 : ℤ) ≤ 1 ∧ (1 : ℤ) ≤ 1)

/-- What lies between finite doubles is finite. -/
theorem isFinite_of_le (low : y.isFinite = true) (high : z.isFinite = true) (above : y ≤ x)
    (below : x ≤ z) : x.isFinite = true := by
  have least := (kind_of_isFinite low).1.trans (kind_le_of_le above)
  have greatest := (kind_le_of_le below).trans (kind_of_isFinite high).2
  show x.toModel.unpack.isFinite = true
  rcases number_cases (isNaN_of_le below).1 with ⟨s, parts⟩ | ⟨s, parts⟩ | ⟨s, m, e, pos, parts⟩
  · rw [parts] at least greatest
    cases s with
    | negative => exact absurd least (by decide : ¬ (-1 : ℤ) ≤ -2)
    | positive => exact absurd greatest (by decide : ¬ (2 : ℤ) ≤ 1)
  · rw [parts]
    rfl
  · rw [parts]
    rfl

/-! ## Doubles from bits -/

/-- The exponent field bounds the total exponent. -/
theorem totalExponent_le_field {bits : BitVec Format.binary64.numBits} {pos : 0 < m}
    (parts : UnpackedFloat.unpack .binary64 bits = .finite s m e pos) :
    totalExponent m e ≤ (bits.toNat / hiddenBit % 2048 : Nat) - 1022 := by
  rw [← toNat_unpackExponent, totalExponent_eq]
  rw [UnpackedFloat.unpack] at parts
  dsimp only at parts
  split at parts
  · split at parts <;> cases parts
  · have bias : ((Format.binary64.exponentBias : Nat) : Int) +
        (Format.binary64.mantissaBitsWithoutImplicit : Nat) = 1075 := rfl
    split at parts
    · split at parts
      · cases parts
      · cases parts
        have few : Nat.log 2 (unpackMantissa bits).toNat < 52 :=
          Nat.log_lt_of_lt_pow pos.ne' (unpackMantissa bits).isLt
        rw [bias]
        omega
    · cases parts
      rw [log_append, bias]
      omega

/-- Bits with a small exponent field stand for a small double. -/
theorem below_ofBits {bits : UInt64} (field : Nat)
    (fields : bits.toNat / hiddenBit % 2048 ≤ field) (low : 1022 ≤ field) (high : field < 2047) :
    Below (field - 1022) (.ofBits bits) := by
  have finite := (isFinite_unpack_iff bits.toBitVec).mpr (Nat.ne_of_lt (fields.trans_lt high))
  have apart := unpack_ofBits bits
  rcases parts : UnpackedFloat.unpack .binary64 bits.toBitVec with s | _ | s | ⟨s, m, e, pos⟩
  · rw [parts] at finite
    cases finite
  · rw [parts] at finite
    cases finite
  · rw [parts] at apart
    exact .inl ⟨s, apart.trans (unpack_zero s)⟩
  · obtain ⟨canonical, small⟩ := canonical_of_unpack parts
    have total := totalExponent_le_field parts
    rw [parts] at apart
    refine .inr ⟨s, m, e, pos, apart.trans (unpack_pack_of_canonical canonical pos small), ?_⟩
    rw [UInt64.toNat_toBitVec] at total
    omega

/-! ## Quotients -/

theorem roundDiv_le (tie : Tie) (num den : Nat) : roundDiv tie num den ≤ num / den + 1 := by
  rw [roundDiv.eq_def]
  dsimp only
  split
  · omega
  · split
    · omega
    · cases tie <;> dsimp only <;> omega

/-- A quotient that is below a power of two has not more digits than that. -/
theorem log2_le (less : num < 2 ^ k * den) (nonzero : num ≠ 0) :
    num.log2 ≤ k + den.log2 := by
  have lt : num < 2 ^ (k + (den.log2 + 1)) := by
    rw [Nat.pow_add]
    exact less.trans ((Nat.mul_lt_mul_left (Nat.two_pow_pos k)).mpr Nat.lt_log2_self)
  exact Nat.lt_succ_iff.mp ((Nat.log2_lt nonzero).mpr lt)

theorem floorLog2_bounds (num den : Nat) :
    floorLog2 num den ≤ (num.log2 : Int) - den.log2 ∧
      (num.log2 : Int) - den.log2 - 1 ≤ floorLog2 num den := by
  rw [floorLog2.eq_def]
  dsimp only
  split <;> omega

theorem magnitudeBits_le (positive : 0 < den) (less : num < 2 ^ k * den) :
    magnitudeBits num den ≤ (k + 1026) * hiddenBit := by
  rw [magnitudeBits]
  split
  · exact Nat.zero_le _
  next nonzero =>
  have digits := log2_le less nonzero
  obtain ⟨high, low⟩ := floorLog2_bounds num den
  dsimp only
  generalize unit_eq : max (floorLog2 num den - 52) (-1074) = unit
  have scaled : num * pow2 (-unit) < 2 ^ 54 * (den * pow2 unit) := by
    calc num * pow2 (-unit) < 2 ^ (num.log2 + 1) * pow2 (-unit) :=
          (Nat.mul_lt_mul_right (Nat.two_pow_pos _)).mpr Nat.lt_log2_self
      _ ≤ 2 ^ 54 * (2 ^ den.log2 * pow2 unit) := by
          rw [pow2, pow2, Nat.pow_eq, Nat.pow_eq, ← Nat.pow_add, ← Nat.pow_add, ← Nat.pow_add]
          exact Nat.pow_le_pow_right Nat.two_pos (by omega)
      _ ≤ 2 ^ 54 * (den * pow2 unit) :=
          Nat.mul_le_mul_left _ (Nat.mul_le_mul_right _ (Nat.log2_self_le positive.ne'))
  have quotient := Nat.div_lt_of_lt_mul ((Nat.mul_comm _ _).trans_gt scaled)
  have count := roundDiv_le .even (num * pow2 (-unit)) (den * pow2 unit)
  have hidden : hiddenBit = 2 ^ 52 := rfl
  have places : (unit + 1074).toNat ≤ k + 1022 := by omega
  refine (Nat.min_le_left _ _).trans ?_
  rw [hidden]
  omega

/-- **The double nearest to a quotient is not much larger than the quotient.** -/
theorem below_ofRatio (negative : Bool) (positive : 0 < den) (less : num < 2 ^ k * den)
    (small : k ≤ 1000) : Below (k + 4) (ofRatio negative num den) := by
  have magnitude := magnitudeBits_le positive less
  have hidden : hiddenBit = 2 ^ 52 := rfl
  have sign : signBit = 2 ^ 63 := rfl
  rw [hidden] at magnitude
  have size : magnitudeBits num den + (if negative then signBit else 0) < 2 ^ 64 := by
    rw [sign]
    split <;> omega
  refine (below_ofBits (k + 1026) ?_ (by omega) (by omega)).mono (by omega)
  rw [UInt64.toNat_ofNat_of_lt' size, hidden, sign]
  split <;> omega

/-! ## Zeros -/

/-- Numbers are equal if they have the same rank. -/
theorem beq_iff_rank : (x == y) = true ↔ (x.isNaN = false ∧ y.isNaN = false) ∧
    rank x.toModel.unpack = rank y.toModel.unpack := by
  have compares : (x == y) = true ↔ x.toModel.unpack.compare y.toModel.unpack = some .eq := by
    show (x.toModel.unpack.compare y.toModel.unpack == some .eq) = true ↔ _
    exact beq_iff_eq
  rw [compares]
  by_cases numbers : x.isNaN = false ∧ y.isNaN = false
  · rw [compare_eq_rank numbers.1 numbers.2, Option.some_inj, compare_eq_iff_eq]
    exact (and_iff_right numbers).symm
  · rw [compare_eq_none numbers]
    exact ⟨nofun, fun h => absurd h.1 numbers⟩

theorem zero_mul_of_isFinite (finite : x.isFinite = true) :
    ∃ s, (0 * x).toModel.unpack = .zero s := by
  have zero : (0 : Float).toModel.unpack = .zero .positive := rfl
  rw [mul_eq, zero]
  rcases finite_cases finite with ⟨s, parts⟩ | ⟨s, m, e, pos, parts⟩
  all_goals
    rw [parts]
    exact ⟨_, unpack_zero _⟩

/-- **A sum with a zero has the rank of the other number.** -/
theorem rank_add_of_zero (finite : x.isFinite = true) (zero : y.toModel.unpack = .zero s) :
    (x + y).isNaN = false ∧ rank (x + y).toModel.unpack = rank x.toModel.unpack := by
  rcases finite_cases finite with ⟨t, parts⟩ | ⟨t, m, e, pos, parts⟩
  · obtain ⟨u, sum⟩ : ∃ u, UnpackedFloat.add .binary64 x.toModel.unpack y.toModel.unpack =
        .zero u := by
      rw [parts, zero]
      cases t <;> cases s <;> exact ⟨_, rfl⟩
    rw [add_eq, sum, parts, unpack_zero]
    exact ⟨(below_zero (a := 0) u).not_isNaN, rfl⟩
  · have number : x.toModel.unpack.isNaN = false := by
      rw [parts]
      rfl
    rw [add_zero parts zero]
    exact ⟨number, rfl⟩

/-- What is not a number spoils every sum. -/
theorem isNaN_add_right (nan : y.isNaN = true) (x : Float) : (x + y).isNaN = true := by
  replace nan : y.toModel.unpack.isNaN = true := nan
  have spoiled : UnpackedFloat.add .binary64 x.toModel.unpack y.toModel.unpack = .notANumber := by
    generalize y.toModel.unpack = v at nan
    cases v with
    | notANumber => cases x.toModel.unpack <;> rfl
    | infinity | zero | finite => cases nan
  rw [add_eq, spoiled]
  rfl

end BlockStage.Binary64
