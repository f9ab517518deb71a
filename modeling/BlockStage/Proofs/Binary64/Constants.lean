import BlockStage.Binary64
import BlockStage.Proofs.Binary64.Magnitude

/-!
# Powers of two

A power of two in the range of doubles is a double (`Binary64.unpack_powerOfTwo`): the rational
number that it is rounded from has a whole number of places, so no place is lost.
-/

namespace BlockStage.Binary64

open Float.Model Float.Model.UnpackedFloat

variable {k : Int}

theorem roundDiv_mul {den : Nat} (tie : Tie) (whole : Nat) (positive : 0 < den) :
    roundDiv tie (whole * den) den = whole := by
  rw [roundDiv.eq_def, Nat.mul_mod_left, Nat.mul_div_cancel _ positive]
  exact if_pos positive

theorem pow2_mul_pow2 (a b : Int) : pow2 a * pow2 b = 2 ^ (a.toNat + b.toNat) :=
  (Nat.pow_add 2 _ _).symm

theorem floorLog2_powerOfTwo (k : Int) : floorLog2 (pow2 k) (pow2 (-k)) = k := by
  have guess : ((pow2 k).log2 : Int) - (pow2 (-k)).log2 = k := by
    rw [pow2, pow2, Nat.pow_eq, Nat.pow_eq, Nat.log2_two_pow, Nat.log2_two_pow]
    omega
  rw [floorLog2, guess]
  exact if_pos (Nat.mul_comm _ _).le

theorem magnitudeBits_powerOfTwo (least : -1022 ≤ k) (greatest : k ≤ 1023) :
    magnitudeBits (pow2 k) (pow2 (-k)) = (k + 1023).toNat * hiddenBit := by
  have unit : max (k - 52) (-1074) = k - 52 := by omega
  have positive : 0 < pow2 (-k) * pow2 (k - 52) := by
    rw [pow2_mul_pow2]
    positivity
  have exact : pow2 k * pow2 (-(k - 52)) = hiddenBit * (pow2 (-k) * pow2 (k - 52)) := by
    rw [pow2_mul_pow2, pow2_mul_pow2, hiddenBit, pow2, Nat.pow_eq, ← Nat.pow_add]
    congr 1
    omega
  have field : (k - 52 + 1074).toNat * hiddenBit + hiddenBit = (k + 1023).toNat * hiddenBit := by
    rw [← Nat.succ_mul]
    congr 1
    omega
  have nonzero : pow2 k ≠ 0 := (Nat.pow_pos Nat.two_pos).ne'
  rw [magnitudeBits, if_neg nonzero, floorLog2_powerOfTwo]
  dsimp only
  rw [unit, exact, roundDiv_mul _ _ positive, field]
  exact min_eq_left (Nat.mul_le_mul_right _ (by omega))

theorem unpack_ofBits (bits : UInt64) :
    (Float.ofBits bits).toModel.unpack = UnpackedFloat.unpack .binary64
      (UnpackedFloat.pack .binary64 (UnpackedFloat.unpack .binary64 bits.toBitVec)) := rfl

/-- Bits without a fraction are an exponent field and nothing else. -/
theorem toBitVec_field {field : Nat} (short : field < 2047) :
    (UInt64.ofNat (field * hiddenBit)).toBitVec =
      packComponents .binary64 .positive (BitVec.ofNat 11 field) (BitVec.ofNat 52 (2 ^ 52)) := by
  refine BitVec.eq_of_toNat_eq ?_
  have hidden : hiddenBit = 2 ^ 52 := rfl
  have value : field * hiddenBit < 2 ^ 64 := by
    rw [hidden]
    omega
  have joined : (packComponents .binary64 .positive (BitVec.ofNat 11 field)
      (BitVec.ofNat 52 (2 ^ 52))).toNat = (0 <<< 11 ||| field % 2 ^ 11) <<< 52 ||| 0 := by
    rw [packComponents, BitVec.toNat_append, BitVec.toNat_append]
    rfl
  rw [joined, Nat.or_zero, Nat.zero_shiftLeft, Nat.zero_or, Nat.shiftLeft_eq,
    Nat.mod_eq_of_lt (by omega), ← hidden]
  exact UInt64.toNat_ofNat_of_lt value

theorem unpack_powerOfTwo (least : -1022 ≤ k) (greatest : k ≤ 1023) :
    (powerOfTwo k).toModel.unpack = .finite .positive (2 ^ 52) (k - 52) (by positivity) := by
  have whole : Nat.log 2 (2 ^ 52) = 52 := Nat.log_pow Nat.one_lt_two 52
  have canonical : Canonical (2 ^ 52) (k - 52) := canonical_iff.mpr (.inl ⟨whole, by omega⟩)
  have small : totalExponent (2 ^ 52) (k - 52) ≤ 1024 := by
    rw [totalExponent_eq, whole]
    omega
  have exponent : ((k + 1023).toNat : Int) - 1075 = k - 52 := by omega
  rw [powerOfTwo, ofScaled, Nat.one_mul, ofRatio, magnitudeBits_powerOfTwo least greatest,
    if_neg Bool.false_ne_true, Nat.add_zero, unpack_ofBits, toBitVec_field (by omega),
    unpack_normal _ (by omega) (by omega) whole (by positivity), finite_congr rfl exponent,
    unpack_pack_of_canonical canonical _ small]

theorem between_powerOfTwo (least : -1022 ≤ k) (greatest : k ≤ 1023) :
    Between (k + 1) (k + 1) (powerOfTwo k) := by
  refine ⟨_, _, _, unpack_powerOfTwo least greatest, ?_, ?_⟩
  all_goals
    rw [totalExponent_eq, Nat.log_pow Nat.one_lt_two]
    omega

theorem between_two : Between 2 2 2 := ⟨2 ^ 52, -51, by decide, rfl, by decide, by decide⟩

theorem between_four : Between 3 3 4 := ⟨2 ^ 52, -50, by decide, rfl, by decide, by decide⟩

end BlockStage.Binary64
