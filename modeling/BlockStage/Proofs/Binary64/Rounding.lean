import Mathlib

/-!
# How doubles are rounded

The size of a number `m * 2 ^ e` is told by its total exponent, the least power of two above it.
Rounding to a double keeps the total exponent or raises it by one, when all digits carry, and only
numbers below the least double may become zero (`Binary64.round_cases`).  A double that is put
together from such parts is taken apart into the same parts again, unless it is too large
(`Binary64.unpack_pack_of_canonical`).
-/

namespace BlockStage.Binary64

open Float.Model Float.Model.UnpackedFloat

variable {s : Sign} {m n k : Nat} {e : Int}

/-! ## Total exponents -/

theorem totalExponent_eq (m : Nat) (e : Int) : totalExponent m e = Nat.log 2 m + 1 + e := by
  rw [totalExponent, Nat.log2_eq_log_two]

theorem totalExponent_mono (le : m ≤ n) (e : Int) : totalExponent m e ≤ totalExponent n e := by
  have logs : Nat.log 2 m ≤ Nat.log 2 n := Nat.log_mono_right le
  rw [totalExponent_eq, totalExponent_eq]
  omega

/-- Doubling adds a digit, so adding one adds at most one. -/
theorem totalExponent_succ_le (positive : 0 < m) (e : Int) :
    totalExponent (m + 1) e ≤ totalExponent m e + 1 := by
  have doubled : Nat.log 2 (m * 2) = Nat.log 2 m + 1 :=
    Nat.log_mul_base Nat.one_lt_two positive.ne'
  have below := totalExponent_mono (show m + 1 ≤ m * 2 by omega) e
  rw [totalExponent_eq (m * 2), doubled] at below
  rw [totalExponent_eq m]
  push_cast at below
  omega

/-- What is cut off at the end does not count as long as something is left. -/
theorem totalExponent_div (left : k ≤ Nat.log 2 m) (e : Int) :
    totalExponent (m / 2 ^ k) (e + k) = totalExponent m e := by
  rw [totalExponent_eq, totalExponent_eq, Nat.log_div_base_pow]
  omega

theorem log_shiftLeft (positive : 0 < m) (k : Nat) :
    Nat.log 2 (m <<< k) = Nat.log 2 m + k := by
  induction k with
  | zero => rfl
  | succ k ih =>
      rw [Nat.shiftLeft_succ, Nat.mul_comm, Nat.log_mul_base Nat.one_lt_two, ih, Nat.add_assoc]
      rw [Nat.shiftLeft_eq]
      positivity

theorem totalExponent_shiftLeft (positive : 0 < m) (k : Nat) (e : Int) :
    totalExponent (m <<< k) (e - k) = totalExponent m e := by
  rw [totalExponent_eq, totalExponent_eq, log_shiftLeft positive]
  push_cast
  omega

theorem targetExponent_eq (total : Int) :
    Format.binary64.targetExponent total = max (total - 53) (-1074) := rfl

theorem targetExponent_mono {a b : Int} (le : a ≤ b) :
    Format.binary64.targetExponent a ≤ Format.binary64.targetExponent b := by
  rw [targetExponent_eq, targetExponent_eq]
  omega

/-! ## Rounding -/

/-- Whether a mantissa and an exponent are those that rounding comes to. -/
def Canonical (m : Nat) (e : Int) : Prop :=
  e = Format.binary64.targetExponent (totalExponent m e)

theorem mantissa_shiftRight (em : ExtendedMantissa) (k : Nat) :
    (em >>> k).mantissa = em.mantissa / 2 ^ k := by
  induction k with
  | zero => exact (Nat.div_one _).symm
  | succ k ih =>
      have next : (em >>> (k + 1)).mantissa = (em >>> k).mantissa / 2 := rfl
      rw [next, ih, Nat.div_div_eq_div_mul, Nat.pow_succ]

/-- A shift keeps the total exponent of a number that is not below the least double, and cuts
everything off from one that is. -/
theorem shift_cases (fits : e ≤ Format.binary64.targetExponent (totalExponent m e))
    (accuracy : Accuracy) {em : ExtendedMantissa} {e' : Int}
    (shifted : shiftToTargetExponent .binary64 m e accuracy = (em, e')) :
    e' = Format.binary64.targetExponent (totalExponent m e) ∧
      (-1074 < totalExponent m e → 0 < m → 0 < em.mantissa ∧
        totalExponent em.mantissa e' = totalExponent m e) ∧
      (totalExponent m e ≤ -1074 → em.mantissa = 0) ∧ (m = 0 → em.mantissa = 0) := by
  obtain ⟨first, second⟩ := Prod.mk.inj shifted
  have cut : em.mantissa =
      m / 2 ^ (Format.binary64.targetExponent (totalExponent m e) - e).toNat := by
    rw [← first, mantissa_shiftRight]
    rcases accuracy with _ | _ | _ | _ <;> rfl
  generalize amount : (Format.binary64.targetExponent (totalExponent m e) - e).toNat = k at *
  have reached : e + k = Format.binary64.targetExponent (totalExponent m e) := by omega
  rw [reached] at second
  refine ⟨second.symm, fun large positive => ?_, fun small => ?_, ?_⟩
  · have left : k ≤ Nat.log 2 m := by
      rw [targetExponent_eq] at reached
      rw [totalExponent_eq] at reached large
      omega
    rw [cut, ← second, ← reached]
    refine ⟨Nat.div_pos ?_ (by positivity), totalExponent_div left e⟩
    exact Nat.pow_le_of_le_log positive.ne' left
  · have all : Nat.log 2 m < k := by
      rw [targetExponent_eq] at reached
      rw [totalExponent_eq] at reached small
      omega
    rw [cut]
    exact Nat.div_eq_of_lt (Nat.lt_pow_of_log_lt Nat.one_lt_two all)
  · rintro rfl
    rw [cut, Nat.zero_div]

/-- A number that is not below the least double is shifted to a canonical one. -/
theorem canonical_of_shift (fits : e ≤ Format.binary64.targetExponent (totalExponent m e))
    {accuracy : Accuracy} {em : ExtendedMantissa} {e' : Int}
    (shifted : shiftToTargetExponent .binary64 m e accuracy = (em, e')) (positive : 0 < m)
    (enough : -1074 < totalExponent m e) :
    0 < em.mantissa ∧ Canonical em.mantissa e' ∧
      totalExponent em.mantissa e' = totalExponent m e := by
  obtain ⟨target, large, -⟩ := shift_cases fits accuracy shifted
  obtain ⟨left, size⟩ := large enough positive
  refine ⟨left, ?_, size⟩
  rw [Canonical, size]
  exact target

theorem roundedMantissa_cases (em : ExtendedMantissa) :
    em.roundedMantissa = em.mantissa ∨ em.roundedMantissa = em.mantissa + 1 := by
  rcases em with ⟨mantissa, _ | _, _ | _⟩
  · exact .inl rfl
  · exact .inl rfl
  · rcases Nat.mod_two_eq_zero_or_one mantissa with even | odd
    · exact .inl (congrArg (mantissa + ·) even)
    · exact .inr (congrArg (mantissa + ·) odd)
  · exact .inr rfl

/-- **Rounding gives a double of the same size or one size larger**, and zero only if the number is
below the least double. -/
theorem round_cases (positive : 0 < m)
    (fits : e ≤ Format.binary64.targetExponent (totalExponent m e)) (s : Sign)
    (accuracy : Accuracy) :
    (roundWithAccuracy .binary64 s m e accuracy = .zero s ∧ totalExponent m e ≤ -1074) ∨
    ∃ m' e' pos, roundWithAccuracy .binary64 s m e accuracy = .finite s m' e' pos ∧
      Canonical m' e' ∧ totalExponent m e ≤ totalExponent m' e' ∧
      totalExponent m' e' ≤ max (totalExponent m e + 1) (-1073) := by
  rw [roundWithAccuracy]
  rcases first : shiftToTargetExponent .binary64 m e accuracy with ⟨em, e₁⟩
  obtain ⟨target, large, small, -⟩ := shift_cases fits accuracy first
  dsimp only
  rcases second : shiftToTargetExponent .binary64 em.roundedMantissa e₁ .exact with ⟨em', e₂⟩
  dsimp only
  -- whatever is left after the first shift, the second one keeps it whole
  have fits' (grown : totalExponent m e ≤ totalExponent em.roundedMantissa e₁) :
      e₁ ≤ Format.binary64.targetExponent (totalExponent em.roundedMantissa e₁) :=
    target.le.trans (targetExponent_mono grown)
  by_cases enough : -1074 < totalExponent m e
  · obtain ⟨left, size⟩ := large enough positive
    have bounds : 0 < em.roundedMantissa ∧
        totalExponent m e ≤ totalExponent em.roundedMantissa e₁ ∧
        totalExponent em.roundedMantissa e₁ ≤ totalExponent m e + 1 := by
      rcases roundedMantissa_cases em with down | up
      · rw [down, size]
        omega
      · have grown := totalExponent_mono (Nat.le_add_right em.mantissa 1) e₁
        have within := totalExponent_succ_le left e₁
        rw [up]
        omega
    obtain ⟨left, grown, within⟩ := bounds
    obtain ⟨positive', canonical, size'⟩ :=
      canonical_of_shift (fits' grown) second left (by omega)
    exact .inr ⟨_, _, positive', dif_neg positive'.ne', canonical, by omega, by omega⟩
  · have nothing := small (by omega)
    have least : e₁ = -1074 := by
      rw [target, targetExponent_eq]
      omega
    rcases roundedMantissa_cases em with down | up
    · rw [nothing] at down
      have least' : e₁ ≤ Format.binary64.targetExponent (totalExponent em.roundedMantissa e₁) := by
        rw [targetExponent_eq]
        omega
      obtain ⟨-, -, -, gone⟩ := shift_cases least' .exact second
      exact .inl ⟨dif_pos (gone down), by omega⟩
    · rw [nothing, Nat.zero_add] at up
      have size : totalExponent em.roundedMantissa e₁ = -1073 := by
        rw [up, least]
        rfl
      obtain ⟨positive', canonical, size'⟩ :=
        canonical_of_shift (fits' (by omega)) second (by omega) (by omega)
      exact .inr ⟨_, _, positive', dif_neg positive'.ne', canonical, by omega, by omega⟩

/-! ## Doubles and their parts -/

/-- Canonical numbers have all digits, unless they have the least exponent. -/
theorem canonical_iff :
    Canonical m e ↔ Nat.log 2 m = 52 ∧ -1074 ≤ e ∨ Nat.log 2 m < 52 ∧ e = -1074 := by
  rw [Canonical, targetExponent_eq, totalExponent_eq]
  omega

theorem unpack_packInfinity (s : Sign) :
    UnpackedFloat.unpack .binary64 (packedInfinity .binary64 s) = .infinity s := by
  cases s <;> rfl

theorem finite_congr {m' : Nat} {e' : Int} (mantissa : m = m') (exponent : e = e')
    (positive : 0 < m) (positive' : 0 < m') :
    UnpackedFloat.finite s m e positive = .finite s m' e' positive' := by
  subst mantissa exponent
  rfl

/-- A field for the exponent that is neither the least nor the largest stands for a mantissa with
all its digits. -/
theorem unpack_normal (field : Nat) (above : 0 < field) (below : field < 2047)
    (all : Nat.log 2 m = 52) (positive : 0 < m) :
    UnpackedFloat.unpack .binary64
        (packComponents .binary64 s (BitVec.ofNat 11 field) (BitVec.ofNat 52 m)) =
      .finite s m (field - 1075) positive := by
  have wide : 2 ^ 52 ≤ m := all ▸ Nat.pow_log_le_self 2 positive.ne'
  have narrow : m < 2 ^ 53 := by
    have within := Nat.lt_pow_succ_log_self Nat.one_lt_two m
    rwa [all] at within
  have value : (BitVec.ofNat 11 field).toNat = field := Nat.mod_eq_of_lt (by omega)
  have notLargest : ¬ BitVec.ofNat 11 field = -1#_ := by
    intro same
    have fields := congrArg BitVec.toNat same
    rw [value] at fields
    exact absurd fields below.ne
  have notLeast : ¬ BitVec.ofNat 11 field = 0#_ := by
    intro same
    have fields := congrArg BitVec.toNat same
    rw [value] at fields
    exact absurd fields above.ne'
  rw [UnpackedFloat.unpack]
  simp only [unpackMantissa_packComponents, unpackExponent_packComponents,
    unpackSign_packComponents, Sign.ofBitVec_toBitVec]
  rw [if_neg notLargest, if_neg notLeast]
  refine finite_congr ?_ ?_ _ _
  · have tail : (BitVec.ofNat 52 m).toNat = m - 2 ^ 52 := by
      rw [BitVec.toNat_ofNat, Nat.mod_eq_sub_mod wide, Nat.mod_eq_of_lt (by omega)]
    have joined := Nat.two_pow_add_eq_or_of_lt (i := 52) (b := m - 2 ^ 52) (by omega) 1
    rw [BitVec.toNat_append, tail]
    exact joined.symm.trans (Nat.add_sub_of_le wide)
  · rw [value]
    rfl

theorem unpack_subnormal (few : Nat.log 2 m < 52) (positive : 0 < m) :
    UnpackedFloat.unpack .binary64 (packComponents .binary64 s 0#_ (BitVec.ofNat 52 m)) =
      .finite s m (-1074) positive := by
  have narrow : m < 2 ^ 52 := Nat.lt_pow_of_log_lt Nat.one_lt_two few
  have value : (BitVec.ofNat 52 m).toNat = m := Nat.mod_eq_of_lt narrow
  have nonzero : ¬ BitVec.ofNat 52 m = 0#_ := by
    intro same
    have mantissas := congrArg BitVec.toNat same
    rw [value] at mantissas
    exact absurd mantissas positive.ne'
  rw [UnpackedFloat.unpack]
  simp only [unpackMantissa_packComponents, unpackExponent_packComponents,
    unpackSign_packComponents, Sign.ofBitVec_toBitVec]
  rw [if_neg (by decide), if_pos trivial, dif_neg nonzero]
  exact finite_congr value rfl _ _

theorem pack_finite (s : Sign) (e : Int) (positive : 0 < m) :
    UnpackedFloat.pack .binary64 (.finite s m e positive) =
      if 2048 ≤ (e + 1075).toNat + 1 then packedInfinity .binary64 s
      else if Nat.log 2 m + 1 = 53 then
        packComponents .binary64 s (BitVec.ofNat 11 (e + 1075).toNat) (BitVec.ofNat 52 m)
      else packComponents .binary64 s 0#_ (BitVec.ofNat 52 m) := by
  have field : e + 1023 + 52 = e + 1075 := by omega
  rw [← field, ← Nat.log2_eq_log_two]
  rfl

/-- **What is small enough is taken apart as it was put together.** -/
theorem unpack_pack_of_canonical (canonical : Canonical m e) (positive : 0 < m)
    (small : totalExponent m e ≤ 1024) :
    UnpackedFloat.unpack .binary64 (UnpackedFloat.pack .binary64 (.finite s m e positive)) =
      .finite s m e positive := by
  rw [totalExponent_eq] at small
  rw [pack_finite]
  rcases canonical_iff.mp canonical with ⟨all, least⟩ | ⟨few, rfl⟩
  · rw [if_neg (by omega), if_pos (by omega)]
    refine (unpack_normal (e + 1075).toNat (by omega) (by omega) all positive).trans ?_
    exact finite_congr rfl (by omega) _ _
  · rw [if_neg (by decide), if_neg (by omega)]
    exact unpack_subnormal few positive

theorem log_append (tail : BitVec 52) : Nat.log 2 (1#1 ++ tail).toNat = 52 := by
  refine Nat.log_eq_of_pow_le_of_lt_pow ?_ (1#1 ++ tail).isLt
  have joined := Nat.two_pow_add_eq_or_of_lt tail.isLt 1
  rw [BitVec.toNat_append]
  exact (Nat.le_add_right _ _).trans joined.le

/-- **A double has canonical parts, and is not too large.** -/
theorem canonical_of_unpack {bits : BitVec Format.binary64.numBits} {positive : 0 < m}
    (parts : UnpackedFloat.unpack .binary64 bits = .finite s m e positive) :
    Canonical m e ∧ totalExponent m e ≤ 1024 := by
  rw [UnpackedFloat.unpack] at parts
  dsimp only at parts
  split at parts
  · split at parts <;> cases parts
  · next notLargest =>
    split at parts
    · next least =>
      split at parts
      · cases parts
      · cases parts
        have exponent : ((unpackExponent bits).toNat : Int) -
            (Format.binary64.exponentBias + Format.binary64.mantissaBitsWithoutImplicit) + 1 =
              -1074 := by
          rw [least]
          rfl
        have few : Nat.log 2 (unpackMantissa bits).toNat < 52 :=
          Nat.log_lt_of_lt_pow positive.ne' (unpackMantissa bits).isLt
        rw [exponent, totalExponent_eq]
        exact ⟨canonical_iff.mpr (.inr ⟨few, rfl⟩), by omega⟩
    · next notLeast =>
      cases parts
      have above : 0 < (unpackExponent bits).toNat := by
        refine Nat.pos_of_ne_zero fun zero => notLeast ?_
        exact BitVec.eq_of_toNat_eq zero
      have below : (unpackExponent bits).toNat < 2047 := by
        have within : (unpackExponent bits).toNat < 2048 := (unpackExponent bits).isLt
        have other : (unpackExponent bits).toNat ≠ 2047 :=
          fun largest => notLargest (BitVec.eq_of_toNat_eq largest)
        omega
      have exponent : ((unpackExponent bits).toNat : Int) -
          (Format.binary64.exponentBias + Format.binary64.mantissaBitsWithoutImplicit) =
            (unpackExponent bits).toNat - 1075 := rfl
      rw [exponent, totalExponent_eq, log_append]
      exact ⟨canonical_iff.mpr (.inl ⟨log_append _, by omega⟩), by omega⟩

end BlockStage.Binary64
