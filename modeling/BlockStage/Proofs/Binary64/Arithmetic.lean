import BlockStage.Proofs.Binary64.Magnitude

/-!
# The size of sums, products, quotients and roots

Each operation works on exact parts of known size and rounds once.  So the size of its result is
known up to one place for rounding, as long as it stays in the range of doubles; and the result is a
number unless the arguments have none.  With these a formula is followed step by step: its results
are finite, and what it divides by is not zero, if only its arguments have the right size.
-/

namespace BlockStage.Binary64

open Float.Model Float.Model.UnpackedFloat

variable {x y z : Float} {a b k : Nat} {l h l' h' : Int} {m n : Nat} {e f : Int} {s t : Sign}

/-! ## Rounded results -/

theorem unpack_zero (s : Sign) : (Float.ofModel (.pack (.zero s))).toModel.unpack = .zero s := by
  cases s <;> rfl

theorem below_zero (s : Sign) : Below a (.ofModel (.pack (.zero s))) := .inl ⟨s, unpack_zero s⟩

theorem below_round (positive : 0 < m)
    (fits : e ≤ Format.binary64.targetExponent (totalExponent m e)) (s : Sign)
    (accuracy : Accuracy) (size : totalExponent m e < k) (small : k ≤ 1024) :
    Below k (.ofModel (.pack (roundWithAccuracy .binary64 s m e accuracy))) := by
  rcases round_cases positive fits s accuracy with
    ⟨rounded, -⟩ | ⟨m', e', pos, rounded, canonical, -, size'⟩
  · rw [rounded]
    exact below_zero s
  · refine .inr ⟨s, m', e', pos, ?_, by omega⟩
    rw [rounded]
    exact unpack_pack_of_canonical canonical pos (by omega)

theorem between_round (positive : 0 < m)
    (fits : e ≤ Format.binary64.targetExponent (totalExponent m e)) (accuracy : Accuracy)
    (least : -1074 < totalExponent m e) (low : l ≤ totalExponent m e) (high : totalExponent m e < h)
    (small : h ≤ 1024) :
    Between l h (.ofModel (.pack (roundWithAccuracy .binary64 .positive m e accuracy))) := by
  rcases round_cases positive fits .positive accuracy with
    ⟨-, tiny⟩ | ⟨m', e', pos, rounded, canonical, low', high'⟩
  · omega
  · refine ⟨m', e', pos, ?_, by omega, by omega⟩
    rw [rounded]
    exact unpack_pack_of_canonical canonical pos (by omega)

theorem isNaN_packComponents {field : BitVec 11} (s : Sign) (tail : BitVec 52)
    (other : field ≠ -1#_) :
    (UnpackedFloat.unpack .binary64 (packComponents .binary64 s field tail)).isNaN = false := by
  rw [UnpackedFloat.unpack]
  simp only [unpackMantissa_packComponents, unpackExponent_packComponents]
  rw [if_neg other]
  split
  · split <;> rfl
  · rfl

/-- What rounding gives is a number. -/
theorem not_isNaN_round (s : Sign) (m : Nat) (e : Int) (accuracy : Accuracy) :
    (Float.ofModel (.pack (roundWithAccuracy .binary64 s m e accuracy))).isNaN = false := by
  show (UnpackedFloat.unpack .binary64
    (UnpackedFloat.pack .binary64 (roundWithAccuracy .binary64 s m e accuracy))).isNaN = false
  rw [roundWithAccuracy]
  dsimp only
  split
  · cases s <;> rfl
  · rw [pack_finite]
    split
    · rw [unpack_packInfinity]
      rfl
    · next small =>
      split
      · refine isNaN_packComponents s _ fun largest => ?_
        have fields := congrArg BitVec.toNat largest
        rw [BitVec.toNat_ofNat, Nat.mod_eq_of_lt (by omega)] at fields
        exact absurd fields (by omega : ¬ _ = 2047)
      · exact isNaN_packComponents s _ (by decide)

theorem not_isNaN_infinity (s : Sign) :
    (Float.ofModel (.pack (.infinity s))).isNaN = false := by
  cases s <;> rfl

theorem number_cases (number : x.isNaN = false) :
    (∃ s, x.toModel.unpack = .infinity s) ∨ (∃ s, x.toModel.unpack = .zero s) ∨
      ∃ s m e pos, x.toModel.unpack = .finite s m e pos := by
  replace number : x.toModel.unpack.isNaN = false := number
  generalize x.toModel.unpack = u at number
  cases u with
  | notANumber => cases number
  | infinity s => exact .inl ⟨s, rfl⟩
  | zero s => exact .inr (.inl ⟨s, rfl⟩)
  | finite s m e pos => exact .inr (.inr ⟨s, m, e, pos, rfl⟩)

/-! ## Products -/

theorem log_mul_bounds (positive : 0 < m) (positive' : 0 < n) :
    Nat.log 2 m + Nat.log 2 n ≤ Nat.log 2 (m * n) ∧
      Nat.log 2 (m * n) ≤ Nat.log 2 m + Nat.log 2 n + 1 := by
  have low := Nat.pow_log_le_self 2 positive.ne'
  have low' := Nat.pow_log_le_self 2 positive'.ne'
  have high := Nat.lt_pow_succ_log_self Nat.one_lt_two m
  have high' := Nat.lt_pow_succ_log_self Nat.one_lt_two n
  constructor
  · refine Nat.le_log_of_pow_le Nat.one_lt_two ?_
    rw [Nat.pow_add]
    exact Nat.mul_le_mul low low'
  · refine Nat.lt_succ_iff.mp (Nat.log_lt_of_lt_pow (Nat.mul_pos positive positive').ne' ?_)
    refine (Nat.mul_lt_mul'' high high').trans_eq ?_
    rw [← Nat.pow_add]
    congr 1
    omega

/-- The product of two doubles has at least as many digits as a double. -/
theorem fits_mul (canonical : Canonical m e) (canonical' : Canonical n f) (positive : 0 < m)
    (positive' : 0 < n) :
    e + f ≤ Format.binary64.targetExponent (totalExponent (m * n) (e + f)) := by
  have logs := log_mul_bounds positive positive'
  rw [canonical_iff] at canonical canonical'
  rw [targetExponent_eq, totalExponent_eq]
  omega

theorem mul_eq (x y : Float) :
    x * y = .ofModel (.pack (UnpackedFloat.mul .binary64 x.toModel.unpack y.toModel.unpack)) := rfl

theorem Below.mul (left : Below a x) (right : Below b y) (small : a + b < 1024) :
    Below (a + b + 1) (x * y) := by
  rw [mul_eq]
  rcases left with ⟨s, parts⟩ | ⟨s, m, e, pos, parts, size⟩
  · rcases right with ⟨t, parts'⟩ | ⟨t, n, f, pos', parts', -⟩ <;>
    · rw [parts, parts']
      exact below_zero (s * t)
  rcases right with ⟨t, parts'⟩ | ⟨t, n, f, pos', parts', size'⟩
  · rw [parts, parts']
    exact below_zero (s * t)
  · have logs := log_mul_bounds pos pos'
    have fits := fits_mul (canonical_of_unpack parts).1 (canonical_of_unpack parts').1 pos pos'
    rw [totalExponent_eq] at size size'
    rw [parts, parts']
    refine below_round (Nat.mul_pos pos pos') fits _ .exact ?_ (by omega)
    rw [totalExponent_eq]
    push_cast
    omega

theorem Between.mul (left : Between l h x) (right : Between l' h' y) (least : -1073 < l + l')
    (small : h + h' < 1024) : Between (l + l' - 1) (h + h' + 1) (x * y) := by
  obtain ⟨m, e, pos, parts, low, high⟩ := left
  obtain ⟨n, f, pos', parts', low', high'⟩ := right
  have logs := log_mul_bounds pos pos'
  have fits := fits_mul (canonical_of_unpack parts).1 (canonical_of_unpack parts').1 pos pos'
  have total := totalExponent_eq (m * n) (e + f)
  rw [totalExponent_eq] at low high low' high'
  rw [mul_eq, parts, parts']
  exact between_round (Nat.mul_pos pos pos') fits .exact (by omega) (by omega) (by omega) (by omega)

/-- The product with a positive number is a number. -/
theorem Between.not_isNaN_mul (right : Between l h y) (number : x.isNaN = false) :
    (x * y).isNaN = false := by
  obtain ⟨n, f, pos', parts', -⟩ := right
  rw [mul_eq, parts']
  rcases number_cases number with ⟨s, parts⟩ | ⟨s, parts⟩ | ⟨s, m, e, pos, parts⟩
  · rw [parts]
    exact not_isNaN_infinity _
  · rw [parts]
    exact (below_zero (a := 0) _).not_isNaN
  · rw [parts]
    exact not_isNaN_round _ _ _ _

/-! ## Sums and differences -/

/-- Rounding may first need more digits. -/
theorem round_eq (positive : 0 < m) (s : Sign) (e : Int) : ∃ m' e', 0 < m' ∧
    UnpackedFloat.round .binary64 s m e = roundWithAccuracy .binary64 s m' e' .exact ∧
    e' ≤ Format.binary64.targetExponent (totalExponent m' e') ∧
    totalExponent m' e' = totalExponent m e := by
  refine ⟨_, _, ?_, rfl, ?_, ?_⟩
  · exact Nat.shiftLeft_pos_iff.mpr positive
  · rw [totalExponent_shiftLeft positive]
    omega
  · exact totalExponent_shiftLeft positive _ _

theorem normalize_cases (mantissa e : Int) (s : Sign) :
    (mantissa = 0 ∧ UnpackedFloat.normalize .binary64 mantissa e s = .zero s) ∨
    ∃ t, mantissa ≠ 0 ∧ (0 < mantissa → t = .positive) ∧
      UnpackedFloat.normalize .binary64 mantissa e s =
        UnpackedFloat.round .binary64 t mantissa.natAbs e := by
  rw [UnpackedFloat.normalize]
  rcases Int.lt_trichotomy mantissa 0 with negative | rfl | positive
  · have absolute : (-mantissa).toNat = mantissa.natAbs := by omega
    rw [Int.compare_eq_lt.mpr negative]
    dsimp only
    rw [absolute]
    exact .inr ⟨_, negative.ne, fun positive => absurd positive negative.asymm, rfl⟩
  · exact .inl ⟨rfl, rfl⟩
  · have absolute : mantissa.toNat = mantissa.natAbs := by omega
    rw [Int.compare_eq_gt.mpr positive]
    dsimp only
    rw [absolute]
    exact .inr ⟨_, positive.ne', fun _ => rfl, rfl⟩

theorem below_normalize (mantissa e : Int) (s : Sign)
    (size : mantissa ≠ 0 → totalExponent mantissa.natAbs e < k) (small : k ≤ 1024) :
    Below k (.ofModel (.pack (UnpackedFloat.normalize .binary64 mantissa e s))) := by
  rcases normalize_cases mantissa e s with ⟨-, zero⟩ | ⟨t, nonzero, -, rounded⟩
  · rw [zero]
    exact below_zero s
  · obtain ⟨m', e', pos, aligned, fits, total⟩ := round_eq (Int.natAbs_pos.mpr nonzero) t e
    rw [rounded, aligned]
    exact below_round pos fits t .exact (total ▸ size nonzero) small

theorem not_isNaN_normalize (mantissa e : Int) (s : Sign) :
    (Float.ofModel (.pack (UnpackedFloat.normalize .binary64 mantissa e s))).isNaN = false := by
  rcases normalize_cases mantissa e s with ⟨-, zero⟩ | ⟨t, -, -, rounded⟩
  · rw [zero]
    exact (below_zero (a := 0) s).not_isNaN
  · rw [rounded]
    exact not_isNaN_round _ _ _ _

/-- A sum is at most twice the larger number. -/
theorem totalExponent_add_le (m n : Nat) (e : Int) :
    totalExponent (m + n) e ≤ max (totalExponent m e) (totalExponent n e) + 1 := by
  have twice (k : Nat) : totalExponent (k * 2) e ≤ totalExponent k e + 1 := by
    rcases Nat.eq_zero_or_pos k with rfl | positive
    · rw [Nat.zero_mul]
      omega
    · rw [totalExponent_eq, totalExponent_eq, Nat.log_mul_base Nat.one_lt_two positive.ne']
      omega
  rcases Nat.le_total m n with le | le
  · exact (totalExponent_mono (by omega) e).trans ((twice n).trans (by omega))
  · exact (totalExponent_mono (by omega) e).trans ((twice m).trans (by omega))

theorem add_eq (x y : Float) :
    x + y = .ofModel (.pack (UnpackedFloat.add .binary64 x.toModel.unpack y.toModel.unpack)) := rfl

/-- Numbers are aligned before they are added. -/
theorem add_finite (pos : 0 < m) (pos' : 0 < n) : ∃ (m' n' : Nat) (c : Int),
    UnpackedFloat.add .binary64 (.finite s m e pos) (.finite t n f pos') =
      UnpackedFloat.normalize .binary64 (s.apply m' + t.apply n') c .positive ∧
    0 < m' ∧ 0 < n' ∧ totalExponent m' c = totalExponent m e ∧
      totalExponent n' c = totalExponent n f := by
  have aligned : e - (e - min e f).toNat = min e f := by omega
  have aligned' : f - (f - min e f).toNat = min e f := by omega
  have total := totalExponent_shiftLeft pos (e - min e f).toNat e
  have total' := totalExponent_shiftLeft pos' (f - min e f).toNat f
  rw [aligned] at total
  rw [aligned'] at total'
  exact ⟨_, _, _, rfl, Nat.shiftLeft_pos_iff.mpr pos, Nat.shiftLeft_pos_iff.mpr pos', total, total'⟩

theorem zero_add {pos : 0 < n} (left : x.toModel.unpack = .zero s)
    (right : y.toModel.unpack = .finite t n f pos) : x + y = y := by
  refine eq_of_unpack_eq ?_
  have sum : UnpackedFloat.add .binary64 x.toModel.unpack y.toModel.unpack = y.toModel.unpack := by
    rw [left, right]
    rfl
  rw [add_eq, sum, pack_unpack]

theorem add_zero {pos : 0 < m} (left : x.toModel.unpack = .finite s m e pos)
    (right : y.toModel.unpack = .zero t) : x + y = x := by
  refine eq_of_unpack_eq ?_
  have sum : UnpackedFloat.add .binary64 x.toModel.unpack y.toModel.unpack = x.toModel.unpack := by
    rw [left, right]
    rfl
  rw [add_eq, sum, pack_unpack]

theorem Below.add (left : Below a x) (right : Below a y) (small : a + 2 ≤ 1024) :
    Below (a + 2) (x + y) := by
  rcases left with ⟨s, parts⟩ | ⟨s, m, e, pos, parts, size⟩ <;>
    rcases right with ⟨t, parts'⟩ | ⟨t, n, f, pos', parts', size'⟩
  · rw [add_eq, parts, parts']
    cases s <;> cases t <;> exact below_zero _
  · rw [zero_add parts parts']
    exact .inr ⟨t, n, f, pos', parts', by omega⟩
  · rw [add_zero parts parts']
    exact .inr ⟨s, m, e, pos, parts, by omega⟩
  · obtain ⟨m', n', c, sum, -, -, total, total'⟩ := add_finite (s := s) (t := t) pos pos'
    rw [add_eq, parts, parts', sum]
    refine below_normalize _ c .positive ?_ small
    have triangle : (s.apply m' + t.apply n').natAbs ≤ m' + n' := by
      cases s <;> cases t <;> simp only [Sign.apply] <;> omega
    have sizes := (totalExponent_mono triangle c).trans (totalExponent_add_le m' n' c)
    push_cast
    omega

theorem Between.add (left : Between l h x) (right : Between l' h y) (least : -1073 ≤ l)
    (small : h + 2 ≤ 1024) : Between l (h + 2) (x + y) := by
  obtain ⟨m, e, pos, parts, low, high⟩ := left
  obtain ⟨n, f, pos', parts', -, high'⟩ := right
  obtain ⟨m', n', c, sum, left, right, total, total'⟩ :=
    add_finite (e := e) (f := f) (s := .positive) (t := .positive) pos pos'
  have below := totalExponent_add_le m' n' c
  have above := totalExponent_mono (Nat.le_add_right m' n') c
  rw [add_eq, parts, parts', sum]
  rcases normalize_cases ((m' : Int) + n') c .positive with
    ⟨zero, -⟩ | ⟨t, nonzero, sign, rounded⟩
  · omega
  · obtain rfl := sign (by omega)
    obtain ⟨m₁, e₁, pos₁, aligned, fits, same⟩ := round_eq (Int.natAbs_pos.mpr nonzero) .positive c
    have whole : ((m' : Int) + n').natAbs = m' + n' := by omega
    rw [whole] at same
    simp only [Sign.apply]
    rw [rounded, aligned]
    exact between_round pos₁ fits .exact (by omega) (by omega) (by omega) (by omega)

/-- A difference is the sum with the negation. -/
theorem sub_eq_add_neg (x y : Float) : x - y = x + -y := by
  have same (u v : UnpackedFloat) :
      UnpackedFloat.sub .binary64 u v = UnpackedFloat.add .binary64 u v.neg := by
    cases u with
    | notANumber => cases v <;> rfl
    | infinity s => cases v <;> rfl
    | zero s => cases v <;> rfl
    | finite s m e pos =>
        cases v with
        | notANumber | infinity t | zero t => rfl
        | finite t n f pos' =>
            cases t
            · exact congrArg (fun k => UnpackedFloat.normalize .binary64 k (min e f) .positive)
                (Int.sub_neg _ _)
            · exact congrArg (fun k => UnpackedFloat.normalize .binary64 k (min e f) .positive)
                Int.sub_eq_add_neg
  rw [add_eq, unpack_neg, ← same]
  rfl

theorem Below.sub (left : Below a x) (right : Below a y) (small : a + 2 ≤ 1024) :
    Below (a + 2) (x - y) := by
  rw [sub_eq_add_neg]
  exact left.add right.neg small

/-- A finite double and a number have a sum. -/
theorem Below.not_isNaN_add (left : Below a x) (number : y.isNaN = false) :
    (x + y).isNaN = false := by
  have number' := left.not_isNaN
  rcases left with ⟨s, parts⟩ | ⟨s, m, e, pos, parts, -⟩ <;>
    rcases number_cases number with ⟨t, parts'⟩ | ⟨t, parts'⟩ | ⟨t, n, f, pos', parts'⟩
  · rw [add_eq, parts, parts']
    exact not_isNaN_infinity t
  · rw [add_eq, parts, parts']
    cases s <;> cases t <;> exact (below_zero (a := 0) _).not_isNaN
  · rwa [zero_add parts parts']
  · rw [add_eq, parts, parts']
    exact not_isNaN_infinity t
  · rwa [add_zero parts parts']
  · rw [add_eq, parts, parts']
    exact not_isNaN_normalize _ _ _

theorem Below.not_isNaN_sub (left : Below a x) (number : y.isNaN = false) :
    (x - y).isNaN = false := by
  rw [sub_eq_add_neg]
  exact left.not_isNaN_add ((isNaN_neg y).trans number)

/-! ## Quotients -/

theorem log_div_bounds (positive : 0 < n) (le : Nat.log 2 n < Nat.log 2 m) :
    Nat.log 2 m ≤ Nat.log 2 (m / n) + Nat.log 2 n + 1 ∧
      Nat.log 2 (m / n) + Nat.log 2 n ≤ Nat.log 2 m := by
  have le' : n ≤ m := Nat.le_of_lt (Nat.lt_of_not_le fun le' =>
    (Nat.log_mono_right (b := 2) le').not_gt le)
  have quotient : 0 < m / n := Nat.div_pos le' positive
  constructor
  · have within : m < 2 ^ (Nat.log 2 n + 1) * 2 ^ (Nat.log 2 (m / n) + 1) :=
      calc m < n * (m / n + 1) := Nat.lt_mul_div_succ m positive
        _ ≤ 2 ^ (Nat.log 2 n + 1) * 2 ^ (Nat.log 2 (m / n) + 1) :=
          Nat.mul_le_mul (Nat.lt_pow_succ_log_self Nat.one_lt_two n).le
            (Nat.lt_pow_succ_log_self Nat.one_lt_two (m / n))
    rw [← Nat.pow_add] at within
    have logs := Nat.log_lt_of_lt_pow (positive.trans_le le').ne' within
    omega
  · exact (log_mul_bounds quotient positive).1.trans (Nat.log_mono_right (Nat.div_mul_le_self m n))

theorem div_eq (x y : Float) :
    x / y = .ofModel (.pack (UnpackedFloat.div .binary64 x.toModel.unpack y.toModel.unpack)) := rfl

/-- A quotient is taken with as many digits as a double has. -/
theorem div_finite (pos : 0 < m) (pos' : 0 < n) : ∃ (k : Nat) (c : Int) (accuracy : Accuracy),
    UnpackedFloat.div .binary64 (.finite s m e pos) (.finite t n f pos') =
      roundWithAccuracy .binary64 (s / t) (m <<< k / n) c accuracy ∧
    c + k = e - f ∧
    c ≤ Format.binary64.targetExponent (totalExponent m e - totalExponent n f) :=
  ⟨_, _, _, rfl, by omega, Int.min_le_right _ _⟩

theorem Between.div (left : Between l h x) (right : Between l' h' y) (least : -1021 ≤ l - h')
    (small : h - l' + 2 ≤ 1024) : Between (l - h') (h - l' + 2) (x / y) := by
  obtain ⟨m, e, pos, parts, low, high⟩ := left
  obtain ⟨n, f, pos', parts', low', high'⟩ := right
  obtain ⟨k, c, accuracy, division, exponents, digits⟩ :=
    div_finite (s := .positive) (t := .positive) (e := e) (f := f) pos pos'
  rw [totalExponent_eq] at low high low' high'
  rw [targetExponent_eq, totalExponent_eq, totalExponent_eq] at digits
  have shifted := log_shiftLeft pos k
  have logs := log_div_bounds (m := m <<< k) pos' (by omega)
  have quotient : 0 < m <<< k / n := by
    refine Nat.pos_of_ne_zero fun zero => ?_
    rw [zero, Nat.log_zero_right] at logs
    omega
  have total := totalExponent_eq (m <<< k / n) c
  have fits : c ≤ Format.binary64.targetExponent (totalExponent (m <<< k / n) c) := by
    rw [targetExponent_eq]
    omega
  rw [div_eq, parts, parts', division]
  exact between_round quotient fits accuracy (by omega) (by omega) (by omega) (by omega)

/-- The quotient by a positive number is a number. -/
theorem Between.not_isNaN_div (right : Between l h y) (number : x.isNaN = false) :
    (x / y).isNaN = false := by
  obtain ⟨n, f, pos', parts', -⟩ := right
  rcases number_cases number with ⟨s, parts⟩ | ⟨s, parts⟩ | ⟨s, m, e, pos, parts⟩
  · rw [div_eq, parts, parts']
    exact not_isNaN_infinity _
  · rw [div_eq, parts, parts']
    exact (below_zero (a := 0) _).not_isNaN
  · rw [div_eq, parts, parts']
    exact not_isNaN_round _ _ _ _

/-- The quotient of zero is zero, and so is not larger than what zero is not larger than. -/
theorem Between.div_le_of_zero (right : Between l h y) (zero : ∃ s, x.toModel.unpack = .zero s)
    (le : x ≤ z) : x / y ≤ z := by
  obtain ⟨⟨number, number'⟩, ranks⟩ := le_iff_rank.mp le
  refine le_iff_rank.mpr ⟨⟨right.not_isNaN_div number, number'⟩, ?_⟩
  obtain ⟨n, f, pos, parts', -⟩ := right
  obtain ⟨s, parts⟩ := zero
  have quotient : (x / y).toModel.unpack = .zero (s / .positive) := by
    rw [div_eq, parts, parts']
    exact unpack_zero _
  rw [parts] at ranks
  rwa [quotient]

/-! ## Roots -/

theorem log_sqrt (positive : 0 < m) : Nat.log 2 m.sqrt = Nat.log 2 m / 2 := by
  refine Nat.log_eq_of_pow_le_of_lt_pow ?_ ?_
  · rw [Nat.le_sqrt, ← Nat.pow_add]
    refine (Nat.pow_le_pow_right Nat.two_pos ?_).trans (Nat.pow_log_le_self 2 positive.ne')
    omega
  · rw [Nat.sqrt_lt, ← Nat.pow_add]
    have below := Nat.lt_pow_succ_log_self Nat.one_lt_two m
    refine below.trans_le (Nat.pow_le_pow_right Nat.two_pos ?_)
    omega

theorem sqrt_eq (x : Float) :
    x.sqrt = .ofModel (.pack (UnpackedFloat.sqrt .binary64 x.toModel.unpack)) := rfl

/-- A root is taken with as many digits as a double has. -/
theorem sqrt_finite (pos : 0 < m) : ∃ (k : Nat) (c : Int) (accuracy : Accuracy),
    UnpackedFloat.sqrt .binary64 (.finite .positive m e pos) =
      roundWithAccuracy .binary64 .positive (m <<< k).sqrt c accuracy ∧
    2 * c + k = e ∧ c ≤ Format.binary64.targetExponent ((totalExponent m e + 1) / 2) := by
  refine ⟨_, _, _, rfl, ?_, Int.min_le_right _ _⟩
  have half : e.ediv 2 = e / 2 := rfl
  omega

theorem Between.sqrt (between : Between l h x) (least : -2145 < l) (small : h ≤ 1024) :
    Between ((l + 1) / 2) ((h + 1) / 2 + 1) x.sqrt := by
  obtain ⟨m, e, pos, parts, low, high⟩ := between
  obtain ⟨k, c, accuracy, root, exponents, digits⟩ := sqrt_finite (e := e) pos
  rw [totalExponent_eq] at low high digits
  have shifted := log_shiftLeft pos k
  have positive : 0 < m <<< k := Nat.shiftLeft_pos_iff.mpr pos
  have logs := log_sqrt positive
  have total := totalExponent_eq (m <<< k).sqrt c
  have fits : c ≤ Format.binary64.targetExponent (totalExponent (m <<< k).sqrt c) := by
    rw [targetExponent_eq] at digits ⊢
    omega
  rw [sqrt_eq, parts, root]
  exact between_round (Nat.sqrt_pos.mpr positive) fits accuracy (by omega) (by omega) (by omega)
    (by omega)

end BlockStage.Binary64
