import Duvm.Library.Float64
import Mathlib.Tactic.FieldSimp
import Mathlib.Tactic.Linarith
import Mathlib.Tactic.Positivity
import Mathlib.Tactic.Ring

/-!
# Comparing rounded quotients

The quotient of two integers as a double depends on the value of the quotient
only, and is at most 2⁻⁵⁴ away from it. Two different quotients whose
denominators have a product below 2⁵³ are further apart than that, so such
quotients compare as doubles as they do exactly.
-/

namespace Float64

variable {numerator denominator : ℕ}

/-- Up to 53 bits there is nothing to round. -/
theorem ofNat_of_lt {number : ℕ} (small : number < 2 ^ 53) : ofNat number = number := by
  have bits : number.log2 - 52 = 0 := by
    rcases Nat.eq_zero_or_pos number with rfl | positive
    · rfl
    · have := (Nat.log2_lt positive.ne').mpr small
      omega
  simp [ofNat, bits, roundHalfEven, Nat.mod_one]

theorem roundHalfEven_mul (factor : ℕ) (positive : 0 < factor) :
    roundHalfEven (factor * numerator) (factor * denominator) =
      roundHalfEven numerator denominator := by
  have scaled : ∀ left right, factor * left < factor * right ↔ left < right :=
    fun left right => Nat.mul_lt_mul_left positive
  have twice : 2 * (factor * (numerator % denominator)) =
      factor * (2 * (numerator % denominator)) := Nat.mul_left_comm _ _ _
  simp only [roundHalfEven, Nat.mul_div_mul_left _ _ positive, Nat.mul_mod_mul_left, twice, scaled]

variable {otherDenominator otherNumerator : ℕ}

/-- Equal quotients are rounded alike. -/
theorem roundHalfEven_of_eq (positive : 0 < denominator) (otherPositive : 0 < otherDenominator)
    (equal : numerator * otherDenominator = otherNumerator * denominator) :
    roundHalfEven numerator denominator = roundHalfEven otherNumerator otherDenominator := by
  rw [← roundHalfEven_mul otherDenominator otherPositive, Nat.mul_comm otherDenominator numerator,
    equal, Nat.mul_comm otherNumerator, Nat.mul_comm otherDenominator,
    roundHalfEven_mul denominator positive]

/-- The rounded quotient is at most one half away from the exact one. -/
theorem roundHalfEven_near (positive : 0 < denominator) :
    2 * (roundHalfEven numerator denominator * denominator) ≤ 2 * numerator + denominator ∧
      2 * numerator ≤ 2 * (roundHalfEven numerator denominator * denominator) + denominator := by
  have split := Nat.div_add_mod' numerator denominator
  have rest := Nat.mod_lt numerator positive
  have next : (numerator / denominator + 1) * denominator =
      numerator / denominator * denominator + denominator := Nat.succ_mul _ _
  simp only [roundHalfEven]
  split_ifs <;> omega

/-- The numerator shifted so far that the quotient has 53 bits. -/
structure Scaled (numerator denominator shift : ℕ) : Prop where
  least : 2 ^ 52 * denominator ≤ numerator * 2 ^ shift
  less : numerator * 2 ^ shift < 2 ^ 53 * denominator

/-- Equal quotients are shifted alike. -/
theorem Scaled.shift_le {shift other : ℕ} (scaled : Scaled numerator denominator shift)
    (otherScaled : Scaled otherNumerator otherDenominator other)
    (otherPositive : 0 < otherDenominator)
    (equal : numerator * otherDenominator = otherNumerator * denominator) : shift ≤ other := by
  by_contra less
  rcases Nat.exists_eq_add_of_lt (Nat.not_le.mp less) with ⟨extra, rfl⟩
  -- both sides times the other denominator, where the two quotients meet
  have above := Nat.mul_lt_mul_of_pos_right scaled.less otherPositive
  have below := Nat.mul_le_mul_right denominator otherScaled.least
  have same : numerator * 2 ^ (other + extra + 1) * otherDenominator =
      otherNumerator * 2 ^ other * denominator * (2 * 2 ^ extra) := by
    rw [Nat.mul_right_comm, equal]
    ring
  have grown := Nat.mul_le_mul below (Nat.one_le_two_pow (n := extra))
  rw [same] at above
  have doubled : 2 ^ 53 * denominator * otherDenominator =
      2 * (2 ^ 52 * otherDenominator * denominator) := by ring
  rw [doubled] at above
  nlinarith [above, grown]

theorem div_eq (positive : 0 < numerator) (atMost : numerator ≤ denominator) :
    ∃ shift, Scaled numerator denominator shift ∧
      div numerator denominator =
        (roundHalfEven (numerator * 2 ^ shift) denominator : ℚ) / 2 ^ shift := by
  have least := Nat.log2_self_le positive.ne'
  have less := @Nat.lt_log2_self numerator
  have denominatorLeast := @Nat.log2_self_le denominator (by omega)
  have denominatorLess := @Nat.lt_log2_self denominator
  have fewerBits : numerator.log2 ≤ denominator.log2 :=
    (Nat.le_log2 (by omega)).mpr (least.trans atMost)
  generalize bits : numerator.log2 = low at *
  obtain ⟨extra, split⟩ := Nat.exists_eq_add_of_le fewerBits
  have shift : 52 + denominator.log2 - low = 52 + extra := by omega
  rw [split, pow_succ, pow_add] at denominatorLess
  rw [split, pow_add] at denominatorLeast
  rw [pow_succ] at less
  have grown := Nat.mul_le_mul_right (2 ^ (52 + extra)) least
  have bounded := Nat.mul_lt_mul_of_pos_right less (Nat.two_pow_pos (52 + extra))
  rw [div, if_neg positive.ne', bits, shift]
  simp only
  rw [pow_add] at grown bounded
  split_ifs with short
  · refine ⟨52 + extra + 1, ⟨?_, ?_⟩, rfl⟩
    · rw [pow_succ 2 (52 + extra), pow_add]
      nlinarith
    · rw [pow_succ 2 (52 + extra), ← Nat.mul_assoc]
      omega
  · refine ⟨52 + extra, ⟨Nat.not_lt.mp short, ?_⟩, rfl⟩
    rw [pow_add]
    nlinarith

/-- The double depends on the value of the quotient only. -/
theorem div_of_eq (positive : 0 < denominator) (otherPositive : 0 < otherDenominator)
    (atMost : numerator ≤ denominator) (otherAtMost : otherNumerator ≤ otherDenominator)
    (equal : numerator * otherDenominator = otherNumerator * denominator) :
    div numerator denominator = div otherNumerator otherDenominator := by
  rcases Nat.eq_zero_or_pos numerator with rfl | numeratorPositive
  · have zero : otherNumerator = 0 := by
      rw [Nat.zero_mul, eq_comm, Nat.mul_eq_zero] at equal
      omega
    rw [zero, div, div, if_pos rfl, if_pos rfl]
  · have otherNumeratorPositive : 0 < otherNumerator := by
      rcases Nat.eq_zero_or_pos otherNumerator with rfl | isPositive
      · have product := Nat.mul_pos numeratorPositive otherPositive
        omega
      · exact isPositive
    rcases div_eq numeratorPositive atMost with ⟨shift, scaled, value⟩
    rcases div_eq otherNumeratorPositive otherAtMost with ⟨other, otherScaled, otherValue⟩
    have sameShift : shift = other :=
      Nat.le_antisymm (scaled.shift_le otherScaled otherPositive equal)
        (otherScaled.shift_le scaled positive equal.symm)
    subst sameShift
    have sameRatio : numerator * 2 ^ shift * otherDenominator =
        otherNumerator * 2 ^ shift * denominator := by
      rw [Nat.mul_right_comm, equal, Nat.mul_right_comm]
    rw [value, otherValue, roundHalfEven_of_eq positive otherPositive sameRatio]

/-- A quotient below one is rounded by at most half of the last bit below one. -/
theorem abs_div_sub_le (less : numerator < denominator) :
    |div numerator denominator - numerator / denominator| ≤ 1 / 2 ^ 54 := by
  rcases Nat.eq_zero_or_pos numerator with rfl | positive
  · simp [div]
  · rcases div_eq positive less.le with ⟨shift, scaled, value⟩
    have enough : 53 ≤ shift := by
      by_contra short
      have power : 2 ^ shift ≤ 2 ^ 52 := Nat.pow_le_pow_right (by omega) (by omega)
      have least := scaled.least
      have product := Nat.mul_le_mul_left numerator power
      have strict := Nat.mul_lt_mul_of_pos_right less (Nat.two_pow_pos 52)
      omega
    rcases @roundHalfEven_near (numerator * 2 ^ shift) denominator (by omega) with ⟨above, below⟩
    rw [value]
    generalize roundHalfEven (numerator * 2 ^ shift) denominator = rounded at above below
    have denominatorPositive : (0 : ℚ) < denominator := by exact_mod_cast positive.trans less
    have power : (0 : ℚ) < 2 ^ shift := by positivity
    have difference : (rounded : ℚ) / 2 ^ shift - numerator / denominator =
        (rounded * denominator - numerator * 2 ^ shift) / (2 ^ shift * denominator) := by
      field_simp
    have near : |(rounded : ℚ) * denominator - numerator * 2 ^ shift| ≤ denominator / 2 := by
      have aboveRat : (2 : ℚ) * (rounded * denominator) ≤
          2 * (numerator * 2 ^ shift) + denominator := by exact_mod_cast above
      have belowRat : (2 : ℚ) * (numerator * 2 ^ shift) ≤
          2 * (rounded * denominator) + denominator := by exact_mod_cast below
      rw [abs_le]
      constructor <;> linarith
    calc |(rounded : ℚ) / 2 ^ shift - numerator / denominator|
        = |(rounded : ℚ) * denominator - numerator * 2 ^ shift| / (2 ^ shift * denominator) := by
          rw [difference, abs_div, abs_of_pos (mul_pos power denominatorPositive)]
      _ ≤ denominator / 2 / (2 ^ shift * denominator) := by gcongr
      _ = 1 / 2 ^ (shift + 1) := by
          rw [pow_succ]
          field_simp
      _ ≤ 1 / 2 ^ 54 :=
          one_div_le_one_div_of_le (by positivity)
            (pow_le_pow_right₀ (by norm_num) (by omega))

/-- Quotients with small denominators keep their order, -/
theorem div_lt_div (less : numerator < denominator)
    (otherLess : otherNumerator < otherDenominator)
    (small : denominator * otherDenominator < 2 ^ 53)
    (ordered : numerator * otherDenominator < otherNumerator * denominator) :
    div numerator denominator < div otherNumerator otherDenominator := by
  have positive : (0 : ℚ) < denominator := by exact_mod_cast Nat.zero_lt_of_lt less
  have otherPositive : (0 : ℚ) < otherDenominator := by
    exact_mod_cast Nat.zero_lt_of_lt otherLess
  have gap : (1 : ℚ) / 2 ^ 53 <
      otherNumerator / otherDenominator - numerator / denominator := by
    have apart : (1 : ℚ) ≤ otherNumerator * denominator - otherDenominator * numerator := by
      have apartNat : otherDenominator * numerator + 1 ≤ otherNumerator * denominator := by
        rw [Nat.mul_comm otherDenominator]
        exact ordered
      have apartRat : (otherDenominator : ℚ) * numerator + 1 ≤ otherNumerator * denominator := by
        exact_mod_cast apartNat
      linarith
    have smallRat : (otherDenominator : ℚ) * denominator < 2 ^ 53 := by
      rw [mul_comm]
      exact_mod_cast small
    rw [div_sub_div _ _ otherPositive.ne' positive.ne',
      div_lt_div_iff₀ (by positivity) (by positivity)]
    nlinarith
  have close := abs_le.mp (abs_div_sub_le less)
  have otherClose := abs_le.mp (abs_div_sub_le otherLess)
  have half : (1 : ℚ) / 2 ^ 53 = 1 / 2 ^ 54 + 1 / 2 ^ 54 := by norm_num
  linarith [close.2, otherClose.1]

/-- so they compare as doubles as they do exactly. -/
theorem div_lt_div_iff (less : numerator < denominator)
    (otherLess : otherNumerator < otherDenominator)
    (small : denominator * otherDenominator < 2 ^ 53) :
    div numerator denominator < div otherNumerator otherDenominator ↔
      numerator * otherDenominator < otherNumerator * denominator := by
  constructor
  · intro below
    by_contra notLess
    rcases Nat.eq_or_lt_of_le (Nat.not_lt.mp notLess) with equal | greater
    · have same := div_of_eq (Nat.zero_lt_of_lt otherLess) (Nat.zero_lt_of_lt less) otherLess.le
        less.le equal
      exact below.ne same.symm
    · have above := div_lt_div otherLess less (by rwa [Nat.mul_comm]) greater
      exact below.not_gt above
  · exact div_lt_div less otherLess small

end Float64
