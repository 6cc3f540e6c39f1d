import Mathlib.Algebra.Field.Rat
import Mathlib.Algebra.Order.Ring.Nat
import Mathlib.Data.Nat.Log

/-!
# Binary64 values of integer ratios

The values of `number as f64` and of the quotient of two such values, as
rational numbers: rounding to 53 significant bits, to nearest, ties to even.
Only quotients of at most one are divided, so no exponent is out of range.
-/

namespace Float64

/-- The quotient rounded to the nearest integer, ties to even. -/
def roundHalfEven (numerator denominator : ℕ) : ℕ :=
  let quotient := numerator / denominator
  let twice := 2 * (numerator % denominator)
  if twice < denominator then quotient
  else if denominator < twice then quotient + 1
  else if quotient % 2 = 0 then quotient else quotient + 1

/-- `number as f64`, which is an integer again. -/
def ofNat (number : ℕ) : ℕ :=
  let unit := 2 ^ (number.log2 - 52)
  roundHalfEven number unit * unit

/-- The quotient of two values, the first not above the second, as a double. -/
def div (numerator denominator : ℕ) : ℚ :=
  if numerator = 0 then 0
  else
    let shift := 52 + denominator.log2 - numerator.log2
    let shift := if numerator * 2 ^ shift < 2 ^ 52 * denominator then shift + 1 else shift
    (roundHalfEven (numerator * 2 ^ shift) denominator : ℚ) / 2 ^ shift

end Float64
