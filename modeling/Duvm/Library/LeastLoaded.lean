import Mathlib.Algebra.Order.Field.Rat
import Mathlib.Algebra.Order.Ring.Nat
import Mathlib.Data.Nat.Cast.Order.Ring
import Mathlib.Logic.Function.Basic

/-!
# Filling the least loaded first

Units are placed one by one, each in a place which is not full and has the least
quotient of used and total units among those. Then no place is ever ahead of another
by more than one unit: without its last unit, its quotient is at most that of the
other.

Quotients are compared by cross-multiplication, so places with no room at all need no
exception.
-/

universe u

namespace LeastLoaded

open Function (update)

variable {Place : Type u} {total used : Place → ℕ}

/-- Not full, and no place which is not full has a smaller quotient. -/
structure Least (total used : Place → ℕ) (chosen : Place) : Prop where
  room : used chosen < total chosen
  least : ∀ other, used other < total other →
    used chosen * total other ≤ used other * total chosen

/-- Without its last unit no place is ahead of another. -/
def Balanced (total used : Place → ℕ) : Prop :=
  ∀ first second, 0 < used first → (used first - 1) * total second ≤ used second * total first

theorem balanced_of_empty (empty : ∀ place, used place = 0) : Balanced total used := by
  intro first second positive
  rw [empty first] at positive
  exact absurd positive (Nat.lt_irrefl 0)

/-- The chosen place is not ahead of any other, full or not. -/
theorem Least.le {chosen : Place} (least : Least total used chosen)
    (within : ∀ place, used place ≤ total place) (other : Place) :
    used chosen * total other ≤ used other * total chosen := by
  by_cases room : used other < total other
  · exact least.least other room
  · have full : used other = total other := Nat.le_antisymm (within other) (Nat.not_lt.mp room)
    rw [full, Nat.mul_comm]
    exact Nat.mul_le_mul_left _ least.room.le

theorem Balanced.fill [DecidableEq Place] {chosen : Place} (balanced : Balanced total used)
    (within : ∀ place, used place ≤ total place) (least : Least total used chosen) :
    Balanced total (update used chosen (used chosen + 1)) := by
  have grows : ∀ place, used place ≤ update used chosen (used chosen + 1) place := by
    intro place
    rw [Function.update_apply]
    split
    · next same =>
        rw [same]
        exact Nat.le_succ _
    · exact Nat.le_refl _
  intro first second positive
  refine le_trans ?_ (Nat.mul_le_mul_right (total first) (grows second))
  by_cases isChosen : first = chosen
  · rw [isChosen, Function.update_self, Nat.add_sub_cancel]
    exact least.le within second
  · rw [Function.update_of_ne isChosen] at positive ⊢
    exact balanced first second positive

/-- Between places of the same size, the used units differ by at most one. -/
theorem Balanced.le_succ {first second : Place} (balanced : Balanced total used)
    (sameTotal : total first = total second) (positive : 0 < total first) :
    used first ≤ used second + 1 := by
  rcases Nat.eq_zero_or_pos (used first) with none | some
  · omega
  · have ahead := balanced first second some
    rw [← sameTotal] at ahead
    have atMost := Nat.le_of_mul_le_mul_right ahead positive
    omega

theorem Balanced.div_le_div {first second : Place} (balanced : Balanced total used)
    (firstPositive : 0 < total first) (secondPositive : 0 < total second)
    (some : 0 < used first) :
    ((used first : ℚ) - 1) / total first ≤ used second / total second := by
  have firstTotal : (0 : ℚ) < total first := Nat.cast_pos.mpr firstPositive
  have secondTotal : (0 : ℚ) < total second := Nat.cast_pos.mpr secondPositive
  have ahead : (((used first - 1) * total second : ℕ) : ℚ) ≤ (used second * total first : ℕ) :=
    Nat.cast_le.mpr (balanced first second some)
  rw [div_le_div_iff₀ firstTotal secondTotal]
  rw [Nat.cast_mul, Nat.cast_mul, Nat.cast_sub some, Nat.cast_one] at ahead
  exact ahead

end LeastLoaded
