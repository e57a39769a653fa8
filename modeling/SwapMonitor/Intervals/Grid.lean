import Mathlib.Algebra.Order.Ring.Int
import Mathlib.Tactic.Linarith
import Mathlib.Tactic.Ring

namespace Intervals

-- The start of the cell of a grid that a point lies in.
def cell (origin width t : Int) : Int := origin + (t - origin) / width * width

variable {origin width t n k : Int}

theorem cell_below (positive : 0 < width) : cell origin width t ≤ t := by
  have below := Int.ediv_mul_le (t - origin) positive.ne'
  unfold cell
  omega

theorem cell_above (positive : 0 < width) : t < cell origin width t + width := by
  have above := Int.lt_ediv_add_one_mul_self (t - origin) positive
  unfold cell
  linarith

theorem cell_unique (positive : 0 < width) (low : origin + n * width ≤ t) (high : t < origin + n * width + width) :
    cell origin width t = origin + n * width := by
  have quotient : (t - origin) / width = n := by
    rw [Int.ediv_eq_iff_of_pos positive]
    constructor <;> linarith
  unfold cell
  rw [quotient]

theorem cell_start (positive : 0 < width) : cell origin width (origin + n * width) = origin + n * width :=
  cell_unique positive (le_refl _) (by omega)

-- A wider grid of the same origin joins whole cells.
theorem cell_nested (positive : 0 < width) (more : 0 < k) :
    cell origin (k * width) t ≤ cell origin width t ∧ cell origin width t + width ≤ cell origin (k * width) t + k * width := by
  have wide := Int.mul_pos more positive
  have below := Int.ediv_mul_le (t - origin) wide.ne'
  have above := Int.lt_ediv_add_one_mul_self (t - origin) wide
  have low : (t - origin) / (k * width) * k ≤ (t - origin) / width := by
    rw [Int.le_ediv_iff_mul_le positive,mul_assoc]
    exact below
  have high : (t - origin) / width < ((t - origin) / (k * width) + 1) * k := by
    rw [Int.ediv_lt_iff_lt_mul positive,mul_assoc]
    exact above
  unfold cell
  constructor
  · have := mul_le_mul_of_nonneg_right low positive.le
    linarith
  · have := mul_le_mul_of_nonneg_right (Int.add_one_le_iff.mpr high) positive.le
    linarith

end Intervals
