import SwapMonitor.Arithmetic.Grid
import Mathlib.Data.Int.ConditionallyCompleteOrder
import Mathlib.Data.Int.Log
import Mathlib.Tactic.Ring
import Mathlib.Tactic.Linarith

namespace Arithmetic

section Multiples
variable {α : Type} [Field α] {step x : α}

theorem grid_scaled (n : Int) (grid : OnGrid step x) : OnGrid step (n * x) := by
  obtain ⟨m,rfl⟩ := grid
  exact ⟨n * m,by push_cast; ring⟩

theorem grid_neg (grid : OnGrid step x) : OnGrid step (-x) := by
  obtain ⟨m,rfl⟩ := grid
  exact ⟨-m,by push_cast; ring⟩

end Multiples

variable {α : Type} [Field α] [LinearOrder α] [FloorRing α]

-- The exponent of the last of so many significant digits, which is never below a lowest one.
def place (base precision : Nat) (lowest : Int) (x : α) : Int := max (Int.log base |x| + 1 - precision) lowest

-- A rounding to so many significant digits.
def Rounding.significant (r : Rounding α) (base precision : Nat) (lowest : Int) (x : α) : α :=
  r.onto ((base : α) ^ place base precision lowest x) x

variable {r : Rounding α} {base precision : Nat} {lowest : Int} {x y : α}

theorem place_neg (z : α) : place base precision lowest (-z) = place base precision lowest z := by
  unfold place
  rw [abs_neg]

theorem significant_zero : r.significant base precision lowest 0 = 0 := by
  have nearest : r.apply 0 = 0 := le_antisymm (apply_below (by simp)) (apply_above (by simp))
  simp [Rounding.significant,Rounding.onto,nearest]

variable [IsStrictOrderedRing α]

theorem base_power (radix : 1 < base) (k : Int) : (0 : α) < (base : α) ^ k :=
  zpow_pos (by exact_mod_cast Nat.zero_lt_of_lt radix) k

theorem power_grid (radix : 1 < base) {low high : Int} (order : low ≤ high) : OnGrid ((base : α) ^ low) ((base : α) ^ high) := by
  have nonzero : (base : α) ≠ 0 := (by exact_mod_cast Nat.zero_lt_of_lt radix : (0 : α) < base).ne'
  refine ⟨(base : Int) ^ (high - low).toNat,?_⟩
  have shift : (((high - low).toNat : Nat) : Int) = high - low := Int.toNat_of_nonneg (by omega)
  push_cast
  rw [← zpow_natCast,shift,← zpow_add₀ nonzero]
  congr 1
  omega

theorem onto_mono {step : α} (mono : Monotone r.apply) (positive : 0 < step) (order : x ≤ y) : r.onto step x ≤ r.onto step y := by
  have counts : (r.apply (x / step) : α) ≤ r.apply (y / step) := by
    exact_mod_cast mono (div_le_div_of_nonneg_right order positive.le)
  exact mul_le_mul_of_nonneg_right counts positive.le

-- A power of the base up to the first digit of a number is a multiple of its last place.
theorem leading_grid (radix : 1 < base) (digits : 0 < precision) (z : α) {k : Int} (low : lowest ≤ k)
    (leading : Int.log base |z| ≤ k) : OnGrid ((base : α) ^ place base precision lowest z) ((base : α) ^ k) :=
  power_grid radix (by unfold place; omega)

theorem log_order (positive : 0 < x) (order : x ≤ y) : Int.log base |x| ≤ Int.log base |y| := by
  rw [abs_of_pos positive,abs_of_pos (lt_of_lt_of_le positive order)]
  exact Int.log_mono_right positive order

-- Between two positive numbers of different places lies the power that the greater begins with.
theorem places_apart (radix : 1 < base) (digits : 0 < precision) (positive : 0 < x) (order : x ≤ y)
    (apart : place base precision lowest x ≠ place base precision lowest y) :
    ∃ power : α, x ≤ power ∧ power ≤ y ∧ OnGrid ((base : α) ^ place base precision lowest x) power ∧
      OnGrid ((base : α) ^ place base precision lowest y) power := by
  have logs : Int.log base |x| ≤ Int.log base |y| := log_order positive order
  have less : Int.log base |x| < Int.log base |y| := by
    refine lt_of_le_of_ne logs fun same => apart ?_
    unfold place
    rw [same]
  have above : lowest ≤ Int.log base |y| + 1 - precision := by
    unfold place at apart
    omega
  have upper : 0 < y := lt_of_lt_of_le positive order
  have begins := Int.zpow_log_le_self radix upper
  have ends := Int.lt_zpow_succ_log_self radix x
  rw [abs_of_pos positive] at less
  rw [abs_of_pos upper] at less above
  have grows : (base : α) ^ (Int.log base x + 1) ≤ (base : α) ^ Int.log base y :=
    zpow_le_zpow_right₀ (by exact_mod_cast radix.le) (by omega)
  refine ⟨(base : α) ^ Int.log base y,(ends.trans_le grows).le,begins,?_,?_⟩
  · exact leading_grid radix digits x (by omega) (by rw [abs_of_pos positive]; omega)
  · exact leading_grid radix digits y (by omega) (by rw [abs_of_pos upper])

-- A rounding that keeps the order of whole numbers keeps it at any number of digits.
theorem significant_mono (mono : Monotone r.apply) (radix : 1 < base) (digits : 0 < precision) (order : x ≤ y) :
    r.significant base precision lowest x ≤ r.significant base precision lowest y := by
  unfold Rounding.significant
  by_cases same : place base precision lowest x = place base precision lowest y
  · rw [same]
    exact onto_mono mono (base_power radix _) order
  have between : ∀ power : α, x ≤ power → power ≤ y → OnGrid ((base : α) ^ place base precision lowest x) power →
      OnGrid ((base : α) ^ place base precision lowest y) power →
      r.onto ((base : α) ^ place base precision lowest x) x ≤ r.onto ((base : α) ^ place base precision lowest y) y :=
    fun power low high left right =>
      (onto_below (base_power radix _) left low).trans (onto_above (base_power radix _) right high)
  rcases lt_or_ge 0 x with positive | nonpos
  · obtain ⟨power,low,high,left,right⟩ := places_apart radix digits positive order same
    exact between power low high left right
  rcases lt_or_ge y 0 with negative | nonneg
  · have apart : place base precision lowest (-y) ≠ place base precision lowest (-x) := by
      rw [place_neg,place_neg]
      exact fun equal => same equal.symm
    obtain ⟨power,low,high,right,left⟩ := places_apart radix digits (neg_pos.mpr negative) (neg_le_neg order) apart
    rw [place_neg] at left right
    exact between (-power) (le_neg_of_le_neg high) (neg_le_of_neg_le low) (grid_neg left) (grid_neg right)
  · exact between 0 nonpos nonneg grid_zero grid_zero

-- A number of no more digits is kept.
theorem significant_kept (radix : 1 < base) {coefficient exponent : Int} (value : x = coefficient * (base : α) ^ exponent)
    (short : coefficient.natAbs < base ^ precision) (low : lowest ≤ exponent) : r.significant base precision lowest x = x := by
  apply onto_kept (base_power radix _)
  by_cases zero : x = 0
  · rw [zero]
    exact grid_zero
  have size : |x| < (base : α) ^ (precision + exponent : Int) := by
    have nonzero : (base : α) ≠ 0 := (by exact_mod_cast Nat.zero_lt_of_lt radix : (0 : α) < base).ne'
    have small : |(coefficient : α)| < (base : α) ^ (precision : Int) := by
      rw [zpow_natCast,← Int.cast_abs,Int.abs_eq_natAbs]
      exact_mod_cast short
    rw [value,abs_mul,abs_of_pos (base_power radix exponent : (0 : α) < _),zpow_add₀ nonzero]
    exact mul_lt_mul_of_pos_right small (base_power radix exponent)
  have leading := (Int.lt_zpow_iff_log_lt radix (abs_pos.mpr zero)).mp size
  rw [value]
  exact grid_scaled coefficient (power_grid radix (by rw [← value]; unfold place; omega))

end Arithmetic
