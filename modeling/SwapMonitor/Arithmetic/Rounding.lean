import Mathlib.Tactic.Common
import Mathlib.Tactic.Ring
import Mathlib.Tactic.Linarith
import Mathlib.Data.Nat.Basic

namespace Arithmetic

-- The digits a number is written with; zero is written with one.
def digitCount (n : Nat) : Nat := (Nat.toDigits 10 n).length

theorem digits_le (positive : 0 < k) : digitCount n ≤ k ↔ n < 10 ^ k :=
  Nat.length_toDigits_le_iff (by omega) positive

theorem digits_pos (n : Nat) : 0 < digitCount n := Nat.length_toDigits_pos

theorem lt_digits (n : Nat) : n < 10 ^ digitCount n := (digits_le (digits_pos n)).mp (Nat.le_refl _)

theorem digits_lower {n : Nat} (positive : 0 < n) : 10 ^ (digitCount n - 1) ≤ n := by
  by_cases one : digitCount n = 1
  · rw [one]
    exact positive
  · have more : 0 < digitCount n - 1 := by have := digits_pos n; omega
    apply Nat.le_of_not_lt
    intro less
    have fewer := (digits_le more).mpr less
    omega

theorem digits_mul_pow {n : Nat} (positive : 0 < n) (k : Nat) : digitCount (n * 10 ^ k) = digitCount n + k := by
  have scaled : 0 < n * 10 ^ k := Nat.mul_pos positive (Nat.pow_pos (by omega))
  apply Nat.le_antisymm
  · rw [digits_le (by have := digits_pos n; omega),Nat.pow_add]
    exact Nat.mul_lt_mul_of_pos_right (lt_digits n) (Nat.pow_pos (by omega))
  · apply Nat.le_of_not_lt
    intro fewer
    have lower := Nat.mul_le_mul_right (10 ^ k) (digits_lower positive)
    have upper := (digits_le (digits_pos (n * 10 ^ k))).mp (Nat.le_refl _)
    rw [← Nat.pow_add] at lower
    have grows : 10 ^ digitCount (n * 10 ^ k) ≤ 10 ^ (digitCount n - 1 + k) :=
      Nat.pow_le_pow_right (by omega) (by have := digits_pos n; omega)
    omega

-- A number without its trailing zeros, and how many there were.
def stripZeros : Nat → Nat → Nat × Nat
  | 0,n => (n,0)
  | fuel + 1,n => if n % 10 = 0 then
      let (rest,zeros) := stripZeros fuel (n / 10)
      (rest,zeros + 1)
    else (n,0)

theorem strip_value (fuel n : Nat) : (stripZeros fuel n).1 * 10 ^ (stripZeros fuel n).2 = n := by
  induction fuel generalizing n with
  | zero => simp [stripZeros]
  | succ fuel ih =>
    unfold stripZeros
    by_cases zero : n % 10 = 0
    · have rest := ih (n / 10)
      simp only [zero,if_true,Nat.pow_succ]
      rw [← Nat.mul_assoc,rest]
      omega
    · simp [zero]

theorem strip_positive {fuel n : Nat} (positive : 0 < n) : 0 < (stripZeros fuel n).1 := by
  have value := strip_value fuel n
  apply Nat.pos_of_ne_zero
  intro zero
  rw [zero,Nat.zero_mul] at value
  omega

-- The nearest whole quotient, the even one of two that are equally near.
def divHalfEven (n d : Nat) : Nat :=
  if d < 2 * (n % d) ∨ 2 * (n % d) = d ∧ n / d % 2 = 1 then n / d + 1 else n / d

theorem half_even_exact {n d : Nat} (divides : n % d = 0) (positive : 0 < d) : divHalfEven n d = n / d := by
  simp [divHalfEven,divides]
  omega

theorem half_even_upper {n d bound : Nat} (less : n < bound * d) : divHalfEven n d ≤ bound := by
  have quotient : n / d < bound := Nat.div_lt_of_lt_mul (by rwa [Nat.mul_comm])
  unfold divHalfEven
  split <;> omega

end Arithmetic
