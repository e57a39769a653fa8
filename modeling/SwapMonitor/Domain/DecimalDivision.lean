import SwapMonitor.Domain.ContextRoundings

namespace SwapMonitor
open Arithmetic

theorem nearest_strict {x : ℚ} {n : Int} (low : 2 * (n - x) < 1) (high : 2 * (x - n) < 1) :
    ContextRounding.halfEven.nearest x = n := by
  obtain ⟨above,below⟩ := nearest_within x
  have upper : (ContextRounding.halfEven.nearest x : ℚ) < n + 1 := by linarith
  have lower : (n : ℚ) < ContextRounding.halfEven.nearest x + 1 := by linarith
  have upper' : ContextRounding.halfEven.nearest x < n + 1 := by exact_mod_cast upper
  have lower' : n < ContextRounding.halfEven.nearest x + 1 := by exact_mod_cast lower
  omega

-- Strictly between two neighbouring halves of a step every number is rounded the same way.
theorem half_cell {step x y : ℚ} (positive : 0 < step) (j : Int) (left : j * step < 2 * x ∧ 2 * x < (j + 1) * step)
    (right : j * step < 2 * y ∧ 2 * y < (j + 1) * step) :
    ContextRounding.halfEven.asRounding.onto step x = ContextRounding.halfEven.asRounding.onto step y := by
  have scaled : ∀ z : ℚ, j * step < 2 * z ∧ 2 * z < (j + 1) * step → (j : ℚ) < 2 * (z / step) ∧ 2 * (z / step) < j + 1 := by
    intro z inside
    rw [mul_div_assoc',lt_div_iff₀ positive,div_lt_iff₀ positive]
    exact inside
  have first := scaled x left
  have second := scaled y right
  unfold Rounding.onto
  congr 2
  change ContextRounding.halfEven.nearest _ = ContextRounding.halfEven.nearest _
  rcases Int.even_or_odd' j with ⟨n,even | odd⟩
  · have cast : (j : ℚ) = 2 * n := by exact_mod_cast even
    rw [nearest_strict (n := n) (by linarith) (by linarith),nearest_strict (n := n) (by linarith) (by linarith)]
  · have cast : (j : ℚ) = 2 * n + 1 := by exact_mod_cast odd
    rw [nearest_strict (n := n + 1) (by push_cast; linarith) (by push_cast; linarith),
      nearest_strict (n := n + 1) (by push_cast; linarith) (by push_cast; linarith)]

theorem drop_value (fuel coefficient : Nat) (exponent ideal : Int) :
    ((dropZeros fuel coefficient exponent ideal).1 : ℚ) * (10 : ℚ) ^ (dropZeros fuel coefficient exponent ideal).2 =
      coefficient * (10 : ℚ) ^ exponent := by
  induction fuel generalizing coefficient exponent with
  | zero => rfl
  | succ fuel ih =>
    unfold dropZeros
    split
    · rename_i zero
      have tenth : ((coefficient / 10 : Nat) : ℚ) * 10 = coefficient := by
        have whole : coefficient / 10 * 10 = coefficient := by omega
        exact_mod_cast whole
      rw [ih,← tenth,zpow_add₀ (by norm_num : (10 : ℚ) ≠ 0),zpow_one]
      ring
    · rfl

section Sticky
variable {q D : Nat} {T : ℚ} {e : Int}

-- What a quotient that is not whole is replaced with before it is rounded.
def sticky (q : Nat) : Nat := if q % 5 = 0 then q + 1 else q

theorem sticky_inside (q : Nat) : sticky q % 5 ≠ 0 ∧ q ≤ sticky q ∧ sticky q ≤ q + 1 ∧ (sticky q = q + 1 → q % 5 = 0) := by
  unfold sticky
  split <;> omega

theorem sticky_digits (q : Nat) (more : 1 < digitCount q) : digitCount (sticky q) = digitCount q := by
  obtain ⟨odd,above,below,_⟩ := sticky_inside q
  have positive : 0 < q := by
    apply Nat.pos_of_ne_zero
    intro zero
    rw [zero] at more
    exact absurd more (by decide)
  have upper := lt_digits q
  have lower := digits_lower positive
  have tens : 10 ^ digitCount q % 5 = 0 := by
    apply Nat.mod_eq_zero_of_dvd
    exact dvd_pow (by decide : 5 ∣ 10) (by omega)
  apply Nat.le_antisymm
  · rw [digits_le (by omega)]
    omega
  · apply Nat.le_of_not_lt
    intro fewer
    have small := (digits_le (k := digitCount q - 1) (by omega)).mp (show digitCount (sticky q) ≤ digitCount q - 1 by omega)
    omega

-- A number between a quotient and the next is rounded to its last place as the sticky quotient is.
theorem sticky_cell {k : Nat} (some : 0 < k) (low : (q : ℚ) < T) (high : T < q + 1) : ∃ j : Nat,
    ((j : ℚ) * 10 ^ k < 2 * T ∧ 2 * T < (j + 1) * 10 ^ k) ∧
    ((j : ℚ) * 10 ^ k < 2 * (sticky q : ℚ) ∧ 2 * (sticky q : ℚ) < (j + 1) * 10 ^ k) := by
  obtain ⟨odd,above,below,five⟩ := sticky_inside q
  obtain ⟨m,rfl⟩ : ∃ m, k = m + 1 := ⟨k - 1,by omega⟩
  generalize half : 5 * 10 ^ m = b
  have scale : 0 < b := by
    rw [← half]
    exact Nat.mul_pos (by decide) (Nat.pow_pos (by decide))
  have power : (10 : ℚ) ^ (m + 1) = 2 * b := by
    rw [← half,pow_succ]
    push_cast
    ring
  have fives : b % 5 = 0 := by omega
  have parts := Nat.div_add_mod (sticky q) b
  have rest := Nat.mod_lt (sticky q) scale
  have inside : sticky q % b ≠ 0 := by
    intro zero
    have whole : 5 ∣ sticky q := (Nat.dvd_of_mod_eq_zero fives).trans (Nat.dvd_of_mod_eq_zero zero)
    exact odd (Nat.mod_eq_zero_of_dvd whole)
  rw [Nat.mul_comm] at parts
  generalize sticky q / b = j at parts
  have lower : j * b ≤ q := by omega
  have upper : q + 1 ≤ (j + 1) * b := by
    rw [Nat.add_mul]
    have fifth : ((j + 1) * b) % 5 = 0 := by rw [Nat.mul_mod,fives]; simp
    rw [Nat.add_mul] at fifth
    omega
  have strictly : j * b < sticky q ∧ sticky q < (j + 1) * b := by
    rw [Nat.add_mul]
    omega
  have lower' : (j : ℚ) * b ≤ q := by exact_mod_cast lower
  have upper' : (q : ℚ) + 1 ≤ (j + 1) * b := by exact_mod_cast upper
  have one : (j : ℚ) * b < sticky q := by exact_mod_cast strictly.1
  have two : (sticky q : ℚ) < (j + 1) * b := by exact_mod_cast strictly.2
  refine ⟨j,⟨?_,?_⟩,?_,?_⟩ <;> rw [power] <;> linarith

theorem sticky_place (more : CONTEXT_PRECISION < digitCount q) (low : (q : ℚ) < T) (high : T < q + 1) (negative : Bool) :
    place 10 CONTEXT_PRECISION CONTEXT_ETINY ((if negative then -1 else 1) * T * (10 : ℚ) ^ e) =
      place 10 CONTEXT_PRECISION CONTEXT_ETINY (⟨negative,sticky q,e⟩ : Decimal).toRat := by
  simp only [CONTEXT_PRECISION] at more
  have counted := sticky_digits q (by omega)
  have positive : 0 < q := by
    apply Nat.pos_of_ne_zero
    intro zero
    rw [zero] at more
    exact absurd more (by decide)
  have nonzero : sticky q ≠ 0 := by
    have above := (sticky_inside q).2.1
    omega
  have ten : (10 : ℚ) ≠ 0 := by norm_num
  have size : |(if negative then -1 else 1) * T * (10 : ℚ) ^ e| = T * (10 : ℚ) ^ e := by
    have above : 0 < T := lt_of_le_of_lt (Nat.cast_nonneg q) low
    rw [abs_mul,abs_mul,abs_of_pos above,abs_of_pos (ten_pow_pos e)]
    cases negative <;> simp
  have above : 0 < T * (10 : ℚ) ^ e := mul_pos (lt_of_le_of_lt (Nat.cast_nonneg q) low) (ten_pow_pos e)
  unfold place
  rw [size,decimal_log (d := ⟨negative,sticky q,e⟩) nonzero]
  simp only [counted]
  congr 3
  apply le_antisymm
  · have upper : T * (10 : ℚ) ^ e < ((10 : Nat) : ℚ) ^ ((digitCount q : Int) + e) := by
      have small : (q : ℚ) + 1 ≤ (10 : ℚ) ^ (digitCount q : Int) := by
        rw [zpow_natCast]
        exact_mod_cast lt_digits q
      rw [Nat.cast_ofNat,zpow_add₀ ten]
      exact mul_lt_mul_of_pos_right (lt_of_lt_of_le high small) (ten_pow_pos _)
    have below := (Int.lt_zpow_iff_log_lt (by decide) above).mp upper
    omega
  · have lower : ((10 : Nat) : ℚ) ^ ((digitCount q : Int) - 1 + e) ≤ T * (10 : ℚ) ^ e := by
      have great : (10 : ℚ) ^ ((digitCount q : Int) - 1) ≤ q := by
        have whole := digits_lower positive
        rw [show (digitCount q : Int) - 1 = ((digitCount q - 1 : Nat) : Int) by omega,zpow_natCast]
        exact_mod_cast whole
      rw [Nat.cast_ofNat,zpow_add₀ ten]
      exact mul_le_mul_of_nonneg_right (great.trans low.le) (ten_pow_pos _).le
    exact (Int.zpow_le_iff_le_log (by decide) above).mp lower

theorem sticky_round (more : CONTEXT_PRECISION < digitCount q) (low : (q : ℚ) < T) (high : T < q + 1) (negative : Bool) :
    DecimalContext.default.round ((if negative then -1 else 1) * T * (10 : ℚ) ^ e) =
      DecimalContext.default.round (⟨negative,sticky q,e⟩ : Decimal).toRat := by
  have nonzero : sticky q ≠ 0 := by
    intro zero
    have inside := sticky_inside q
    omega
  have counted := sticky_digits q (by simp only [CONTEXT_PRECISION] at more; omega)
  change ContextRounding.halfEven.asRounding.onto _ _ = ContextRounding.halfEven.asRounding.onto _ _
  change ContextRounding.halfEven.asRounding.onto ((10 : ℚ) ^ place 10 CONTEXT_PRECISION CONTEXT_ETINY _) _ =
    ContextRounding.halfEven.asRounding.onto ((10 : ℚ) ^ place 10 CONTEXT_PRECISION CONTEXT_ETINY _) _
  rw [sticky_place more low high negative]
  have digits := decimal_place (c := .default) (d := ⟨negative,sticky q,e⟩) nonzero
  simp only [counted] at digits
  change place 10 CONTEXT_PRECISION CONTEXT_ETINY _ = max _ CONTEXT_ETINY at digits
  have coarser : e < place 10 CONTEXT_PRECISION CONTEXT_ETINY (⟨negative,sticky q,e⟩ : Decimal).toRat := by
    rw [digits]
    have first : e < (digitCount q : Int) + e - (CONTEXT_PRECISION : Int) := by omega
    exact lt_of_lt_of_le first (le_max_left _ _)
  generalize place 10 CONTEXT_PRECISION CONTEXT_ETINY (⟨negative,sticky q,e⟩ : Decimal).toRat = P at coarser
  obtain ⟨j,⟨left,right⟩,left',right'⟩ := sticky_cell (k := (P - e).toNat) (by omega) low high
  have step : (10 : ℚ) ^ P = 10 ^ (P - e).toNat * (10 : ℚ) ^ e := by
    rw [ten_pow_shift coarser.le]
    push_cast
    rfl
  generalize (10 : ℚ) ^ (P - e).toNat = power at left right left' right' step
  have unit := ten_pow_pos e
  have scaled : ∀ a b : ℚ, a < b → a * (10 : ℚ) ^ e < b * (10 : ℚ) ^ e := fun a b order => mul_lt_mul_of_pos_right order unit
  have one := scaled _ _ left
  have two := scaled _ _ right
  have three := scaled _ _ left'
  have four := scaled _ _ right'
  rw [toRat_parts,step]
  have positive : 0 < power * (10 : ℚ) ^ e := step ▸ ten_pow_pos P
  cases negative with
  | false =>
    refine half_cell positive j ⟨?_,?_⟩ ⟨?_,?_⟩ <;> simp only [Bool.false_eq_true,if_false] <;> push_cast <;> linarith
  | true =>
    refine half_cell positive (-(j + 1) : Int) ⟨?_,?_⟩ ⟨?_,?_⟩ <;> simp only [if_true] <;> push_cast <;> linarith

end Sticky

theorem quotient_long {a b : Nat} (left : 0 < a) (right : 0 < b) :
    let shift : Int := digitCount b - digitCount a + CONTEXT_PRECISION + 1
    10 ^ CONTEXT_PRECISION ≤ a * 10 ^ shift.toNat / (b * 10 ^ (-shift).toNat) := by
  intro shift
  have scale : 0 < b * 10 ^ (-shift).toNat := Nat.mul_pos right (Nat.pow_pos (by decide))
  rw [Nat.le_div_iff_mul_le scale]
  have lower := digits_lower left
  have upper := lt_digits b
  have some := digits_pos a
  have balance : CONTEXT_PRECISION + (digitCount b + (-shift).toNat) ≤ digitCount a - 1 + shift.toNat := by omega
  calc 10 ^ CONTEXT_PRECISION * (b * 10 ^ (-shift).toNat)
      ≤ 10 ^ CONTEXT_PRECISION * (10 ^ digitCount b * 10 ^ (-shift).toNat) :=
        Nat.mul_le_mul_left _ (Nat.mul_le_mul_right _ upper.le)
    _ = 10 ^ (CONTEXT_PRECISION + (digitCount b + (-shift).toNat)) := by rw [← Nat.pow_add,← Nat.pow_add]
    _ ≤ 10 ^ (digitCount a - 1 + shift.toNat) := Nat.pow_le_pow_right (by decide) balance
    _ = 10 ^ (digitCount a - 1) * 10 ^ shift.toNat := Nat.pow_add ..
    _ ≤ a * 10 ^ shift.toNat := Nat.mul_le_mul_right _ lower

-- The quotient of two decimals as the quotient of the scaled coefficients.
theorem quotient_value (left right : Decimal) (shift : Int) (nonzero : right.coefficient ≠ 0) :
    left.toRat / right.toRat = (if left.negative != right.negative then -1 else 1) *
      (((left.coefficient * 10 ^ shift.toNat : Nat) : ℚ) / (right.coefficient * 10 ^ (-shift).toNat : Nat)) *
        (10 : ℚ) ^ (left.exponent - right.exponent - shift) := by
  have ten : (10 : ℚ) ≠ 0 := by norm_num
  have divisor : (right.coefficient : ℚ) ≠ 0 := by exact_mod_cast nonzero
  have powers : (10 : ℚ) ^ shift.toNat / 10 ^ (-shift).toNat = (10 : ℚ) ^ shift := by
    rw [← zpow_natCast,← zpow_natCast,← zpow_sub₀ ten]
    congr 1
    omega
  have signs : (if left.negative then (-1 : ℚ) else 1) / (if right.negative then -1 else 1) =
      if left.negative != right.negative then -1 else 1 := by
    cases left.negative <;> cases right.negative <;> norm_num
  rw [toRat_parts,toRat_parts,← signs,zpow_sub₀ ten,zpow_sub₀ ten,← powers]
  push_cast
  have one := ten_pow_pos right.exponent
  have two : (0 : ℚ) < 10 ^ shift.toNat := by positivity
  have three : (0 : ℚ) < 10 ^ (-shift).toNat := by positivity
  have sign : (if right.negative then (-1 : ℚ) else 1) ≠ 0 := by cases right.negative <;> norm_num
  field_simp

-- left / right rounds a number that the context does not tell from the quotient.
theorem divide_fixed (left : Decimal) {right : Decimal} (nonzero : right.coefficient ≠ 0) : ∃ d, left.divide right = fix d ∧
    DecimalContext.default.round d.toRat = DecimalContext.default.round (left.toRat / right.toRat) := by
  unfold Decimal.divide
  dsimp only
  by_cases zero : left.coefficient = 0
  · rw [if_pos zero]
    exact ⟨_,rfl,by rw [(toRat_zero left).mpr zero,zero_div,(toRat_zero _).mpr rfl]⟩
  rw [if_neg zero]
  generalize shifted : (digitCount right.coefficient : Int) - digitCount left.coefficient + CONTEXT_PRECISION + 1 = shift
  have long := quotient_long (Nat.pos_of_ne_zero zero) (Nat.pos_of_ne_zero nonzero)
  simp only [shifted] at long
  rw [quotient_value left right shift nonzero]
  have scale : 0 < right.coefficient * 10 ^ (-shift).toNat := Nat.mul_pos (Nat.pos_of_ne_zero nonzero) (Nat.pow_pos (by decide))
  generalize left.coefficient * 10 ^ shift.toNat = n at long ⊢
  generalize right.coefficient * 10 ^ (-shift).toNat = d at long scale ⊢
  generalize left.exponent - right.exponent - shift = e
  have parts := Nat.div_add_mod n d
  have scale' : (0 : ℚ) < d := by exact_mod_cast scale
  split
  · refine ⟨_,rfl,?_⟩
    have digits : CONTEXT_PRECISION < digitCount (n / d) := by
      apply Nat.lt_of_not_le
      intro short
      exact absurd ((digits_le (by decide)).mp short) (Nat.not_lt.mpr long)
    have low : ((n / d : Nat) : ℚ) < (n : ℚ) / d := by
      rw [lt_div_iff₀ scale']
      have less : n / d * d < n := by rw [Nat.mul_comm]; omega
      exact_mod_cast less
    have high : (n : ℚ) / d < ((n / d : Nat) : ℚ) + 1 := by
      rw [div_lt_iff₀ scale']
      have more : n < (n / d + 1) * d := by
        have inside := Nat.mod_lt n scale
        rw [Nat.add_mul,Nat.mul_comm (n / d)]
        omega
      exact_mod_cast more
    exact (sticky_round digits low high (left.negative != right.negative)).symm
  · refine ⟨_,rfl,?_⟩
    rw [toRat_parts]
    have exact : ((n / d : Nat) : ℚ) = (n : ℚ) / d := by
      rw [eq_div_iff scale'.ne']
      have equal : n / d * d = n := by rw [Nat.mul_comm]; omega
      exact_mod_cast equal
    have kept := drop_value (digitCount (n / d)) (n / d) e (left.exponent - right.exponent)
    rw [exact] at kept
    rw [mul_assoc,mul_assoc,kept]

-- left / right is the quotient as the context rounds it.
theorem divide_round {left right r : Decimal} (nonzero : right.coefficient ≠ 0) (divided : left.divide right = .ok r) :
    r.toRat = DecimalContext.default.round (left.toRat / right.toRat) := by
  obtain ⟨d,fixed,same⟩ := divide_fixed left nonzero
  rw [fixed,← default_fix] at divided
  rw [fix_round divided,same]

end SwapMonitor
