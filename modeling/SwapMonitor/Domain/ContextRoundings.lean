import SwapMonitor.Domain.DecimalContexts

namespace SwapMonitor
open Arithmetic

-- The whole number a mode makes of a ratio.
def ContextRounding.nearest (mode : ContextRounding) (x : ℚ) : Int :=
  if 0 ≤ x then mode.divide false x.num.toNat x.den else -(mode.divide true (-x).num.toNat (-x).den : Int)

section Ratios
variable {mode : ContextRounding} {negative : Bool} {n d : Nat}

theorem ratio_parts (n : Nat) {d : Nat} (positive : 0 < d) : ∃ k, 0 < k ∧ n = ((n : ℚ) / d).num.toNat * k ∧ d = ((n : ℚ) / d).den * k := by
  obtain ⟨c,numerator,denominator⟩ := Rat.exists_eq_mul_div_num_and_eq_mul_div_den (n : Int) (d := d) (by omega)
  simp only [Int.cast_natCast] at numerator denominator
  have den : 0 < ((n : ℚ) / d).den := Rat.den_pos _
  have common : 0 < c := by
    by_contra nonpos
    have below := Int.mul_nonpos_of_nonpos_of_nonneg (not_lt.mp nonpos) (Int.natCast_nonneg ((n : ℚ) / d).den)
    have above : (0 : Int) < d := by exact_mod_cast positive
    omega
  have num : 0 ≤ ((n : ℚ) / d).num := Rat.num_nonneg.mpr (by positivity)
  refine ⟨c.toNat,by omega,?_,?_⟩
  · zify
    rw [Int.toNat_of_nonneg num,Int.toNat_of_nonneg common.le,mul_comm]
    exact_mod_cast numerator
  · zify
    rw [Int.toNat_of_nonneg common.le,mul_comm]
    exact_mod_cast denominator

theorem divide_ratio (mode : ContextRounding) (negative : Bool) (n : Nat) {d : Nat} (positive : 0 < d) :
    mode.divide negative ((n : ℚ) / d).num.toNat ((n : ℚ) / d).den = mode.divide negative n d := by
  obtain ⟨k,common,numerator,denominator⟩ := ratio_parts n positive
  calc mode.divide negative ((n : ℚ) / d).num.toNat ((n : ℚ) / d).den
      = mode.divide negative (((n : ℚ) / d).num.toNat * k) (((n : ℚ) / d).den * k) := (divide_scaled common).symm
    _ = mode.divide negative n d := by rw [← numerator,← denominator]

theorem divide_none (positive : 0 < d) : mode.divide negative 0 d = 0 := by
  unfold ContextRounding.divide
  split
  · rename_i away
    exact absurd (Nat.zero_mod d) (away_rest away positive)
  · exact Nat.zero_div d

-- The choice made of a magnitude and a sign.
theorem nearest_signed (mode : ContextRounding) (negative : Bool) (n : Nat) {d : Nat} (positive : 0 < d) :
    mode.nearest ((if negative then -(n : ℚ) else n) / d) =
      if negative then -(mode.divide true n d : Int) else mode.divide false n d := by
  unfold ContextRounding.nearest
  cases negative with
  | false =>
    simp only [Bool.false_eq_true,if_false]
    rw [if_pos (by positivity),divide_ratio mode false n positive]
  | true =>
    simp only [if_true]
    rcases Nat.eq_zero_or_pos n with rfl | some
    · simp [divide_none positive,show mode.divide false 0 1 = 0 from divide_none one_pos]
    · have size : (0 : ℚ) < (n : ℚ) / d := by positivity
      rw [neg_div,if_neg (by linarith),neg_neg,divide_ratio mode true n positive]

theorem nearest_ratio (x : ℚ) : ∃ (n d : Nat), 0 < d ∧ x = (if decide (x < 0) then -(n : ℚ) else n) / d := by
  refine ⟨x.num.natAbs,x.den,x.den_pos,?_⟩
  have parts := Rat.num_div_den x
  rw [Nat.cast_natAbs]
  by_cases below : x < 0
  · have num := Rat.num_neg.mpr below
    rw [decide_eq_true below,if_pos rfl,abs_of_neg num,Int.cast_neg,neg_neg,parts]
  · have num := Rat.num_nonneg.mpr (not_lt.mp below)
    rw [decide_eq_false below,if_neg (by decide),abs_of_nonneg num,parts]

end Ratios

-- Each mode takes one of the two whole numbers next to a number.
def ContextRounding.asRounding (mode : ContextRounding) : Rounding ℚ where
  apply := mode.nearest
  lower x := by
    obtain ⟨n,d,positive,value⟩ := nearest_ratio x
    have scale : (0 : ℚ) < d := by exact_mod_cast positive
    rw [value,nearest_signed mode _ n positive,Int.floor_le_iff,div_lt_iff₀ scale]
    split
    · have upper : mode.divide true n d * d ≤ n + (d - 1) := (divide_between positive).1
      have cast : (mode.divide true n d : ℚ) * d ≤ n + (d - 1) := by
        have less : mode.divide true n d * d + 1 ≤ n + d := by omega
        have : ((mode.divide true n d * d + 1 : Nat) : ℚ) ≤ ((n + d : Nat) : ℚ) := by exact_mod_cast less
        push_cast at this
        linarith
      push_cast
      linarith
    · have upper : n < (mode.divide false n d + 1) * d := (divide_between positive).2
      have cast : (n : ℚ) < (mode.divide false n d + 1) * d := by exact_mod_cast upper
      push_cast
      exact cast
  upper x := by
    obtain ⟨n,d,positive,value⟩ := nearest_ratio x
    have scale : (0 : ℚ) < d := by exact_mod_cast positive
    rw [value,nearest_signed mode _ n positive,Int.le_ceil_iff,lt_div_iff₀ scale]
    split
    · have lower : n < (mode.divide true n d + 1) * d := (divide_between positive).2
      have cast : (n : ℚ) < (mode.divide true n d + 1) * d := by exact_mod_cast lower
      push_cast
      linarith
    · have lower : mode.divide false n d * d ≤ n + (d - 1) := (divide_between positive).1
      have cast : (mode.divide false n d : ℚ) * d ≤ n + (d - 1) := by
        have less : mode.divide false n d * d + 1 ≤ n + d := by omega
        have : ((mode.divide false n d * d + 1 : Nat) : ℚ) ≤ ((n + d : Nat) : ℚ) := by exact_mod_cast less
        push_cast at this
        linarith
      push_cast
      linarith

theorem nearest_within (x : ℚ) : 2 * (x - ContextRounding.halfEven.nearest x) ≤ 1 ∧
    -1 ≤ 2 * (x - ContextRounding.halfEven.nearest x) := by
  obtain ⟨n,d,positive,value⟩ := nearest_ratio x
  have scale : (0 : ℚ) < d := by exact_mod_cast positive
  rw [value,nearest_signed _ _ n positive,← mul_le_mul_iff_of_pos_right scale,← mul_le_mul_iff_of_pos_right (b := -1) scale]
  have cancel : (n : ℚ) / d * d = n := div_mul_cancel₀ _ scale.ne'
  split
  · have half : 2 * (ContextRounding.halfEven.divide true n d * d) ≤ 2 * n + d ∧ 2 * n ≤ 2 * (ContextRounding.halfEven.divide true n d * d) + d :=
      divide_half positive
    obtain ⟨low,high⟩ := half
    have low' : 2 * ((ContextRounding.halfEven.divide true n d : ℚ) * d) ≤ 2 * n + d := by exact_mod_cast low
    have high' : 2 * (n : ℚ) ≤ 2 * ((ContextRounding.halfEven.divide true n d : ℚ) * d) + d := by exact_mod_cast high
    rw [neg_div]
    push_cast
    constructor <;> linarith
  · have half : 2 * (ContextRounding.halfEven.divide false n d * d) ≤ 2 * n + d ∧ 2 * n ≤ 2 * (ContextRounding.halfEven.divide false n d * d) + d :=
      divide_half positive
    obtain ⟨low,high⟩ := half
    have low' : 2 * ((ContextRounding.halfEven.divide false n d : ℚ) * d) ≤ 2 * n + d := by exact_mod_cast low
    have high' : 2 * (n : ℚ) ≤ 2 * ((ContextRounding.halfEven.divide false n d : ℚ) * d) + d := by exact_mod_cast high
    push_cast
    constructor <;> linarith

-- No mode turns the order of two numbers around.
theorem magnitude_mono (mode : ContextRounding) (negative : Bool) {x y : ℚ} (nonneg : 0 ≤ x) (order : x ≤ y) :
    mode.divide negative x.num.toNat x.den ≤ mode.divide negative y.num.toNat y.den := by
  have scaled : x.num.toNat * y.den ≤ y.num.toNat * x.den := by
    have products := (Rat.le_iff x y).mp order
    have left := Int.toNat_of_nonneg (Rat.num_nonneg.mpr nonneg)
    have right := Int.toNat_of_nonneg (Rat.num_nonneg.mpr (nonneg.trans order))
    zify
    rw [left,right]
    exact products
  calc mode.divide negative x.num.toNat x.den
      = mode.divide negative (x.num.toNat * y.den) (x.den * y.den) := (divide_scaled y.den_pos).symm
    _ ≤ mode.divide negative (y.num.toNat * x.den) (x.den * y.den) := divide_mono (Nat.mul_pos x.den_pos y.den_pos) scaled
    _ = mode.divide negative y.num.toNat y.den := by rw [Nat.mul_comm x.den,divide_scaled x.den_pos]

theorem nearest_mono (mode : ContextRounding) : Monotone mode.asRounding.apply := by
  intro x y order
  change mode.nearest x ≤ mode.nearest y
  unfold ContextRounding.nearest
  by_cases low : 0 ≤ x
  · rw [if_pos low,if_pos (low.trans order)]
    exact_mod_cast magnitude_mono mode false low order
  rw [if_neg low]
  by_cases high : 0 ≤ y
  · rw [if_pos high]
    omega
  · rw [if_neg high]
    have sizes := magnitude_mono mode true (neg_nonneg.mpr (not_le.mp high).le) (neg_le_neg order)
    omega

-- The number a context makes of an exact one, but for the greatest.
def DecimalContext.round (c : DecimalContext) (x : ℚ) : ℚ := c.rounding.asRounding.significant 10 c.precision c.etiny x

theorem size_parts (d : Decimal) : |d.toRat| = (d.coefficient : ℚ) * (10 : ℚ) ^ d.exponent := by
  rw [toRat_parts,abs_mul,abs_mul,abs_of_pos (ten_pow_pos _),Nat.abs_cast]
  cases d.negative <;> simp

theorem decimal_log {d : Decimal} (nonzero : d.coefficient ≠ 0) :
    Int.log 10 |d.toRat| = digitCount d.coefficient - 1 + d.exponent := by
  have ten : (10 : ℚ) ≠ 0 := by norm_num
  have positive : 0 < |d.toRat| := abs_pos.mpr fun zero => nonzero ((toRat_zero d).mp zero)
  have counted := digits_pos d.coefficient
  apply le_antisymm
  · have upper : |d.toRat| < ((10 : Nat) : ℚ) ^ ((digitCount d.coefficient : Int) + d.exponent) := by
      have small : (d.coefficient : ℚ) < (10 : ℚ) ^ (digitCount d.coefficient : Int) := by
        rw [zpow_natCast]
        exact_mod_cast lt_digits d.coefficient
      rw [size_parts,Nat.cast_ofNat,zpow_add₀ ten]
      exact mul_lt_mul_of_pos_right small (ten_pow_pos _)
    have below := (Int.lt_zpow_iff_log_lt (by decide) positive).mp upper
    omega
  · have lower : ((10 : Nat) : ℚ) ^ ((digitCount d.coefficient : Int) - 1 + d.exponent) ≤ |d.toRat| := by
      have great : (10 : ℚ) ^ ((digitCount d.coefficient : Int) - 1) ≤ d.coefficient := by
        have whole := digits_lower (Nat.pos_of_ne_zero nonzero)
        rw [show (digitCount d.coefficient : Int) - 1 = ((digitCount d.coefficient - 1 : Nat) : Int) by omega,zpow_natCast]
        exact_mod_cast whole
      rw [size_parts,Nat.cast_ofNat,zpow_add₀ ten]
      exact mul_le_mul_of_nonneg_right great (ten_pow_pos _).le
    exact (Int.zpow_le_iff_le_log (by decide) positive).mp lower

theorem decimal_place {c : DecimalContext} {d : Decimal} (nonzero : d.coefficient ≠ 0) :
    place 10 c.precision c.etiny d.toRat = max ((digitCount d.coefficient : Int) + d.exponent - c.precision) c.etiny := by
  rw [place,decimal_log nonzero]
  congr 1
  ring

-- The whole number a rounding makes of a number in units of a power of ten.
theorem nearest_number {c : DecimalContext} {d : Decimal} {exponent : Int} (finer : d.exponent ≤ exponent) :
    (c.rounding.nearest (d.toRat / (10 : ℚ) ^ exponent) : ℚ) =
      (if d.negative then -1 else 1) * (c.rounding.divide d.negative d.coefficient (10 ^ (exponent - d.exponent).toNat) : ℚ) := by
  have scale : 0 < 10 ^ (exponent - d.exponent).toNat := Nat.pow_pos (by decide)
  have ratio : d.toRat / (10 : ℚ) ^ exponent =
      (if d.negative then -(d.coefficient : ℚ) else d.coefficient) / (10 ^ (exponent - d.exponent).toNat : Nat) := by
    rw [toRat_parts,ten_pow_shift finer,mul_div_mul_right _ _ (ten_pow_pos _).ne']
    push_cast
    cases d.negative <;> simp
  rw [ratio,nearest_signed c.rounding d.negative d.coefficient scale]
  cases d.negative <;> simp

-- A coefficient that is rounded to at most so many digits loses nothing by a carry.
theorem rounded_value {c : DecimalContext} {d r : Decimal} {exponent : Int} (finer : d.exponent ≤ exponent)
    (enough : digitCount d.coefficient ≤ c.precision + (exponent - d.exponent).toNat)
    (rounded : c.roundTo d exponent = .ok r) :
    r.toRat = (c.rounding.nearest (d.toRat / (10 : ℚ) ^ exponent) : ℚ) * (10 : ℚ) ^ exponent := by
  rw [nearest_number finer]
  generalize steps : (exponent - d.exponent).toNat = k at enough rounded ⊢
  have upper : c.rounding.divide d.negative d.coefficient (10 ^ k) ≤ 10 ^ c.precision := by
    apply divide_upper
    rw [← Nat.pow_add]
    exact Nat.lt_of_lt_of_le (lt_digits _) (Nat.pow_le_pow_right (by decide) enough)
  rw [DecimalContext.roundTo,steps] at rounded
  generalize c.rounding.divide d.negative d.coefficient (10 ^ k) = coefficient at upper rounded ⊢
  split at rounded
  · rename_i long
    split at rounded
    · cases rounded
    · cases rounded
      have full : coefficient = 10 ^ c.precision := by
        refine Nat.le_antisymm upper (Nat.le_of_not_lt fun less => ?_)
        exact absurd ((digits_le c.digits).mpr less) (Nat.not_le.mpr long)
      have tenth : ((coefficient / 10 : Nat) : ℚ) * 10 = coefficient := by
        have whole : coefficient / 10 * 10 = coefficient := by
          apply Nat.div_mul_cancel
          rw [full]
          exact dvd_pow_self 10 c.digits.ne'
        exact_mod_cast whole
      rw [toRat_parts,zpow_add₀ (by norm_num : (10 : ℚ) ≠ 0),zpow_one]
      simp only
      rw [← tenth]
      ring
  · cases rounded
    rw [toRat_parts]

theorem fix_round {c : DecimalContext} {d r : Decimal} (fixed : c.fix d = .ok r) : r.toRat = c.round d.toRat := by
  unfold DecimalContext.fix at fixed
  by_cases zero : d.coefficient = 0
  · rw [if_pos zero,Except.ok.injEq] at fixed
    subst fixed
    rw [(toRat_zero d).mpr zero,(toRat_zero _).mpr (by exact zero)]
    exact significant_zero.symm
  rw [if_neg zero] at fixed
  simp only at fixed
  unfold DecimalContext.round Rounding.significant
  rw [decimal_place zero]
  split at fixed
  · cases fixed
  split at fixed
  · rename_i rounded
    have digits : digitCount d.coefficient ≤
        c.precision + (max ((digitCount d.coefficient : Int) + d.exponent - c.precision) c.etiny - d.exponent).toNat := by omega
    exact rounded_value rounded.le digits fixed
  · rename_i kept
    cases fixed
    refine (onto_kept (base_power (by decide) _) ?_).symm
    rw [toRat_signed]
    exact grid_scaled _ (power_grid (by decide) (not_lt.mp kept))

theorem round_mono (c : DecimalContext) : Monotone c.round := fun _ _ order =>
  significant_mono (nearest_mono c.rounding) (by decide) c.digits order

end SwapMonitor
