import SwapMonitor.Domain.FixedArithmetic

namespace SwapMonitor
open Arithmetic

-- Where a result lies between two numbers of the fixed context, what the context makes of it does too.
section Enclosures
variable {a b d : Decimal} {lo hi : ℚ}

theorem round_between {x : ℚ} (low : DecimalContext.default.Holds lo) (high : DecimalContext.default.Holds hi) (above : lo ≤ x) (below : x ≤ hi) :
    lo ≤ DecimalContext.default.round x ∧ DecimalContext.default.round x ≤ hi := by
  constructor
  · rw [← round_held low]
    exact fixed_mono above
  · rw [← round_held high]
    exact fixed_mono below

theorem within_between {x : ℚ} (low : DecimalContext.default.Holds lo) (high : DecimalContext.default.Holds hi) (above : lo ≤ x) (below : x ≤ hi) :
    |x| ≤ DecimalContext.default.greatest := by
  have left := holds_within low
  have right := holds_within high
  rw [abs_le] at left right ⊢
  exact ⟨left.1.trans above,below.trans right.2⟩

theorem fixed_between (low : DecimalContext.default.Holds lo) (high : DecimalContext.default.Holds hi) (above : lo ≤ d.toRat) (below : d.toRat ≤ hi) :
    ∃ r, fix d = .ok r ∧ lo ≤ r.toRat ∧ r.toRat ≤ hi := by
  obtain ⟨r,fixed⟩ : ∃ r, DecimalContext.default.fix d = .ok r := fix_returns (within_between low high above below)
  rw [default_fix] at fixed
  have inside := round_between low high above below
  rw [← fixed_round fixed] at inside
  exact ⟨r,fixed,inside⟩

theorem added_between (low : DecimalContext.default.Holds lo) (high : DecimalContext.default.Holds hi) (above : lo ≤ a.toRat + b.toRat)
    (below : a.toRat + b.toRat ≤ hi) : ∃ r, a.add b = .ok r ∧ lo ≤ r.toRat ∧ r.toRat ≤ hi := by
  rw [← add_exact_value] at above below
  exact fixed_between low high above below

theorem multiplied_between (low : DecimalContext.default.Holds lo) (high : DecimalContext.default.Holds hi) (above : lo ≤ a.toRat * b.toRat)
    (below : a.toRat * b.toRat ≤ hi) : ∃ r, a.multiply b = .ok r ∧ lo ≤ r.toRat ∧ r.toRat ≤ hi := by
  rw [← multiply_exact_value] at above below
  exact fixed_between low high above below

-- A quotient that is cut off below the greatest number is raised to no more than that number.
theorem sticky_within {q : Nat} {e : Int} {T : ℚ} (long : 10 ^ CONTEXT_PRECISION ≤ q) (low : (q : ℚ) < T)
    (within : T * (10 : ℚ) ^ e ≤ DecimalContext.default.greatest) : (sticky q : ℚ) * (10 : ℚ) ^ e ≤ DecimalContext.default.greatest := by
  have less : (q : ℚ) * (10 : ℚ) ^ e < DecimalContext.default.greatest := (mul_lt_mul_of_pos_right low (ten_pow_pos e)).trans_le within
  unfold DecimalContext.greatest at less ⊢
  have longer : 10 ^ DecimalContext.default.precision - 1 ≤ q := (Nat.sub_le _ 1).trans long
  generalize 10 ^ DecimalContext.default.precision - 1 = M at less longer ⊢
  generalize DecimalContext.default.etop = top at less ⊢
  rcases le_or_gt top e with coarse | fine
  · have power : (10 : ℚ) ^ top ≤ (10 : ℚ) ^ e := zpow_le_zpow_right₀ (by norm_num) coarse
    have enough : (M : ℚ) ≤ q := by exact_mod_cast longer
    exact absurd (mul_le_mul enough power (ten_pow_pos _).le (Nat.cast_nonneg q)) (not_le.mpr less)
  · rw [ten_pow_shift fine.le,← mul_assoc] at less ⊢
    have below := lt_of_mul_lt_mul_right less (ten_pow_pos e).le
    have whole : q < M * 10 ^ (top - e).toNat := by exact_mod_cast below
    have next : sticky q ≤ M * 10 ^ (top - e).toNat := (sticky_inside q).2.2.1.trans whole
    refine mul_le_mul_of_nonneg_right ?_ (ten_pow_pos e).le
    exact_mod_cast next

theorem divide_returns (nonzero : b.coefficient ≠ 0) (within : |a.toRat / b.toRat| ≤ DecimalContext.default.greatest) :
    ∃ r, a.divide b = .ok r := by
  unfold Decimal.divide
  simp only [← default_fix]
  by_cases zero : a.coefficient = 0
  · rw [if_pos zero]
    exact ⟨_,rfl⟩
  rw [if_neg zero]
  generalize shifted : (digitCount b.coefficient : Int) - digitCount a.coefficient + CONTEXT_PRECISION + 1 = shift
  have long := quotient_long (Nat.pos_of_ne_zero zero) (Nat.pos_of_ne_zero nonzero)
  simp only [shifted] at long
  rw [quotient_value a b shift nonzero] at within
  have scale : 0 < b.coefficient * 10 ^ (-shift).toNat := Nat.mul_pos (Nat.pos_of_ne_zero nonzero) (Nat.pow_pos (by decide))
  generalize a.coefficient * 10 ^ shift.toNat = n at long within ⊢
  generalize b.coefficient * 10 ^ (-shift).toNat = d at long within scale ⊢
  generalize a.exponent - b.exponent - shift = e at within ⊢
  have scale' : (0 : ℚ) < d := by exact_mod_cast scale
  have sign : |if a.negative != b.negative then (-1 : ℚ) else 1| = 1 := by split <;> norm_num
  rw [abs_mul,abs_mul,sign,one_mul,abs_of_nonneg (by positivity : (0 : ℚ) ≤ (n : ℚ) / d),abs_of_pos (ten_pow_pos e)] at within
  have parts := Nat.div_add_mod n d
  split
  · rename_i rest
    have low : ((n / d : Nat) : ℚ) < (n : ℚ) / d := by
      rw [lt_div_iff₀ scale']
      have less : n / d * d < n := by rw [Nat.mul_comm]; omega
      exact_mod_cast less
    apply fix_returns
    rw [size_parts]
    exact sticky_within long low within
  · rename_i whole
    have exact : ((n / d : Nat) : ℚ) = (n : ℚ) / d := by
      rw [eq_div_iff scale'.ne']
      have equal : n / d * d = n := by rw [Nat.mul_comm]; omega
      exact_mod_cast equal
    have kept := drop_value (digitCount (n / d)) (n / d) e (a.exponent - b.exponent)
    rw [exact] at kept
    apply fix_returns
    rw [size_parts,kept]
    exact within

theorem divided_between (nonzero : b.toRat ≠ 0) (low : DecimalContext.default.Holds lo) (high : DecimalContext.default.Holds hi)
    (above : lo ≤ a.toRat / b.toRat) (below : a.toRat / b.toRat ≤ hi) : ∃ r, divideDecimal a b = .ok r ∧ lo ≤ r.toRat ∧ r.toRat ≤ hi := by
  have divisor : b.coefficient ≠ 0 := fun zero => nonzero ((toRat_zero b).mpr zero)
  obtain ⟨r,divided⟩ := divide_returns divisor (within_between low high above below)
  have returned : divideDecimal a b = .ok r := by rw [divideDecimal,if_neg divisor,divided]
  have inside := round_between low high above below
  rw [← (divided_round returned).2] at inside
  exact ⟨r,returned,inside⟩

end Enclosures
end SwapMonitor
