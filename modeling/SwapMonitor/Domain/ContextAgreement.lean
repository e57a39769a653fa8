import SwapMonitor.Domain.FixedArithmetic
import SwapMonitor.Exceptions.Agreement

namespace SwapMonitor
open Arithmetic Exceptions

-- Two numbers written in any way.
def SameNumber (a b : Decimal) : Prop := a.toRat = b.toRat

section Overflows
variable {c : DecimalContext} {d d' r : Decimal} {error : PyError}

theorem greatest_below (c : DecimalContext) : c.greatest < (10 : ℚ) ^ ((c.precision : Int) + c.etop) := by
  rw [DecimalContext.greatest,zpow_add₀ (by norm_num : (10 : ℚ) ≠ 0),zpow_natCast]
  refine mul_lt_mul_of_pos_right ?_ (ten_pow_pos _)
  have power : 0 < 10 ^ c.precision := Nat.pow_pos (by decide)
  have less : 10 ^ c.precision - 1 < 10 ^ c.precision := by omega
  exact_mod_cast less

-- A multiple of the last place of a number is not above what the number is rounded to when it is not above the number.
theorem round_above {x y : ℚ} (grid : OnGrid ((10 : ℚ) ^ place 10 c.precision c.etiny x) y) (above : y ≤ |x|) :
    y ≤ |c.round x| := by
  have step : (0 : ℚ) < ((10 : Nat) : ℚ) ^ place 10 c.precision c.etiny x := base_power (by decide) _
  unfold DecimalContext.round Rounding.significant
  rcases le_total 0 x with positive | negative
  · rw [abs_of_nonneg positive] at above
    exact (onto_above step grid above).trans (le_abs_self _)
  · rw [abs_of_nonpos negative] at above
    have below := onto_below (r := c.rounding.asRounding) step (grid_neg grid) (le_neg_of_le_neg above)
    exact (le_neg_of_le_neg below).trans (neg_le_abs _)

-- A context that has no result for a number would have rounded it above its greatest one.
theorem fix_overflows (raised : c.fix d = .error error) : c.greatest < |c.round d.toRat| := by
  have tiny : c.etiny ≤ c.etop := by
    unfold DecimalContext.etiny DecimalContext.etop CONTEXT_EMIN CONTEXT_EMAX
    omega
  unfold DecimalContext.fix at raised
  by_cases zero : d.coefficient = 0
  · rw [if_pos zero] at raised
    cases raised
  rw [if_neg zero] at raised
  simp only at raised
  have last := decimal_place (c := c) zero
  have digits := c.digits
  split at raised
  · rename_i beyond
    rw [max_eq_left (by omega)] at last
    have power : (10 : ℚ) ^ ((c.precision : Int) + c.etop) ≤ (10 : ℚ) ^ ((digitCount d.coefficient : Int) - 1 + d.exponent) :=
      zpow_le_zpow_right₀ (by norm_num) (by omega)
    refine lt_of_lt_of_le (greatest_below c) (power.trans (round_above ?_ ?_))
    · exact power_grid (by decide) (by rw [last]; omega)
    · have size : 0 < |d.toRat| := abs_pos.mpr fun none => zero ((toRat_zero d).mp none)
      exact (Int.zpow_le_iff_le_log (b := 10) (by decide) size).mpr (decimal_log zero).ge
  split at raised
  · rename_i finer
    generalize max ((digitCount d.coefficient : Int) + d.exponent - c.precision) c.etiny = m at raised finer last
    have rounded : |c.round d.toRat| = (c.rounding.divide d.negative d.coefficient (10 ^ (m - d.exponent).toNat) : ℚ) * (10 : ℚ) ^ m := by
      unfold DecimalContext.round Rounding.significant Rounding.onto
      rw [last]
      change |(c.rounding.nearest (d.toRat / (10 : ℚ) ^ m) : ℚ) * (10 : ℚ) ^ m| = _
      rw [nearest_number finer.le,abs_mul,abs_mul,Nat.abs_cast,abs_of_pos (ten_pow_pos m)]
      cases d.negative <;> simp
    unfold DecimalContext.roundTo at raised
    simp only at raised
    split at raised
    · rename_i long
      split at raised
      · rename_i beyond
        have most : 10 ^ c.precision ≤ c.rounding.divide d.negative d.coefficient (10 ^ (m - d.exponent).toNat) :=
          Nat.le_of_not_lt fun less => absurd ((digits_le digits).mpr less) (Nat.not_le.mpr long)
        rw [rounded]
        refine lt_of_lt_of_le (greatest_below c) ?_
        rw [zpow_add₀ (by norm_num : (10 : ℚ) ≠ 0),zpow_natCast]
        have great : ((10 : ℚ) ^ c.precision) ≤ c.rounding.divide d.negative d.coefficient (10 ^ (m - d.exponent).toNat) := by exact_mod_cast most
        have power : (10 : ℚ) ^ c.etop ≤ (10 : ℚ) ^ m := zpow_le_zpow_right₀ (by norm_num) (by omega)
        exact mul_le_mul great power (ten_pow_pos _).le (Nat.cast_nonneg _)
      · cases raised
    · cases raised
  · cases raised

theorem fix_error (raised : c.fix d = .error error) : decimalOverflow = .error error := by
  unfold DecimalContext.fix DecimalContext.roundTo at raised
  dsimp only at raised
  repeat' split at raised
  all_goals first
    | exact raised
    | cases raised

-- What a context makes of two numbers agrees when it rounds them alike.
theorem fix_agrees (same : c.round d.toRat = c.round d'.toRat) : Agree SameNumber (c.fix d) (c.fix d') := by
  have returns : ∀ {a b : Decimal} {r : Decimal} {error : PyError}, c.round a.toRat = c.round b.toRat → c.fix a = .ok r →
      c.fix b = .error error → False := by
    intro a b r error alike fixed raised
    have beyond := fix_overflows raised
    rw [← alike,← fix_round fixed] at beyond
    exact absurd (holds_within (fix_holds fixed)) (not_le.mpr beyond)
  cases one : c.fix d with
  | ok r =>
    cases two : c.fix d' with
    | ok r' =>
      refine .returned ?_
      rw [SameNumber,fix_round one,fix_round two,same]
    | error error => exact (returns same one two).elim
  | error error =>
    cases two : c.fix d' with
    | ok r' => exact (returns same.symm two one).elim
    | error error' =>
      obtain rfl : error = error' := Except.error.inj ((fix_error one).symm.trans (fix_error two))
      exact .raised error

end Overflows

-- What the fixed context makes of numbers does not depend on how they are written.
section Fixed
variable {a a' b b' : Decimal}

theorem fixed_agrees (same : DecimalContext.default.round a.toRat = DecimalContext.default.round a'.toRat) :
    Agree SameNumber (fix a) (fix a') := by
  rw [← default_fix,← default_fix]
  exact fix_agrees same

theorem add_agrees (left : SameNumber a a') (right : SameNumber b b') : Agree SameNumber (a.add b) (a'.add b') := by
  refine fixed_agrees ?_
  rw [add_exact_value,add_exact_value,left,right]

theorem multiply_agrees (left : SameNumber a a') (right : SameNumber b b') : Agree SameNumber (a.multiply b) (a'.multiply b') := by
  refine fixed_agrees ?_
  rw [multiply_exact_value,multiply_exact_value,left,right]

theorem zero_agrees (same : SameNumber a a') : a.coefficient = 0 ↔ a'.coefficient = 0 := by
  rw [← toRat_zero,← toRat_zero,same]

theorem divide_agrees (left : SameNumber a a') (right : SameNumber b b') : Agree SameNumber (divideDecimal a b) (divideDecimal a' b') := by
  unfold divideDecimal
  by_cases zero : b.coefficient = 0
  · rw [if_pos zero,if_pos ((zero_agrees right).mp zero)]
    by_cases none : a.coefficient = 0
    · rw [if_pos none,if_pos ((zero_agrees left).mp none)]
      exact .raised _
    · rw [if_neg none,if_neg (mt (zero_agrees left).mpr none)]
      exact .raised _
  · have other := mt (zero_agrees right).mpr zero
    rw [if_neg zero,if_neg other]
    obtain ⟨d,fixed,value⟩ := divide_fixed a zero
    obtain ⟨d',fixed',value'⟩ := divide_fixed a' other
    rw [fixed,fixed']
    refine fixed_agrees ?_
    rw [value,value',left,right]

theorem sum_agrees {values values' : List Decimal} (each : List.Forall₂ SameNumber values values') (start : SameNumber a a') :
    Agree SameNumber (sumDecimals a values) (sumDecimals a' values') := by
  induction each generalizing a a' with
  | nil => exact .returned start
  | cons head _ ih => exact agree_bind (add_agrees start head) fun _ _ _ next => ih next

end Fixed

-- One significant digit, and an exponent every context has room for.
def ONE_DIGIT : DecimalContext := ⟨1,.down,Nat.one_pos⟩
def OneDigit (x : ℚ) : Prop := ONE_DIGIT.Holds x

-- Numbers of one digit that are added one after the other.
def AddsDigits (start : ℚ) : List Decimal → Prop
  | [] => True
  | value :: rest => OneDigit (start + value.toRat) ∧ AddsDigits (start + value.toRat) rest

-- What every context makes of numbers that it holds.
section Ambient
variable {c c' : DecimalContext} {a a' b b' : Decimal} {values values' : List Decimal} {x : ℚ}

theorem one_digit_held (one : OneDigit x) : c.Holds x := holds_wider (c := ONE_DIGIT) c.digits one

theorem least_greatest (c : DecimalContext) : ONE_DIGIT.greatest ≤ c.greatest := by
  have one : OneDigit ONE_DIGIT.greatest := ⟨9,ONE_DIGIT.etop,by norm_num [DecimalContext.greatest,ONE_DIGIT],by decide,by decide,le_refl _⟩
  exact (le_abs_self _).trans (holds_within (one_digit_held (c := c) one))

theorem held_added (left : SameNumber a a') (right : SameNumber b b') (one : OneDigit (a.toRat + b.toRat)) :
    Agree SameNumber (c.add a b) (c'.add a' b') := by
  obtain ⟨s,added,value⟩ := add_held (one_digit_held (c := c) one)
  rw [left,right] at one
  obtain ⟨s',added',value'⟩ := add_held (one_digit_held (c := c') one)
  rw [added,added']
  refine .returned ?_
  rw [SameNumber,value,value',left,right]

theorem held_subtracted (left : SameNumber a a') (right : SameNumber b b') (one : OneDigit (a.toRat - b.toRat)) :
    Agree SameNumber (c.subtract a b) (c'.subtract a' b') := by
  refine held_added left ?_ ?_
  · rw [SameNumber,negate_value,negate_value,right]
  · rwa [negate_value,← sub_eq_add_neg]

theorem held_sum (each : List.Forall₂ SameNumber values values') (start : SameNumber a a') (adds : AddsDigits a.toRat values) :
    Agree SameNumber (c.sum a values) (c'.sum a' values') := by
  induction each generalizing a a' with
  | nil => exact .returned start
  | cons head _ ih =>
    refine agree_bind (held_added start head adds.1) fun next next' added same => ih same ?_
    obtain ⟨s,added',value⟩ := add_held (one_digit_held (c := c) adds.1)
    obtain rfl : s = next := Except.ok.inj (added'.symm.trans added)
    rw [value]
    exact adds.2

theorem digits_summed (adds : AddsDigits a.toRat values) : ∃ s, c.sum a values = .ok s := by
  induction values generalizing a with
  | nil => exact ⟨a,rfl⟩
  | cons value rest ih =>
    obtain ⟨next,added,sum⟩ := add_held (one_digit_held (c := c) adds.1)
    obtain ⟨s,summed⟩ := ih (a := next) (sum ▸ adds.2)
    exact ⟨s,bind_ok.mpr ⟨next,added,summed⟩⟩

-- What is not negative stays so.
theorem sum_nonneg {s : Decimal} (nonneg : ∀ value ∈ values, 0 ≤ value.toRat) (start : 0 ≤ a.toRat) (summed : c.sum a values = .ok s) :
    0 ≤ s.toRat := by
  induction values generalizing a with
  | nil =>
    cases summed
    exact start
  | cons value rest ih =>
    obtain ⟨next,added,others⟩ := bind_ok.mp summed
    refine ih (fun other member => nonneg other (List.mem_cons_of_mem _ member)) ?_ others
    have rounded := round_mono c (add_nonneg start (nonneg value (List.mem_cons_self ..)))
    rwa [round_held (holds_zero c),← context_added added] at rounded

theorem sums_held {s : Decimal} (start : c.Holds a.toRat) (summed : c.sum a values = .ok s) : c.Holds s.toRat := by
  induction values generalizing a with
  | nil =>
    cases summed
    exact start
  | cons value rest ih =>
    obtain ⟨next,added,others⟩ := bind_ok.mp summed
    exact ih (fix_holds added) others

-- A number up to the greatest of one digit can be negated everywhere.
theorem minus_rounded (within : |a.toRat| ≤ ONE_DIGIT.greatest) : ∃ r, c.minus a = .ok r ∧ r.toRat = c.round (-a.toRat) := by
  have value := (signless_value a.negate (decide (c.rounding = .floor) && !a.negative)).trans (negate_value a)
  obtain ⟨r,fixed⟩ := fix_returns (c := c) (by rw [value,abs_neg]; exact within.trans (least_greatest c))
  exact ⟨r,fixed,context_minus fixed⟩

end Ambient

end SwapMonitor
