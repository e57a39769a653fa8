import SwapMonitor.Domain.DecimalDivision
import SwapMonitor.Domain.ExactSums

namespace SwapMonitor
open Arithmetic

theorem negate_value (d : Decimal) : d.negate.toRat = -d.toRat := by
  rw [toRat_parts,toRat_parts,Decimal.negate]
  cases d.negative <;> simp

theorem multiply_exact_value (a b : Decimal) : (multiplyExact a b).toRat = a.toRat * b.toRat := by
  rw [toRat_parts,toRat_parts,toRat_parts,multiplyExact,zpow_add₀ (by norm_num : (10 : ℚ) ≠ 0)]
  push_cast
  cases a.negative <;> cases b.negative <;> simp <;> ring

section Holding
variable {c : DecimalContext} {d r : Decimal} {x : ℚ}

theorem holds_zero (c : DecimalContext) : c.Holds 0 := by
  refine ⟨0,c.etiny,by simp,Nat.pow_pos (by decide),le_refl _,?_⟩
  unfold DecimalContext.etiny DecimalContext.etop CONTEXT_EMIN CONTEXT_EMAX
  omega

theorem holds_neg (held : c.Holds x) : c.Holds (-x) := by
  obtain ⟨coefficient,exponent,rfl,short,low,high⟩ := held
  exact ⟨-coefficient,exponent,by push_cast; ring,by simpa using short,low,high⟩

theorem holds_digits (short : d.coefficient < 10 ^ c.precision) (low : c.etiny ≤ d.exponent) (high : d.exponent ≤ c.etop) : c.Holds d.toRat :=
  ⟨d.signed,d.exponent,toRat_signed d,by rwa [natAbs_signed],low,high⟩

-- What a context has made of a number is a number of the context.
theorem fix_holds (fixed : c.fix d = .ok r) : c.Holds r.toRat := by
  unfold DecimalContext.fix at fixed
  by_cases zero : d.coefficient = 0
  · rw [if_pos zero,Except.ok.injEq] at fixed
    subst fixed
    rw [(toRat_zero _).mpr (by exact zero)]
    exact holds_zero c
  rw [if_neg zero] at fixed
  simp only at fixed
  have tiny : c.etiny ≤ c.etop := by
    unfold DecimalContext.etiny DecimalContext.etop CONTEXT_EMIN CONTEXT_EMAX
    omega
  split at fixed
  · cases fixed
  rename_i fits
  split at fixed
  · rename_i finer
    generalize place : max ((digitCount d.coefficient : Int) + d.exponent - c.precision) c.etiny = m at fixed finer
    have digits : digitCount d.coefficient ≤ c.precision + (m - d.exponent).toNat := by omega
    have upper : c.rounding.divide d.negative d.coefficient (10 ^ (m - d.exponent).toNat) ≤ 10 ^ c.precision := by
      apply divide_upper
      rw [← Nat.pow_add]
      exact Nat.lt_of_lt_of_le (lt_digits _) (Nat.pow_le_pow_right (by decide) digits)
    unfold DecimalContext.roundTo at fixed
    generalize c.rounding.divide d.negative d.coefficient (10 ^ (m - d.exponent).toNat) = coefficient at upper fixed
    simp only at fixed
    have positive : 0 < 10 ^ c.precision := Nat.pow_pos (by decide)
    split at fixed
    · split at fixed
      · cases fixed
      · cases fixed
        exact holds_digits (by simp only; omega) (by simp only; omega) (by simp only; omega)
    · rename_i short
      cases fixed
      exact holds_digits ((digits_le c.digits).mp (not_lt.mp short)) (by simp only; omega) (by simp only; omega)
  · rename_i kept
    cases fixed
    rcases le_or_gt d.exponent c.etop with high | beyond
    · exact holds_digits ((digits_le c.digits).mp (by omega)) (by omega) high
    -- A greater exponent is the last one with zeros added to the coefficient.
    · refine ⟨d.signed * 10 ^ (d.exponent - c.etop).toNat,c.etop,toRat_shift d beyond.le,?_,tiny,le_refl _⟩
      rw [Int.natAbs_mul,natAbs_signed,Int.natAbs_pow]
      have counted := digits_mul_pow (Nat.pos_of_ne_zero zero) (d.exponent - c.etop).toNat
      exact (digits_le c.digits).mp (by change digitCount (d.coefficient * 10 ^ _) ≤ _; omega)

theorem minus_held (held : c.Holds d.toRat) : ∃ r, c.minus d = .ok r ∧ r.toRat = -d.toRat := by
  unfold DecimalContext.minus
  have value : ({d with negative := if d.coefficient = 0 then decide (c.rounding = .floor) && !d.negative else !d.negative} : Decimal).toRat =
      -d.toRat := (signless_value d.negate _).trans (negate_value d)
  rw [← value]
  exact fix_held (by rw [value]; exact holds_neg held)

theorem context_added {a b : Decimal} (added : c.add a b = .ok r) : r.toRat = c.round (a.toRat + b.toRat) := by
  unfold DecimalContext.add at added
  rw [fix_round added,signless_value,add_exact_value]

theorem context_subtracted {a b : Decimal} (subtracted : c.subtract a b = .ok r) : r.toRat = c.round (a.toRat - b.toRat) := by
  rw [context_added subtracted,negate_value,sub_eq_add_neg]

theorem context_minus {a : Decimal} (turned : c.minus a = .ok r) : r.toRat = c.round (-a.toRat) := by
  unfold DecimalContext.minus at turned
  rw [fix_round turned,← negate_value]
  congr 1
  exact signless_value a.negate _

end Holding

-- What the fixed context makes of the operations.
section Fixed
variable {a a' b b' r r' : Decimal}

theorem fixed_round (fixed : fix a = .ok r) : r.toRat = DecimalContext.default.round a.toRat := by
  rw [← default_fix] at fixed
  exact fix_round fixed

theorem fixed_mono {x y : ℚ} (order : x ≤ y) : DecimalContext.default.round x ≤ DecimalContext.default.round y := round_mono _ order

theorem added_round (added : a.add b = .ok r) : r.toRat = DecimalContext.default.round (a.toRat + b.toRat) := by
  rw [fixed_round added,add_exact_value]

theorem subtracted_round (subtracted : a.subtract b = .ok r) : r.toRat = DecimalContext.default.round (a.toRat - b.toRat) := by
  rw [added_round subtracted,negate_value,sub_eq_add_neg]

theorem multiplied_round (multiplied : a.multiply b = .ok r) : r.toRat = DecimalContext.default.round (a.toRat * b.toRat) := by
  rw [fixed_round multiplied,multiply_exact_value]

theorem divided_round (divided : divideDecimal a b = .ok r) :
    b.toRat ≠ 0 ∧ r.toRat = DecimalContext.default.round (a.toRat / b.toRat) := by
  unfold divideDecimal at divided
  split at divided
  · split at divided <;> cases divided
  · rename_i nonzero
    exact ⟨fun zero => nonzero ((toRat_zero b).mp zero),divide_round nonzero divided⟩

theorem sum_holds {values : List Decimal} (some : values ≠ []) (summed : sumDecimals a values = .ok r) : DecimalContext.default.Holds r.toRat := by
  induction values generalizing a with
  | nil => exact absurd rfl some
  | cons value rest ih =>
    obtain ⟨next,added,others⟩ := bind_ok.mp summed
    cases rest with
    | nil =>
      cases others
      have fixed : fix (addExact a value) = .ok r := added
      rw [← default_fix] at fixed
      exact fix_holds fixed
    | cons more rest => exact ih (List.cons_ne_nil _ _) others

theorem sum_mono {values values' : List Decimal} (each : List.Forall₂ (fun v w => v.toRat ≤ w.toRat) values values')
    (start : a.toRat ≤ a'.toRat) (one : sumDecimals a values = .ok r) (two : sumDecimals a' values' = .ok r') : r.toRat ≤ r'.toRat := by
  induction each generalizing a a' with
  | nil =>
    cases one
    cases two
    exact start
  | cons head _ ih =>
    obtain ⟨next,added,rest⟩ := bind_ok.mp one
    obtain ⟨next',added',rest'⟩ := bind_ok.mp two
    refine ih ?_ rest rest'
    rw [added_round added,added_round added']
    exact fixed_mono (add_le_add start head)

-- Nothing but an overflow keeps the fixed context from a result.
theorem fix_raised {d : Decimal} {error : PyError} (raised : fix d = .error error) : error.kind = .decimalOverflow := by
  unfold fix roundTo decimalOverflow at raised
  dsimp only at raised
  repeat' split at raised
  all_goals simp [raise] at raised
  all_goals rw [← raised]

theorem divide_raised {left right : Decimal} {error : PyError} (raised : left.divide right = .error error) :
    error.kind = .decimalOverflow := by
  unfold Decimal.divide at raised
  dsimp only at raised
  repeat' split at raised
  all_goals exact fix_raised raised

theorem quotient_raised {left right : Decimal} {error : PyError} (nonzero : right.toRat ≠ 0) (raised : divideDecimal left right = .error error) :
    error.kind = .decimalOverflow := by
  rw [divideDecimal,if_neg fun zero => nonzero ((toRat_zero right).mpr zero)] at raised
  exact divide_raised raised

theorem subtract_same (left : a.toRat = a'.toRat) (right : b.toRat = b'.toRat) (one : a.subtract b = .ok r)
    (two : a'.subtract b' = .ok r') : r.toRat = r'.toRat := by rw [subtracted_round one,subtracted_round two,left,right]

theorem multiply_same (left : a.toRat = a'.toRat) (right : b.toRat = b'.toRat) (one : a.multiply b = .ok r)
    (two : a'.multiply b' = .ok r') : r.toRat = r'.toRat := by rw [multiplied_round one,multiplied_round two,left,right]

theorem divide_same (left : a.toRat = a'.toRat) (right : b.toRat = b'.toRat) (nonzero : b.coefficient ≠ 0)
    (one : a.divide b = .ok r) (two : a'.divide b' = .ok r') : r.toRat = r'.toRat := by
  have other : b'.coefficient ≠ 0 := fun zero => nonzero ((toRat_zero b).mp (right ▸ (toRat_zero b').mpr zero))
  rw [divide_round nonzero one,divide_round other two,left,right]

theorem sum_same {values values' : List Decimal} (same : List.Forall₂ (fun v w => v.toRat = w.toRat) values values')
    (start : a.toRat = a'.toRat) (one : sumDecimals a values = .ok r) (two : sumDecimals a' values' = .ok r') : r.toRat = r'.toRat :=
  le_antisymm (sum_mono (same.imp fun _ _ => le_of_eq) start.le one two)
    (sum_mono (same.flip.imp fun _ _ => ge_of_eq) start.ge two one)

theorem product_same {values values' : List Decimal} (same : List.Forall₂ (fun v w => v.toRat = w.toRat) values values')
    (start : a.toRat = a'.toRat) (one : productDecimals a values = .ok r) (two : productDecimals a' values' = .ok r') :
    r.toRat = r'.toRat := by
  induction same generalizing a a' with
  | nil =>
    cases one
    cases two
    exact start
  | cons head _ ih =>
    obtain ⟨s,multiplied,rest⟩ := bind_ok.mp one
    obtain ⟨s',multiplied',rest'⟩ := bind_ok.mp two
    exact ih (multiply_same start head multiplied multiplied') rest rest'

end Fixed
end SwapMonitor
