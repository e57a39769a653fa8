import SwapMonitor.Domain.Decimals

namespace SwapMonitor
open Arithmetic

-- Context(prec=28, rounding=ROUND_HALF_EVEN) with the exponent range of the default context.
def CONTEXT_PRECISION : Nat := 28
def CONTEXT_EMAX : Int := 999999
def CONTEXT_ETINY : Int := -1000026
def CONTEXT_ETOP : Int := 999972

def decimalOverflow : Except PyError Decimal := raise .decimalOverflow "above Emax"

-- Round the coefficient away below an exponent; a carry to one digit more leaves a zero to drop.
def roundTo (d : Decimal) (exponent : Int) : Except PyError Decimal :=
  let coefficient := divHalfEven d.coefficient (10 ^ (exponent - d.exponent).toNat)
  if CONTEXT_PRECISION < digitCount coefficient then
    if CONTEXT_ETOP < exponent + 1 then decimalOverflow
    else .ok ⟨d.negative,coefficient / 10,exponent + 1⟩
  else .ok ⟨d.negative,coefficient,exponent⟩

-- What the context makes of an exact result.
def fix (d : Decimal) : Except PyError Decimal :=
  if d.coefficient = 0 then .ok {d with exponent := max CONTEXT_ETINY (min d.exponent CONTEXT_EMAX)}
  else
    let lowest : Int := digitCount d.coefficient + d.exponent - CONTEXT_PRECISION
    if CONTEXT_ETOP < lowest then decimalOverflow
    else if d.exponent < max lowest CONTEXT_ETINY then roundTo d (max lowest CONTEXT_ETINY)
    else .ok d

def addExact (a b : Decimal) : Decimal :=
  let exponent := min a.exponent b.exponent
  let sum := a.signed * 10 ^ (a.exponent - exponent).toNat + b.signed * 10 ^ (b.exponent - exponent).toNat
  ⟨if sum = 0 then a.negative && b.negative else decide (sum < 0),sum.natAbs,exponent⟩

-- left + right
def Decimal.add (left right : Decimal) : Except PyError Decimal := fix (addExact left right)

def Decimal.negate (d : Decimal) : Decimal := {d with negative := !d.negative}

-- left - right
def Decimal.subtract (left right : Decimal) : Except PyError Decimal := left.add right.negate

def multiplyExact (a b : Decimal) : Decimal :=
  ⟨a.negative != b.negative,a.coefficient * b.coefficient,a.exponent + b.exponent⟩

-- left * right
def Decimal.multiply (left right : Decimal) : Except PyError Decimal := fix (multiplyExact left right)

-- An exact quotient loses its zeros down to the exponent it would have had.
def dropZeros : Nat → Nat → Int → Int → Nat × Int
  | 0,coefficient,exponent,_ => (coefficient,exponent)
  | fuel + 1,coefficient,exponent,ideal =>
    if exponent < ideal ∧ coefficient % 10 = 0 then dropZeros fuel (coefficient / 10) (exponent + 1) ideal
    else (coefficient,exponent)

-- left / right of a divisor that is not zero: one digit more than the precision, made odd or
-- kept off a tie where a remainder is left, and then rounded.
def Decimal.divide (left right : Decimal) : Except PyError Decimal :=
  let negative := left.negative != right.negative
  let ideal := left.exponent - right.exponent
  if left.coefficient = 0 then fix ⟨negative,0,ideal⟩
  else
    let shift : Int := digitCount right.coefficient - digitCount left.coefficient + CONTEXT_PRECISION + 1
    let numerator := left.coefficient * 10 ^ shift.toNat
    let denominator := right.coefficient * 10 ^ (-shift).toNat
    let coefficient := numerator / denominator
    if numerator % denominator ≠ 0 then
      fix ⟨negative,if coefficient % 5 = 0 then coefficient + 1 else coefficient,ideal - shift⟩
    else
      let (coefficient,exponent) := dropZeros (digitCount coefficient) coefficient (ideal - shift) ideal
      fix ⟨negative,coefficient,exponent⟩

def sumDecimals (start : Decimal) : List Decimal → Except PyError Decimal
  | [] => .ok start
  | value :: rest => do
    let sum ← start.add value
    sumDecimals sum rest

def productDecimals (start : Decimal) : List Decimal → Except PyError Decimal
  | [] => .ok start
  | value :: rest => do
    let product ← start.multiply value
    productDecimals product rest

-- A number that the precision holds exactly.
def Representable (q : ℚ) : Prop := ∃ coefficient exponent : Int,
  q = (coefficient : ℚ) * (10 : ℚ) ^ exponent ∧ coefficient.natAbs < 10 ^ CONTEXT_PRECISION

theorem signed_result (sum exponent : Int) (zero : Bool) :
    Decimal.signed ⟨if sum = 0 then zero else decide (sum < 0),sum.natAbs,exponent⟩ = sum := by
  unfold Decimal.signed
  rcases lt_trichotomy sum 0 with below | rfl | above
  · simp only [below.ne,below,if_false,decide_true,if_true]
    omega
  · cases zero <;> rfl
  · simp only [above.ne',not_lt.mpr above.le,if_false,decide_false,Bool.false_eq_true]
    omega

theorem add_exact_value (a b : Decimal) : (addExact a b).toRat = a.toRat + b.toRat := by
  have left := toRat_shift a (min_le_left a.exponent b.exponent)
  have right := toRat_shift b (min_le_right a.exponent b.exponent)
  rw [left,right,← add_mul,← Int.cast_add,toRat_signed,addExact,signed_result]

section Rounding
variable {d r : Decimal}

-- A coefficient of too many digits that stands for a number of few ends in zeros.
theorem zeros_dropped {n : Nat} {x : Int} {k : Nat} (long : digitCount n = CONTEXT_PRECISION + k)
    (held : ∃ coefficient exponent : Int, (n : ℚ) * (10 : ℚ) ^ x = (coefficient : ℚ) * (10 : ℚ) ^ exponent ∧
      coefficient.natAbs < 10 ^ CONTEXT_PRECISION) (positive : 0 < n) : n % 10 ^ k = 0 := by
  obtain ⟨c,e,value,small⟩ := held
  have lower := digits_lower positive
  rcases le_or_gt e x with coarse | fine
  · -- the other coefficient would be at least as long
    rw [ten_pow_shift coarse,← mul_assoc] at value
    have same := mul_right_cancel₀ (ten_pow_pos e).ne' value
    have whole : (n : Int) * 10 ^ (x - e).toNat = c := by exact_mod_cast same
    cases k with
    | zero => simp [Nat.mod_one]
    | succ k =>
      have grown : n ≤ c.natAbs := by
        rw [← whole,Int.natAbs_mul,Int.natAbs_natCast,Int.natAbs_pow]
        exact Nat.le_mul_of_pos_right _ (Nat.pow_pos (by decide))
      rw [long] at lower
      have longer : 10 ^ CONTEXT_PRECISION ≤ 10 ^ (CONTEXT_PRECISION + (k + 1) - 1) :=
        Nat.pow_le_pow_right (by decide) (by omega)
      omega
  · rw [ten_pow_shift fine.le,← mul_assoc] at value
    have same := mul_right_cancel₀ (ten_pow_pos x).ne' value
    have whole : (n : Int) = c * 10 ^ (e - x).toNat := by exact_mod_cast same
    have natural : n = c.natAbs * 10 ^ (e - x).toNat := by
      have absolute := congrArg Int.natAbs whole
      simpa [Int.natAbs_mul,Int.natAbs_pow] using absolute
    rcases Nat.lt_or_ge (e - x).toNat k with less | enough
    · have bound : n < 10 ^ (CONTEXT_PRECISION + k - 1) := by
        calc n = c.natAbs * 10 ^ (e - x).toNat := natural
          _ < 10 ^ CONTEXT_PRECISION * 10 ^ (e - x).toNat :=
            Nat.mul_lt_mul_of_pos_right small (Nat.pow_pos (by decide))
          _ = 10 ^ (CONTEXT_PRECISION + (e - x).toNat) := by rw [Nat.pow_add]
          _ ≤ 10 ^ (CONTEXT_PRECISION + k - 1) := Nat.pow_le_pow_right (by decide) (by omega)
      rw [long] at lower
      omega
    · rw [natural]
      exact Nat.mod_eq_zero_of_dvd (Dvd.dvd.mul_left (Nat.pow_dvd_pow 10 enough) _)

theorem representable_coefficient (held : Representable d.toRat) : ∃ coefficient exponent : Int,
    (d.coefficient : ℚ) * (10 : ℚ) ^ d.exponent = (coefficient : ℚ) * (10 : ℚ) ^ exponent ∧
      coefficient.natAbs < 10 ^ CONTEXT_PRECISION := by
  obtain ⟨c,e,value,small⟩ := held
  rw [toRat_parts] at value
  cases negative : d.negative with
  | false => exact ⟨c,e,by simpa [negative] using value,small⟩
  | true =>
    refine ⟨-c,e,?_,by simpa using small⟩
    simp only [negative,if_true] at value
    push_cast
    linarith

-- A result that the precision holds is kept as it is.
theorem fix_exact (held : Representable d.toRat) (low : CONTEXT_ETINY ≤ d.exponent) (fixed : fix d = .ok r) :
    r.toRat = d.toRat := by
  unfold fix at fixed
  by_cases zero : d.coefficient = 0
  · rw [if_pos zero,Except.ok.injEq] at fixed
    subst fixed
    rw [(toRat_zero d).mpr zero,(toRat_zero _).mpr (by exact zero)]
  rw [if_neg zero] at fixed
  simp only at fixed
  split at fixed
  · cases fixed
  split at fixed
  · rename_i rounded
    have lowest : max ((digitCount d.coefficient : Int) + d.exponent - CONTEXT_PRECISION) CONTEXT_ETINY =
        (digitCount d.coefficient : Int) + d.exponent - CONTEXT_PRECISION := by omega
    rw [lowest] at fixed rounded
    generalize steps : ((digitCount d.coefficient : Int) + d.exponent - CONTEXT_PRECISION - d.exponent).toNat = k at fixed
    have long : digitCount d.coefficient = CONTEXT_PRECISION + k := by omega
    have positive : 0 < d.coefficient := Nat.pos_of_ne_zero zero
    have divides := zeros_dropped long (representable_coefficient held) positive
    have whole : d.coefficient / 10 ^ k * 10 ^ k = d.coefficient :=
      Nat.div_mul_cancel (Nat.dvd_of_mod_eq_zero divides)
    have short : digitCount (d.coefficient / 10 ^ k) = CONTEXT_PRECISION := by
      have counted := digits_mul_pow (n := d.coefficient / 10 ^ k) (by
        apply Nat.pos_of_ne_zero
        intro none
        rw [none,Nat.zero_mul] at whole
        omega) k
      rw [whole] at counted
      omega
    rw [roundTo,steps] at fixed
    simp only [half_even_exact divides (Nat.pow_pos (by decide)),short,Nat.lt_irrefl,if_false,Except.ok.injEq] at fixed
    subst fixed
    rw [toRat_parts,toRat_parts d]
    have scaled : ((d.coefficient / 10 ^ k : Nat) : ℚ) * (10 : ℚ) ^
        ((digitCount d.coefficient : Int) + d.exponent - CONTEXT_PRECISION) =
        (d.coefficient : ℚ) * (10 : ℚ) ^ d.exponent := by
      have higher : d.exponent ≤ (digitCount d.coefficient : Int) + d.exponent - CONTEXT_PRECISION := by omega
      rw [ten_pow_shift higher,steps,← mul_assoc]
      congr 1
      have cast := congrArg (fun n : Nat => (n : ℚ)) whole
      simp only [Nat.cast_mul,Nat.cast_pow,Nat.cast_ofNat] at cast
      push_cast
      exact cast
    simp only [mul_assoc,scaled]
  · cases fixed
    rfl

-- Whatever was rounded away, the precision holds the result.
theorem fix_representable (fixed : fix d = .ok r) : Representable r.toRat := by
  have held : ∀ q : Decimal, q.coefficient < 10 ^ CONTEXT_PRECISION → Representable q.toRat := by
    intro q small
    exact ⟨q.signed,q.exponent,toRat_signed q,by rw [natAbs_signed]; exact small⟩
  unfold fix at fixed
  by_cases zero : d.coefficient = 0
  · rw [if_pos zero,Except.ok.injEq] at fixed
    subst fixed
    apply held
    simp [zero]
  rw [if_neg zero] at fixed
  simp only at fixed
  split at fixed
  · cases fixed
  split at fixed
  · rename_i rounded
    generalize place : max ((digitCount d.coefficient : Int) + d.exponent - CONTEXT_PRECISION) CONTEXT_ETINY = e at fixed rounded
    have enough : digitCount d.coefficient ≤ CONTEXT_PRECISION + (e - d.exponent).toNat := by omega
    have upper : divHalfEven d.coefficient (10 ^ (e - d.exponent).toNat) ≤ 10 ^ CONTEXT_PRECISION := by
      apply half_even_upper
      rw [← Nat.pow_add]
      exact Nat.lt_of_lt_of_le (lt_digits _) (Nat.pow_le_pow_right (by decide) enough)
    rw [roundTo] at fixed
    split at fixed
    · split at fixed
      · cases fixed
      · cases fixed
        apply held
        have tenth : 10 ^ CONTEXT_PRECISION / 10 < 10 ^ CONTEXT_PRECISION := by decide
        exact Nat.lt_of_le_of_lt (Nat.div_le_div_right upper) tenth
    · rename_i short
      cases fixed
      exact held _ ((digits_le (by decide)).mp (Nat.le_of_not_lt short))
  · rename_i kept
    cases fixed
    exact held d ((digits_le (by decide)).mp (by omega))

-- Rounding keeps the sign.
theorem fix_nonneg (fixed : fix d = .ok r) (nonneg : 0 ≤ d.toRat) : 0 ≤ r.toRat := by
  have signs : ∀ q : Decimal, 0 ≤ q.toRat ↔ q.negative = false ∨ q.coefficient = 0 := by
    intro q
    rw [toRat_nonneg,Decimal.signed]
    cases q.negative <;> simp
  rw [signs] at nonneg ⊢
  unfold fix at fixed
  by_cases zero : d.coefficient = 0
  · rw [if_pos zero,Except.ok.injEq] at fixed
    subst fixed
    exact .inr zero
  have positive := nonneg.resolve_right zero
  rw [if_neg zero] at fixed
  simp only at fixed
  split at fixed
  · cases fixed
  split at fixed
  · rw [roundTo] at fixed
    split at fixed
    · split at fixed
      · cases fixed
      · cases fixed
        exact .inl positive
    · cases fixed
      exact .inl positive
  · cases fixed
    exact .inl positive

theorem add_nonneg_sum {a b sum : Decimal} (added : a.add b = .ok sum) (left : 0 ≤ a.toRat) (right : 0 ≤ b.toRat) :
    0 ≤ sum.toRat := by
  apply fix_nonneg added
  rw [add_exact_value]
  exact add_nonneg left right

-- A sum that the precision holds is exact.
theorem add_exact {a b sum : Decimal} (added : a.add b = .ok sum) (held : Representable (a.toRat + b.toRat))
    (low : CONTEXT_ETINY ≤ a.exponent ∧ CONTEXT_ETINY ≤ b.exponent) : sum.toRat = a.toRat + b.toRat := by
  rw [← add_exact_value] at held ⊢
  exact fix_exact held (le_min low.1 low.2) added

end Rounding
end SwapMonitor
