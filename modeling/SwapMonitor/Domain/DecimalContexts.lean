import SwapMonitor.Rules.DecimalContext
import SwapMonitor.Arithmetic.Significant
import Mathlib.Tactic.NormNum
import Mathlib.Tactic.Positivity

namespace SwapMonitor
open Arithmetic

-- The rounding modes of the decimal module.
inductive ContextRounding where
  | ceiling | floor | up | down | halfUp | halfDown | halfEven | zeroFiveUp
  deriving DecidableEq, Repr

-- Whether a quotient that leaves a remainder is rounded away from zero.
def ContextRounding.away (mode : ContextRounding) (negative : Bool) (n d : Nat) : Bool :=
  match mode with
  | .ceiling => decide (n % d ≠ 0) && !negative
  | .floor => decide (n % d ≠ 0) && negative
  | .up => decide (n % d ≠ 0)
  | .down => false
  | .halfUp => decide (n % d ≠ 0 ∧ d ≤ 2 * (n % d))
  | .halfDown => decide (d < 2 * (n % d))
  | .halfEven => decide (d < 2 * (n % d) ∨ 2 * (n % d) = d ∧ n / d % 2 = 1)
  | .zeroFiveUp => decide (n % d ≠ 0 ∧ n / d % 5 = 0)

def ContextRounding.divide (mode : ContextRounding) (negative : Bool) (n d : Nat) : Nat :=
  if mode.away negative n d then n / d + 1 else n / d

-- decimal.Context(prec=precision, rounding=rounding) with the exponent range of the default context.
structure DecimalContext where
  precision : Nat
  rounding : ContextRounding
  digits : 0 < precision
  deriving DecidableEq

def CONTEXT_EMIN : Int := -999999

def DecimalContext.etiny (c : DecimalContext) : Int := CONTEXT_EMIN - (c.precision - 1)
def DecimalContext.etop (c : DecimalContext) : Int := CONTEXT_EMAX - (c.precision - 1)

-- decimal.DefaultContext
def DecimalContext.default : DecimalContext := ⟨CONTEXT_PRECISION,.halfEven,by decide⟩

def DecimalContext.roundTo (c : DecimalContext) (d : Decimal) (exponent : Int) : Except PyError Decimal :=
  let coefficient := c.rounding.divide d.negative d.coefficient (10 ^ (exponent - d.exponent).toNat)
  if c.precision < digitCount coefficient then
    if c.etop < exponent + 1 then decimalOverflow
    else .ok ⟨d.negative,coefficient / 10,exponent + 1⟩
  else .ok ⟨d.negative,coefficient,exponent⟩

-- What the context makes of an exact result.
def DecimalContext.fix (c : DecimalContext) (d : Decimal) : Except PyError Decimal :=
  if d.coefficient = 0 then .ok {d with exponent := max c.etiny (min d.exponent CONTEXT_EMAX)}
  else
    let lowest : Int := digitCount d.coefficient + d.exponent - c.precision
    if c.etop < lowest then decimalOverflow
    else if d.exponent < max lowest c.etiny then c.roundTo d (max lowest c.etiny)
    else .ok d

-- left + right; a zero made of opposite signs is negative when the context rounds down.
def DecimalContext.add (c : DecimalContext) (left right : Decimal) : Except PyError Decimal :=
  let exact := addExact left right
  let downward := decide (c.rounding = .floor) && (left.negative || right.negative)
  c.fix {exact with negative := if exact.coefficient = 0 then exact.negative || downward else exact.negative}

-- left - right
def DecimalContext.subtract (c : DecimalContext) (left right : Decimal) : Except PyError Decimal := c.add left right.negate

-- -value
def DecimalContext.minus (c : DecimalContext) (value : Decimal) : Except PyError Decimal :=
  c.fix {value with negative := if value.coefficient = 0 then decide (c.rounding = .floor) && !value.negative else !value.negative}

-- sum(values, start)
def DecimalContext.sum (c : DecimalContext) (start : Decimal) : List Decimal → Except PyError Decimal
  | [] => .ok start
  | value :: rest => do
    let total ← c.add start value
    c.sum total rest

-- left / right as the fixed contexts of the code divide
def divideDecimal (left right : Decimal) : Except PyError Decimal :=
  if right.coefficient = 0 then
    if left.coefficient = 0 then raise (.operationFailed "InvalidOperation") "0 / 0"
    else raise (.operationFailed "DivisionByZero") "x / 0"
  else left.divide right

section Quotients
variable {mode : ContextRounding} {negative : Bool} {n d k : Nat}

theorem away_rest (away : mode.away negative n d = true) (positive : 0 < d) : n % d ≠ 0 := by
  intro exact
  cases mode <;> simp [ContextRounding.away,exact] at away
  omega

theorem away_scaled (positive : 0 < k) : mode.away negative (n * k) (d * k) = mode.away negative n d := by
  have order : ∀ a b : Nat, a * k < b * k ↔ a < b := fun a b => Nat.mul_lt_mul_right positive
  have weak : ∀ a b : Nat, a * k ≤ b * k ↔ a ≤ b := fun a b => Nat.mul_le_mul_right_iff positive
  have equal : ∀ a b : Nat, a * k = b * k ↔ a = b := fun a b => Nat.mul_left_inj positive.ne'
  have zero : ∀ a : Nat, a * k = 0 ↔ a = 0 := fun a => by simp [positive.ne']
  cases mode <;> simp only [ContextRounding.away,Nat.mul_mod_mul_right,Nat.mul_div_mul_right _ _ positive,ne_eq,zero,
    ← Nat.mul_assoc,order,weak,equal]

theorem divide_scaled (positive : 0 < k) : mode.divide negative (n * k) (d * k) = mode.divide negative n d := by
  unfold ContextRounding.divide
  rw [away_scaled positive,Nat.mul_div_mul_right _ _ positive]

theorem divide_between (positive : 0 < d) : mode.divide negative n d * d ≤ n + (d - 1) ∧ n < (mode.divide negative n d + 1) * d := by
  have parts := Nat.div_add_mod n d
  have rest := Nat.mod_lt n positive
  rw [Nat.mul_comm] at parts
  unfold ContextRounding.divide
  split
  · rename_i away
    have more := away_rest away positive
    simp only [Nat.add_mul]
    omega
  · simp only [Nat.add_mul]
    omega

theorem divide_mono {m : Nat} (positive : 0 < d) (order : n ≤ m) : mode.divide negative n d ≤ mode.divide negative m d := by
  have parts := Nat.div_add_mod n d
  have parts' := Nat.div_add_mod m d
  have quotients : n / d ≤ m / d := Nat.div_le_div_right order
  unfold ContextRounding.divide
  rcases quotients.lt_or_eq with less | same
  · split <;> split <;> omega
  -- With one quotient the greater remainder is rounded away when the smaller one is.
  · have rests : n % d ≤ m % d := by
      rw [same] at parts
      omega
    have away : mode.away negative n d = true → mode.away negative m d = true := by
      cases mode with
      | down => exact id
      | ceiling | floor =>
        simp only [ContextRounding.away,Bool.and_eq_true,decide_eq_true_eq]
        exact And.imp_left (by omega)
      | _ =>
        simp only [ContextRounding.away,same,decide_eq_true_eq]
        omega
    rw [same]
    split
    · rename_i up
      rw [if_pos (away up)]
    · split <;> omega

theorem divide_upper {bound : Nat} (less : n < bound * d) : mode.divide negative n d ≤ bound := by
  have quotient : n / d < bound := Nat.div_lt_of_lt_mul (by rwa [Nat.mul_comm])
  unfold ContextRounding.divide
  split <;> omega

theorem divide_half (positive : 0 < d) : 2 * (ContextRounding.halfEven.divide negative n d * d) ≤ 2 * n + d ∧
    2 * n ≤ 2 * (ContextRounding.halfEven.divide negative n d * d) + d := by
  have parts := Nat.div_add_mod n d
  have rest := Nat.mod_lt n positive
  rw [Nat.mul_comm] at parts
  unfold ContextRounding.divide
  split
  · rename_i away
    simp only [ContextRounding.away,decide_eq_true_eq] at away
    rw [Nat.add_mul]
    omega
  · rename_i kept
    simp only [ContextRounding.away,decide_eq_true_eq,not_or,not_lt,not_and] at kept
    omega

end Quotients

theorem half_even_divide (negative : Bool) (n d : Nat) : ContextRounding.halfEven.divide negative n d = divHalfEven n d := by
  simp [ContextRounding.divide,ContextRounding.away,divHalfEven]

theorem default_fix (d : Decimal) : DecimalContext.default.fix d = fix d := by
  simp only [DecimalContext.fix,fix,DecimalContext.roundTo,roundTo,DecimalContext.default,half_even_divide]
  rfl

end SwapMonitor
