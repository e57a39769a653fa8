import SwapMonitor.Sizing.Amounts

namespace SwapMonitor.Sizing
open Arithmetic Exceptions

-- No multiple of the quantum is nearer to the amount than this one.
def Nearest (quantum amount rounded : ℚ) : Prop := ∀ other, OnGrid quantum other → |amount - rounded| ≤ |amount - other|

-- Another multiple that is as near.
def Tied (quantum amount rounded other : ℚ) : Prop :=
  OnGrid quantum other ∧ other ≠ rounded ∧ |amount - other| = |amount - rounded|

-- What the documentation of the decimal module says of a rounding mode.
def RoundingMode.Describes (mode : RoundingMode) (quantum amount rounded : ℚ) : Prop :=
  match mode with
  | .down => 0 ≤ amount * rounded ∧ |rounded| ≤ |amount| ∧ |amount| < |rounded| + quantum
  | .halfUp => Nearest quantum amount rounded ∧ ∀ other, Tied quantum amount rounded other → |other| < |rounded|
  | .halfEven => Nearest quantum amount rounded ∧ ∀ other, Tied quantum amount rounded other → OnGrid (2 * quantum) rounded

section Grid
variable {quantum amount rounded other : ℚ}

theorem grid_apart (positive : 0 < quantum) (left : OnGrid quantum rounded) (right : OnGrid quantum other)
    (different : other ≠ rounded) : quantum ≤ |other - rounded| := by
  obtain ⟨n,rfl⟩ := left
  obtain ⟨m,rfl⟩ := right
  have counts : m - n ≠ 0 := by
    intro same
    apply different
    rw [sub_eq_zero.mp same]
  have least : (1 : ℚ) ≤ |((m - n : Int) : ℚ)| := by exact_mod_cast Int.one_le_abs counts
  calc quantum ≤ |((m - n : Int) : ℚ)| * quantum := le_mul_of_one_le_left positive.le least
    _ = |((m - n : Int) : ℚ) * quantum| := by rw [abs_mul,abs_of_pos positive]
    _ = |(m : ℚ) * quantum - n * quantum| := by rw [Int.cast_sub,sub_mul]

theorem half_nearest (positive : 0 < quantum) (grid : OnGrid quantum rounded) (half : 2 * |amount - rounded| ≤ quantum) :
    Nearest quantum amount rounded := by
  intro other on
  by_cases same : other = rounded
  · rw [same]
  · have apart := grid_apart positive grid on same
    have between : |other - rounded| ≤ |other - amount| + |amount - rounded| := abs_sub_le ..
    rw [abs_sub_comm other amount] at between
    linarith

-- Two multiples as near as each other lie half a quantum to either side.
theorem tied_half (positive : 0 < quantum) (grid : OnGrid quantum rounded) (half : 2 * |amount - rounded| ≤ quantum)
    (tied : Tied quantum amount rounded other) : 2 * |amount - rounded| = quantum ∧ other + rounded = 2 * amount := by
  obtain ⟨on,different,near⟩ := tied
  have apart := grid_apart positive grid on different
  have between : |other - rounded| ≤ |other - amount| + |amount - rounded| := abs_sub_le ..
  rw [abs_sub_comm other amount] at between
  refine ⟨by linarith,?_⟩
  rcases abs_eq_abs.mp near with same | mirrored
  · exact absurd (by linarith) different
  · linarith

end Grid

section Counts
variable {x : ℚ}

theorem down_described : 0 ≤ x * RoundingMode.down.nearest x ∧ |(RoundingMode.down.nearest x : ℚ)| ≤ |x| ∧
    |x| < |(RoundingMode.down.nearest x : ℚ)| + 1 := by
  have below := Int.floor_le x
  have above := Int.lt_floor_add_one x
  unfold RoundingMode.nearest
  rw [if_pos rfl]
  rcases le_or_gt 0 x with nonneg | negative
  · have floor : (0 : ℚ) ≤ ⌊x⌋ := by exact_mod_cast Int.floor_nonneg.mpr nonneg
    rw [if_pos (.inl nonneg),abs_of_nonneg nonneg,abs_of_nonneg floor]
    exact ⟨mul_nonneg nonneg floor,below,above⟩
  · have floor : (⌊x⌋ : ℚ) + 1 ≤ 0 := by exact_mod_cast Int.floor_lt.mpr (by exact_mod_cast negative)
    split
    · rename_i whole
      have exact : (⌊x⌋ : ℚ) = x := (whole.resolve_left (not_le.mpr negative)).symm
      rw [exact]
      exact ⟨mul_self_nonneg x,le_refl _,lt_add_one _⟩
    · rename_i neither
      have inside : (⌊x⌋ : ℚ) < x := lt_of_le_of_ne below fun whole => neither (.inr whole.symm)
      push_cast
      rw [abs_of_neg negative,abs_of_nonpos floor]
      exact ⟨mul_nonneg_of_nonpos_of_nonpos negative.le floor,by linarith,by linarith⟩

theorem nearest_half {mode : RoundingMode} (nearest : mode ≠ .down) : 2 * |x - mode.nearest x| ≤ 1 := by
  have below := Int.floor_le x
  have above := Int.lt_floor_add_one x
  have down : 2 * (x - ⌊x⌋) ≤ 1 → 2 * |x - ⌊x⌋| ≤ 1 := by
    intro low
    rw [abs_of_nonneg (by linarith)]
    exact low
  have up : 1 ≤ 2 * (x - ⌊x⌋) → 2 * |x - ((⌊x⌋ + 1 : Int) : ℚ)| ≤ 1 := by
    intro high
    push_cast
    rw [abs_of_nonpos (by linarith)]
    linarith
  unfold RoundingMode.nearest
  rw [if_neg nearest]
  split
  · rename_i low
    exact down low.le
  · rename_i low
    split
    · rename_i high
      exact up high.le
    · rename_i high
      have middle : 2 * (x - ⌊x⌋) = 1 := le_antisymm (not_lt.mp high) (not_lt.mp low)
      repeat' split
      all_goals first | exact down middle.le | exact up middle.ge

-- Half a whole number away from the choice is half of one above the whole number below.
theorem nearest_middle {mode : RoundingMode} (nearest : mode ≠ .down) (half : 2 * |x - mode.nearest x| = 1) :
    2 * (x - ⌊x⌋) = 1 := by
  have below := Int.floor_le x
  have above := Int.lt_floor_add_one x
  unfold RoundingMode.nearest at half
  rw [if_neg nearest] at half
  split at half
  · rw [abs_of_nonneg (by linarith)] at half
    exact half
  · rename_i low
    split at half
    · push_cast at half
      rw [abs_of_nonpos (by linarith)] at half
      linarith
    · rename_i high
      exact le_antisymm (not_lt.mp high) (not_lt.mp low)

theorem half_up_away (half : 2 * |x - RoundingMode.halfUp.nearest x| = 1) :
    0 < x ∧ (RoundingMode.halfUp.nearest x : ℚ) = x + 1 / 2 ∨ x < 0 ∧ (RoundingMode.halfUp.nearest x : ℚ) = x - 1 / 2 := by
  have middle := nearest_middle (by decide) half
  unfold RoundingMode.nearest
  rw [if_neg (by decide),if_neg (by linarith),if_neg (by linarith),if_pos rfl]
  split
  · rename_i nonneg
    have floor : (0 : ℚ) ≤ ⌊x⌋ := by exact_mod_cast Int.floor_nonneg.mpr nonneg
    refine .inl ⟨by linarith,?_⟩
    push_cast
    linarith
  · rename_i negative
    exact .inr ⟨not_le.mp negative,by linarith⟩

theorem half_even_even (half : 2 * |x - RoundingMode.halfEven.nearest x| = 1) :
    RoundingMode.halfEven.nearest x % 2 = 0 := by
  have middle := nearest_middle (by decide) half
  unfold RoundingMode.nearest
  rw [if_neg (by decide),if_neg (by linarith),if_neg (by linarith),if_neg (by decide)]
  split <;> omega

end Counts

-- The rounding the code computes is the one its mode is documented to be.
theorem rounding_described (mode : RoundingMode) {quantum : ℚ} (amount : ℚ) (positive : 0 < quantum) :
    mode.Describes quantum amount (mode.rounding.onto quantum amount) := by
  obtain ⟨x,rfl⟩ : ∃ x, x * quantum = amount := ⟨amount / quantum,div_mul_cancel₀ _ positive.ne'⟩
  have made : mode.rounding.onto quantum (x * quantum) = mode.nearest x * quantum := by
    rw [Rounding.onto,mul_div_cancel_right₀ _ positive.ne']
    rfl
  have size : ∀ y : ℚ, |y * quantum| = |y| * quantum := fun y => by rw [abs_mul,abs_of_pos positive]
  have grid : OnGrid quantum (mode.nearest x * quantum) := ⟨_,rfl⟩
  have away : |x * quantum - mode.nearest x * quantum| = |x - mode.nearest x| * quantum := by rw [← sub_mul,size]
  rw [made]
  by_cases down : mode = .down
  · subst down
    obtain ⟨signs,within,left⟩ := @down_described x
    refine ⟨?_,?_,?_⟩
    · calc 0 ≤ x * RoundingMode.down.nearest x * (quantum * quantum) := mul_nonneg signs (mul_self_nonneg quantum)
        _ = _ := by ring
    · rw [size,size]
      exact mul_le_mul_of_nonneg_right within positive.le
    · rw [size,size]
      calc |x| * quantum < (|(RoundingMode.down.nearest x : ℚ)| + 1) * quantum := mul_lt_mul_of_pos_right left positive
        _ = _ := by ring
  · have half : 2 * |x * quantum - mode.nearest x * quantum| ≤ quantum := by
      rw [away,← mul_assoc]
      exact mul_le_of_le_one_left positive.le (nearest_half down)
    have unit : ∀ other, Tied quantum (x * quantum) (mode.nearest x * quantum) other →
        2 * |x - mode.nearest x| = 1 ∧ other + mode.nearest x * quantum = 2 * (x * quantum) := by
      intro other tied
      obtain ⟨exact,mirrored⟩ := tied_half positive grid half tied
      rw [away,← mul_assoc] at exact
      exact ⟨mul_right_cancel₀ positive.ne' (by rw [exact,one_mul]),mirrored⟩
    cases mode with
    | down => exact absurd rfl down
    | halfUp =>
      refine ⟨half_nearest positive grid half,?_⟩
      intro other tied
      obtain ⟨exact,mirrored⟩ := unit other tied
      rcases half_up_away exact with ⟨above,choice⟩ | ⟨below,choice⟩
      · have opposite : other = (x - 1 / 2) * quantum := by
          rw [choice] at mirrored
          linarith
        rw [opposite,choice,size,size]
        apply mul_lt_mul_of_pos_right _ positive
        rw [abs_of_pos (by linarith : 0 < x + 1 / 2)]
        exact abs_lt.mpr ⟨by linarith,by linarith⟩
      · have opposite : other = (x + 1 / 2) * quantum := by
          rw [choice] at mirrored
          linarith
        rw [opposite,choice,size,size]
        apply mul_lt_mul_of_pos_right _ positive
        rw [abs_of_neg (by linarith : x - 1 / 2 < 0)]
        exact abs_lt.mpr ⟨by linarith,by linarith⟩
    | halfEven =>
      refine ⟨half_nearest positive grid half,?_⟩
      intro other tied
      obtain ⟨exact,_⟩ := unit other tied
      obtain ⟨n,even⟩ := Int.dvd_of_emod_eq_zero (half_even_even exact)
      refine ⟨n,?_⟩
      rw [even]
      push_cast
      ring

theorem lowest_floor (policy : DecimalRoundingPolicy) (amount : ℚ) :
    policy.lowest amount ≤ amount ∧ amount < policy.lowest amount + policy.quantum := by
  have positive := quantum_pos policy
  have lower : (⌊amount / policy.quantum⌋ : ℚ) * policy.quantum ≤ amount :=
    (le_div_iff₀ positive).mp (Int.floor_le _)
  have upper : amount < ((⌊amount / policy.quantum⌋ : ℚ) + 1) * policy.quantum :=
    (div_lt_iff₀ positive).mp (Int.lt_floor_add_one _)
  rw [add_mul,one_mul] at upper
  exact ⟨lower,upper⟩

theorem floor_divide_returned {numerator denominator : Decimal} {quotient : Int}
    (returned : floorDivideDecimals numerator denominator = .ok quotient) : 0 < denominator.toRat := by
  simp only [floorDivideDecimals,decimalCoefficientAndExponent,bind_ok,pure_ok,raiseIf_ok] at returned
  obtain ⟨_,_,_,⟨_,_,rfl⟩,_,positive,_⟩ := returned
  exact (toRat_pos denominator).mpr (not_le.mp (of_decide_eq_false positive))

-- No operation of the sizing arithmetic looks at a context: what it returns depends on its arguments alone.
theorem arithmetic_exact (left right value result : Decimal) (quotient : Int) (policy : DecimalRoundingPolicy) :
    (addDecimals left right = .ok result → result.toRat = left.toRat + right.toRat) ∧
    (subtractDecimals left right = .ok result → result.toRat = left.toRat - right.toRat) ∧
    (multiplyDecimals left right = .ok result → result.toRat = left.toRat * right.toRat) ∧
    (floorDivideDecimals left right = .ok quotient → 0 < right.toRat ∧ quotient = ⌊left.toRat / right.toRat⌋) ∧
    (policy.money value = .ok result → 0 < policy.quantum ∧ OnGrid policy.quantum result.toRat ∧
      policy.moneyRounding.Describes policy.quantum value.toRat result.toRat) ∧
    (policy.moneyNotIncreasing value = .ok result → OnGrid policy.quantum result.toRat ∧
      result.toRat ≤ value.toRat ∧ value.toRat < result.toRat + policy.quantum) := by
  refine ⟨finishes_returned add_finishes,finishes_returned subtract_finishes,finishes_returned multiply_finishes,?_,?_,?_⟩
  · intro returned
    have positive := floor_divide_returned returned
    have counted := finishes_returned (floor_divide_finishes positive) returned
    exact ⟨positive,counted⟩
  · intro returned
    rw [finishes_returned money_finishes returned]
    exact ⟨quantum_pos policy,onto_grid,rounding_described policy.moneyRounding value.toRat (quantum_pos policy)⟩
  · intro returned
    rw [finishes_returned credit_finishes returned]
    exact ⟨onto_grid,lowest_floor policy value.toRat⟩

def evenCents : DecimalRoundingPolicy := ⟨⟨⟨false,1,-2⟩,.halfEven,.down⟩,by decide +kernel⟩

-- Minus twelve and a half cents are minus twelve, and minus thirteen where money must not increase.
theorem arithmetic_sample :
    RoundingMode.halfEven.Describes evenCents.quantum (⟨true,125,-3⟩ : Decimal).toRat (⟨true,12,-2⟩ : Decimal).toRat ∧
    (⟨true,125,-3⟩ : Decimal).toRat < (⟨true,13,-2⟩ : Decimal).toRat + evenCents.quantum := by
  obtain ⟨_,_,_,_,rounded,_⟩ := arithmetic_exact (.ofNat 0) (.ofNat 0) ⟨true,125,-3⟩ ⟨true,12,-2⟩ 0 evenCents
  obtain ⟨_,_,_,_,_,floored⟩ := arithmetic_exact (.ofNat 0) (.ofNat 0) ⟨true,125,-3⟩ ⟨true,13,-2⟩ 0 evenCents
  exact ⟨(rounded (by decide +kernel)).2.2,(floored (by decide +kernel)).2.2⟩

end SwapMonitor.Sizing
