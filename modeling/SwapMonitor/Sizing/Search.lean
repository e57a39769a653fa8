import SwapMonitor.Sizing.Shrinking

namespace SwapMonitor.Sizing
open Arithmetic Exceptions

section Bisection
variable {affordable : Int → Except PyError Bool} {payable : Int → Prop} [DecidablePred payable] {lower upper : Int}

theorem midpoint_halves :
    2 * (upper - (lower + upper + 1).fdiv 2) ≤ upper - lower ∧ 2 * ((lower + upper + 1).fdiv 2 - 1 - lower) ≤ upper - lower := by
  rw [Int.fdiv_eq_ediv_of_nonneg _ (by decide)]
  omega

-- What the bisection ends at: the largest payable count up to the upper bound, unless the steps ran out.
def Bisected (payable : Int → Prop) (steps : Nat) (lower upper : Int) : Option Int → Prop
  | none => 2 ^ steps ≤ upper - lower
  | some found => lower ≤ found ∧ found ≤ upper ∧ (found = lower ∨ payable found) ∧
    ∀ count, found < count → count ≤ upper → ¬payable count

theorem bisection_finishes {steps : Nat} (order : lower ≤ upper)
    (fewer : ∀ less more, lower ≤ less → less ≤ more → payable more → payable less)
    (each : ∀ count, lower ≤ count → Finishes (affordable count) (fun enough => enough = decide (payable count)) ResourceLimit) :
    Finishes (searchIncrements affordable steps lower upper) (Bisected payable steps lower upper) ResourceLimit := by
  induction steps generalizing lower upper with
  | zero =>
    apply finishes_pure.mpr
    split
    · rename_i apart
      change 2 ^ 0 ≤ upper - lower
      omega
    · exact ⟨le_refl _,order,.inl rfl,fun count above within => absurd within (by omega)⟩
  | succ steps ih =>
    unfold searchIncrements
    split
    · rename_i apart
      obtain ⟨above,within⟩ := midpoint_within apart
      obtain ⟨upperHalf,lowerHalf⟩ := @midpoint_halves lower upper
      generalize (lower + upper + 1).fdiv 2 = midpoint at *
      apply finishes_bind (each midpoint above.le)
      intro enough told
      split
      · rename_i enough
        subst told
        have paid := of_decide_eq_true enough
        apply finishes_imp (ih within (fun less more least => fewer less more (above.le.trans least))
          fun count least => each count (above.le.trans least))
        intro found settled
        cases found with
        | none =>
          change 2 ^ steps ≤ upper - midpoint at settled
          change 2 ^ (steps + 1) ≤ upper - lower
          rw [pow_succ]
          omega
        | some found =>
          obtain ⟨least,most,reached,none_above⟩ := settled
          refine ⟨above.le.trans least,most,.inr ?_,none_above⟩
          rcases reached with rfl | payable
          · exact paid
          · exact payable
      · rename_i short
        subst told
        have unpaid : ¬payable midpoint := fun paid => short (decide_eq_true paid)
        apply finishes_imp (ih (by omega) fewer each)
        intro found settled
        cases found with
        | none =>
          change 2 ^ steps ≤ midpoint - 1 - lower at settled
          change 2 ^ (steps + 1) ≤ upper - lower
          rw [pow_succ]
          omega
        | some found =>
          obtain ⟨least,most,reached,none_above⟩ := settled
          refine ⟨least,by omega,reached,?_⟩
          intro count higher bounded
          by_cases below : count ≤ midpoint - 1
          · exact none_above count higher below
          · exact fun paid => unpaid (fewer midpoint count above.le (by omega) paid)
    · exact finishes_pure.mpr ⟨le_refl _,order,.inl rfl,fun count higher bounded => absurd bounded (by omega)⟩

-- A bisection whose questions are all answered ends between its bounds.
theorem bisection_answered {steps : Nat} (order : lower ≤ upper)
    (answered : ∀ count, lower ≤ count → count ≤ upper → ∃ enough, affordable count = .ok enough) :
    ∃ found, searchIncrements affordable steps lower upper = .ok found ∧
      ∀ count, found = some count → lower ≤ count ∧ count ≤ upper := by
  induction steps generalizing lower upper with
  | zero =>
    refine ⟨_,rfl,?_⟩
    intro count same
    split at same
    · cases same
    · cases same
      exact ⟨le_refl _,order⟩
  | succ steps ih =>
    unfold searchIncrements
    split
    · rename_i apart
      obtain ⟨above,within⟩ := midpoint_within apart
      obtain ⟨enough,told⟩ := answered _ above.le within
      dsimp only
      generalize (lower + upper + 1).fdiv 2 = midpoint at *
      rw [told]
      cases enough with
      | true =>
        obtain ⟨found,searched,between⟩ := ih within fun count least most => answered count (above.le.trans least) most
        refine ⟨found,searched,fun count same => ?_⟩
        obtain ⟨least,most⟩ := between count same
        exact ⟨above.le.trans least,most⟩
      | false =>
        obtain ⟨found,searched,between⟩ := @ih lower (midpoint - 1) (by omega) fun count least most => answered count least (by omega)
        refine ⟨found,searched,fun count same => ?_⟩
        obtain ⟨least,most⟩ := between count same
        exact ⟨least,by omega⟩
    · refine ⟨_,rfl,?_⟩
      intro count same
      cases same
      exact ⟨le_refl _,order⟩

end Bisection

section Quotients
variable {numerator denominator : Decimal} {quotient : Int}

theorem fdiv_small {a b : Int} {bound : Nat} (positive : 0 < b) (small : a.natAbs < bound) : a.fdiv b < bound := by
  rw [Int.fdiv_eq_ediv_of_nonneg _ positive.le]
  rcases le_or_gt 0 a with nonneg | negative
  · calc a / b ≤ a := Int.ediv_le_self b nonneg
      _ < bound := by omega
  · have : a / b < 0 := Int.ediv_neg_of_neg_of_pos negative positive
    omega

theorem digits_bound {n : Nat} (kept : digitCount n ≤ MAX_ROUNDING_DECIMAL_DIGITS) : n < 10 ^ MAX_ROUNDING_DECIMAL_DIGITS :=
  (digits_le (by decide)).mp kept

theorem rounding_decimal_exact {value : Decimal} {fieldName : String} {u : Unit} :
    validateRoundingDecimal value fieldName = .ok u ↔ digitCount value.coefficient ≤ MAX_ROUNDING_DECIMAL_DIGITS ∧
      value.exponent.natAbs ≤ MAX_ROUNDING_DECIMAL_EXPONENT := by
  simp [validateRoundingDecimal,limitIf,bind_ok,raiseIf_ok]

theorem scaled_bound {coefficient : Int} {scale : Nat} {fieldName : String} {u : Unit}
    (passed : validateScaledCoefficient coefficient scale fieldName = .ok u) :
    (coefficient * 10 ^ scale).natAbs < 10 ^ MAX_ROUNDING_DECIMAL_DIGITS := by
  simp only [validateScaledCoefficient,limitIf,bind_ok,raiseIf_ok,decide_eq_false_iff_not,not_lt] at passed
  obtain ⟨_,_,digits⟩ := passed
  have shifted : digitCount coefficient.natAbs ≤ MAX_ROUNDING_DECIMAL_DIGITS - scale := by omega
  rw [Int.natAbs_mul,Int.natAbs_pow]
  calc coefficient.natAbs * 10 ^ scale < 10 ^ digitCount coefficient.natAbs * 10 ^ scale :=
        Nat.mul_lt_mul_of_pos_right (lt_digits _) (by positivity)
    _ = 10 ^ (digitCount coefficient.natAbs + scale) := (pow_add ..).symm
    _ ≤ 10 ^ MAX_ROUNDING_DECIMAL_DIGITS := Nat.pow_le_pow_right (by decide) digits

-- The digit limits bound a quotient.
theorem quotient_bounded (returned : floorDivideDecimals numerator denominator = .ok quotient) :
    quotient < 10 ^ MAX_ROUNDING_DECIMAL_DIGITS := by
  have positive := floor_divide_returned returned
  rw [toRat_pos] at positive
  simp only [floorDivideDecimals,decimalCoefficientAndExponent,scaledRatio,bind_ok,pure_ok,rounding_decimal_exact] at returned
  obtain ⟨_,⟨_,⟨digits,_⟩,rfl⟩,_,⟨_,_,rfl⟩,_,_,_,⟨_,_,scaled⟩,rfl⟩ := returned
  split at scaled
  · simp only [bind_ok,pure_ok] at scaled
    obtain ⟨_,passed,rfl⟩ := scaled
    exact_mod_cast fdiv_small positive (scaled_bound passed)
  · simp only [bind_ok,pure_ok] at scaled
    obtain ⟨_,_,rfl⟩ := scaled
    rw [← natAbs_signed] at digits
    exact_mod_cast fdiv_small (by positivity) (digits_bound digits)

end Quotients

section Configuration
variable {configuration : SizingConfiguration} {price funding : Decimal} {quantities : List Decimal} {index : Nat}

def decrementQuantity (configuration : SizingConfiguration) (quantity : Decimal) : Except PyError Decimal := do
  let nextQuantity ← subtractDecimals quantity (quantityIncrement configuration)
  pure (if nextQuantity.toRat < configuration.minimumQuantity.toRat then zeroQuantity else nextQuantity)

-- One increment less at a time, until the quantity of the stage is affordable or nothing: none when the steps run out.
def decrementUntilAffordable (configuration : SizingConfiguration) (price funding : Decimal) (quantities : List Decimal)
    (index : Nat) : Nat → Decimal → Except PyError (Option Decimal)
  | 0,_ => pure none
  | steps + 1,quantity =>
    if quantity.toRat = 0 then pure (some quantity)
    else do
      let total ← totalCash configuration price (quantities.set index quantity)
      if total.toRat ≤ funding.toRat then pure (some quantity)
      else do
        let nextQuantity ← decrementQuantity configuration quantity
        decrementUntilAffordable configuration price funding quantities index steps nextQuantity

-- A whole number of increments.
def Counts (configuration : SizingConfiguration) (count : Int) (quantity : Decimal) : Prop :=
  0 ≤ count ∧ quantity.toRat = count * (quantityIncrement configuration).toRat

-- What the cash has to cover with this quantity in place of the one of the stage.
def requiredWith (configuration : SizingConfiguration) (price : ℚ) (quantities : List Decimal) (index : Nat)
    (quantity : Decimal) : ℚ := required configuration price (quantities.set index quantity)

-- The largest affordable multiple of the increment that is no more than the quantity of the stage, or nothing.
structure Largest (configuration : SizingConfiguration) (price funding : ℚ) (quantities : List Decimal) (index : Nat)
    (found : Decimal) : Prop where
  counted : ∃ count, Counts configuration count found
  within : found.toRat ≤ (quantities.getD index zeroQuantity).toRat
  affordable : found.toRat = 0 ∨ requiredWith configuration price quantities index found ≤ funding
  largest : ∀ count other, Counts configuration count other → found.toRat < other.toRat →
    other.toRat ≤ (quantities.getD index zeroQuantity).toRat → funding < requiredWith configuration price quantities index other

theorem counts_nonneg {count : Int} {quantity : Decimal} (counted : Counts configuration count quantity) :
    0 ≤ quantity.toRat := by
  rw [counted.2]
  exact mul_nonneg (by exact_mod_cast counted.1) increment_pos.le

theorem counts_left {count : Int} {quantity : Decimal} (counted : Counts configuration count quantity)
    (left : ¬quantity.toRat = 0) : 0 ≤ count - 1 := by
  have least := counted.1
  by_contra none_left
  have zero : count = 0 := by omega
  apply left
  rw [counted.2,zero,Int.cast_zero,zero_mul]

theorem counts_order {less more : Int} {small large : Decimal} (few : Counts configuration less small)
    (many : Counts configuration more large) : small.toRat ≤ large.toRat ↔ less ≤ more := by
  rw [few.2,many.2,mul_le_mul_iff_left₀ increment_pos]
  exact Int.cast_le

theorem required_set (listed : index < quantities.length) (price : ℚ) (quantity : Decimal) :
    requiredWith configuration price quantities index quantity =
      requiredWith configuration price quantities index zeroQuantity + spent configuration price quantity.toRat := by
  have sums : ∀ amounts : List Decimal, ∀ k < amounts.length,
      ((amounts.set k quantity).map fun q => spent configuration price q.toRat).sum =
      ((amounts.set k zeroQuantity).map fun q => spent configuration price q.toRat).sum + spent configuration price quantity.toRat := by
    intro amounts
    induction amounts with
    | nil => intro k short; cases short
    | cons first rest ih =>
      intro k short
      cases k with
      | zero =>
        simp only [List.set_cons_zero,List.map_cons,List.sum_cons,zero_quantity,spent_zero]
        ring
      | succ k =>
        simp only [List.set_cons_succ,List.map_cons,List.sum_cons,ih k (Nat.lt_of_succ_lt_succ short)]
        ring
  rw [requiredWith,requiredWith,required,required,sums quantities index listed]
  ring

theorem required_step (listed : index < quantities.length) (positive : 0 < price.toRat) {small large : Decimal}
    (order : small.toRat ≤ large.toRat) : requiredWith configuration price.toRat quantities index small ≤
      requiredWith configuration price.toRat quantities index large := by
  rw [required_set listed _ small,required_set listed _ large]
  exact add_le_add_right (spent_mono configuration positive order) _

theorem costed_purchases {amount total : Decimal} (costed : addPurchases configuration price quantities amount = .ok total) :
    ∀ quantity ∈ quantities, 0 ≤ quantity.toRat ∧ 0 < price.toRat := by
  induction quantities generalizing amount with
  | nil => intro quantity member; cases member
  | cons first rest ih =>
    simp only [addPurchases,bind_ok] at costed
    obtain ⟨cost,bought,_,_,following⟩ := costed
    intro quantity member
    rcases List.mem_cons.mp member with rfl | later
    · simp only [purchaseCost,calculatePurchaseCost,bind_ok] at bought
      obtain ⟨_,nonneg,_,positive,_⟩ := bought
      exact ⟨not_lt.mp (of_decide_eq_false ((raiseIf_ok _ _ _ _).mp nonneg)),positive_returned positive⟩
    · exact ih following quantity later

section Stage
variable {total : Decimal} {count : Int} (listed : index < quantities.length)
  (costed : totalCash configuration price quantities = .ok total)

theorem set_nonneg {quantity : Decimal} (nonneg : ∀ other ∈ quantities, 0 ≤ other.toRat) (counted : 0 ≤ quantity.toRat) :
    ∀ other ∈ quantities.set index quantity, 0 ≤ other.toRat := by
  intro other member
  rcases List.mem_or_eq_of_mem_set member with old | rfl
  · exact nonneg other old
  · exact counted

include listed costed in
theorem costed_stage : 0 < price.toRat ∧ (∀ quantity ∈ quantities, 0 ≤ quantity.toRat) := by
  have each := costed_purchases costed
  exact ⟨(each _ (List.getElem_mem listed)).2,fun quantity member => (each quantity member).1⟩

include listed costed in
-- The candidate of a midpoint costs what the increments of it cost.
theorem affordable_told {tried : Int} (counted : 0 ≤ tried) : Finishes (affordableIncrements configuration price quantities funding index tried)
    (fun enough => enough = decide (requiredWith configuration price.toRat quantities index zeroQuantity +
      spent configuration price.toRat (tried * (quantityIncrement configuration).toRat) ≤ funding.toRat)) ResourceLimit := by
  obtain ⟨positive,nonneg⟩ := costed_stage listed costed
  unfold affordableIncrements
  apply finishes_bind multiply_finishes
  intro candidate multiplied
  rw [ofSigned_value] at multiplied
  have candidateNonneg : 0 ≤ candidate.toRat := counts_nonneg ⟨counted,multiplied⟩
  apply finishes_bind (total_finishes (set_nonneg nonneg candidateNonneg) positive)
  intro total summed
  apply finishes_pure.mpr
  rw [summed]
  change decide (requiredWith configuration price.toRat quantities index candidate ≤ _) = _
  rw [required_set listed,multiplied]

include listed costed in
theorem search_largest (counted : Counts configuration count (quantities.getD index zeroQuantity)) :
    Finishes (maxAffordableStageQuantity configuration price quantities funding index) (fun adjusted =>
      ∃ found, adjusted = some found ∧ Largest configuration price.toRat funding.toRat quantities index found) ResourceLimit := by
  obtain ⟨positive,nonneg⟩ := costed_stage listed costed
  obtain ⟨least,value⟩ := counted
  unfold maxAffordableStageQuantity
  apply finishes_bind (finishes_noted (floor_divide_finishes increment_pos))
  intro upper ⟨divided,floored⟩
  rw [value,mul_div_cancel_right₀ _ increment_pos.ne',Int.floor_intCast] at floored
  subst floored
  apply finishes_bind (bisection_finishes least _ fun tried counted => affordable_told listed costed counted)
  · intro found settled
    cases found with
    | none =>
      -- the range of a quotient is halved to nothing before the steps run out
      have bounded := quotient_bounded divided
      have room : (10 : Int) ^ MAX_ROUNDING_DECIMAL_DIGITS ≤ 2 ^ MAX_SIZING_ADJUSTMENT_SEARCH_STEPS := by decide +kernel
      change 2 ^ MAX_SIZING_ADJUSTMENT_SEARCH_STEPS ≤ upper - 0 at settled
      omega
    | some found =>
      obtain ⟨few,many,reached,unpaid⟩ := settled
      apply finishes_bind multiply_finishes
      intro quantity multiplied
      rw [ofSigned_value] at multiplied
      apply finishes_pure.mpr
      have few' : Counts configuration found quantity := ⟨few,multiplied⟩
      refine ⟨quantity,rfl,⟨found,few'⟩,(counts_order few' ⟨least,value⟩).mpr many,?_,?_⟩
      · rcases reached with rfl | paid
        · left
          rw [multiplied,Int.cast_zero,zero_mul]
        · right
          rw [required_set listed,multiplied]
          exact paid
      · intro more other counted above below
        rw [required_set listed,counted.2]
        apply not_le.mp
        apply unpaid more
        · exact not_le.mp fun order => not_le.mpr above ((counts_order counted few').mpr order)
        · exact (counts_order counted ⟨least,value⟩).mp below
  · intro less more _ order paid
    have fewer : (less : ℚ) * (quantityIncrement configuration).toRat ≤ more * (quantityIncrement configuration).toRat :=
      mul_le_mul_of_nonneg_right (by exact_mod_cast order) increment_pos.le
    exact (add_le_add_right (spent_mono configuration positive fewer) _).trans paid

omit listed costed in
theorem decrement_finishes {quantity : Decimal} (counted : Counts configuration (count + 1) quantity) (some : 0 ≤ count) :
    Finishes (decrementQuantity configuration quantity) (Counts configuration count) ResourceLimit := by
  have increment : 0 < (quantityIncrement configuration).toRat := increment_pos
  unfold decrementQuantity
  apply finishes_bind subtract_finishes
  intro next subtracted
  have value : next.toRat = count * (quantityIncrement configuration).toRat := by
    rw [subtracted,counted.2]
    push_cast
    ring
  apply finishes_pure.mpr
  split
  · rename_i short
    refine ⟨some,?_⟩
    have none_left : count = 0 := by
      by_contra left
      have one : (1 : ℚ) ≤ count := by exact_mod_cast (by omega : 1 ≤ count)
      have enough : (quantityIncrement configuration).toRat ≤ next.toRat := by
        rw [value]
        exact le_mul_of_one_le_left increment.le one
      exact not_le.mpr short (increment_minimum.trans enough)
    rw [none_left,zero_quantity,Int.cast_zero,zero_mul]
  · exact ⟨some,value⟩

include listed costed in
theorem decrements_largest {steps : Nat} {quantity : Decimal} (enough : count < steps)
    (counted : Counts configuration count quantity) (within : quantity.toRat ≤ (quantities.getD index zeroQuantity).toRat)
    (unpaid : ∀ more other, Counts configuration more other → quantity.toRat < other.toRat →
      other.toRat ≤ (quantities.getD index zeroQuantity).toRat →
      funding.toRat < requiredWith configuration price.toRat quantities index other) :
    Finishes (decrementUntilAffordable configuration price funding quantities index steps quantity) (fun outcome =>
      ∃ found, outcome = some found ∧ Largest configuration price.toRat funding.toRat quantities index found) ResourceLimit := by
  obtain ⟨positive,nonneg⟩ := costed_stage listed costed
  induction steps generalizing count quantity with
  | zero => exact absurd counted.1 (by omega)
  | succ steps ih =>
    unfold decrementUntilAffordable
    split
    · rename_i nothing
      exact finishes_pure.mpr ⟨quantity,rfl,⟨count,counted⟩,within,.inl nothing,unpaid⟩
    · rename_i left
      apply finishes_bind (total_finishes (set_nonneg nonneg (counts_nonneg counted)) positive)
      intro total summed
      split
      · rename_i paid
        rw [summed] at paid
        exact finishes_pure.mpr ⟨quantity,rfl,⟨count,counted⟩,within,.inr paid,unpaid⟩
      · rename_i short
        rw [summed] at short
        apply finishes_bind (decrement_finishes (by rwa [Int.sub_add_cancel]) (counts_left counted left))
        intro next following
        have fewer : next.toRat ≤ quantity.toRat := (counts_order following counted).mpr (by omega)
        apply ih (by omega) following (fewer.trans within)
        intro more other many above below
        have least : count - 1 < more := not_le.mp fun order => not_le.mpr above ((counts_order many following).mpr order)
        have atLeast : quantity.toRat ≤ other.toRat := (counts_order counted many).mpr (by omega)
        exact (not_le.mp short).trans_le (required_step listed positive atLeast)

-- A quantity the way the engine writes a number of increments.
def Written (configuration : SizingConfiguration) (count : Int) (quantity : Decimal) : Prop :=
  0 ≤ count ∧ multiplyDecimals (.ofSigned count 0) (quantityIncrement configuration) = .ok quantity

omit listed costed in
theorem written_counts {quantity : Decimal} (written : Written configuration count quantity) :
    Counts configuration count quantity := by
  have value := finishes_returned multiply_finishes written.2
  rw [ofSigned_value] at value
  exact ⟨written.1,value⟩

omit listed costed in
theorem increment_signed : 0 < (quantityIncrement configuration).signed := (toRat_pos _).mp increment_pos

omit listed costed in
theorem fewer_below {fewer : Int} (least : 0 ≤ fewer) (most : fewer ≤ count) :
    Below (.ofSigned fewer 0) (.ofSigned count 0) := ⟨by rwa [signed_of],by rwa [signed_of,signed_of],rfl⟩

-- Fewer increments are written wherever more are.
omit listed costed in
theorem written_fewer {quantity : Decimal} {fewer : Int} (written : Written configuration count quantity) (least : 0 ≤ fewer)
    (most : fewer ≤ count) : ∃ smaller, Written configuration fewer smaller ∧ Below smaller quantity := by
  obtain ⟨smaller,made,below⟩ :=
    multiply_less (fewer_below least most) (below_refl increment_signed.le) quantity written.2
  exact ⟨smaller,⟨least,made⟩,below⟩

omit listed costed in
theorem set_below {smaller : Decimal} (listed : index < quantities.length) (nonneg : ∀ quantity ∈ quantities, 0 ≤ quantity.toRat)
    (below : Below smaller (quantities.getD index zeroQuantity)) : List.Forall₂ Below (quantities.set index smaller) quantities := by
  have same : ∀ amounts : List Decimal, (∀ amount ∈ amounts, 0 ≤ amount.toRat) → List.Forall₂ Below amounts amounts :=
    fun amounts each => List.forall₂_same.mpr fun amount member => below_refl ((toRat_nonneg amount).mp (each amount member))
  induction quantities generalizing index with
  | nil => cases listed
  | cons first rest ih =>
    have later : ∀ quantity ∈ rest, 0 ≤ quantity.toRat := fun quantity member => nonneg quantity (List.mem_cons_of_mem _ member)
    cases index with
    | zero => exact .cons below (same rest later)
    | succ index =>
      refine .cons (below_refl ((toRat_nonneg first).mp (nonneg first (List.mem_cons_self ..)))) ?_
      exact ih (Nat.lt_of_succ_lt_succ listed) later below

include listed costed in
theorem total_fewer {smaller : Decimal} (below : Below smaller (quantities.getD index zeroQuantity)) :
    ∃ total, totalCash configuration price (quantities.set index smaller) = .ok total := by
  obtain ⟨_,nonneg⟩ := costed_stage listed costed
  obtain ⟨total,computed,_⟩ := total_less (set_below listed nonneg below) total costed
  exact ⟨total,computed⟩

-- What writing a number of increments established.
structure Fits (increment quantity : Decimal) (count : Int) : Prop where
  signed : quantity.signed = count * increment.signed
  exponent : quantity.exponent = increment.exponent
  digits : digitCount quantity.coefficient ≤ MAX_ROUNDING_DECIMAL_DIGITS
  incrementDigits : digitCount increment.coefficient ≤ MAX_ROUNDING_DECIMAL_DIGITS
  scale : increment.exponent.natAbs ≤ MAX_ROUNDING_DECIMAL_EXPONENT

omit listed costed in
theorem written_fits {quantity : Decimal} (written : Written configuration count quantity) :
    Fits (quantityIncrement configuration) quantity count := by
  obtain ⟨_,made⟩ := written
  simp only [multiplyDecimals,decimalCoefficientAndExponent,decimalFromCoefficient,limitIf,bind_ok,pure_ok,raiseIf_ok,
    rounding_decimal_exact,decide_eq_false_iff_not,not_lt] at made
  obtain ⟨_,⟨_,_,rfl⟩,_,⟨_,⟨digits,scale⟩,rfl⟩,_,_,_,_,_,_,_,short,rfl⟩ := made
  refine ⟨by rw [signed_of,signed_of],by rw [exponent_of,exponent_of,zero_add],?_,digits,scale⟩
  exact short

omit listed costed in
theorem written_divided {quantity : Decimal} (written : Written configuration count quantity) :
    floorDivideDecimals quantity (quantityIncrement configuration) = .ok count := by
  have fits := written_fits written
  have increment : 0 < (quantityIncrement configuration).signed := increment_signed
  have scaled : scaledRatio quantity.signed quantity.exponent (quantityIncrement configuration).signed
      (quantityIncrement configuration).exponent "numerator" "denominator" =
      .ok (quantity.signed * 10 ^ 0,(quantityIncrement configuration).signed) := by
    simp only [scaledRatio,fits.exponent,sub_self,validateScaledCoefficient,limitIf,bind_ok,pure_ok,raiseIf_ok,
      decide_eq_false_iff_not,not_lt,le_refl,if_true,natAbs_signed]
    exact ⟨(),by decide,(),⟨(),by decide,fits.digits⟩,rfl⟩
  have answered : ∃ quotient, floorDivideDecimals quantity (quantityIncrement configuration) = .ok quotient := by
    simp only [floorDivideDecimals,decimalCoefficientAndExponent,bind_ok,pure_ok,raiseIf_ok,rounding_decimal_exact,
      decide_eq_false_iff_not,not_le]
    exact ⟨_,_,⟨(),⟨fits.digits,fits.exponent ▸ fits.scale⟩,rfl⟩,_,⟨(),⟨fits.incrementDigits,fits.scale⟩,rfl⟩,(),increment,_,
      scaled,rfl⟩
  obtain ⟨quotient,divided⟩ := answered
  have floored := finishes_returned (floor_divide_finishes increment_pos) divided
  rw [(written_counts written).2,mul_div_cancel_right₀ _ increment_pos.ne',Int.floor_intCast] at floored
  rw [divided,floored]

include listed costed in
theorem search_answered (written : Written configuration count (quantities.getD index zeroQuantity)) :
    ∃ adjusted, maxAffordableStageQuantity configuration price quantities funding index = .ok adjusted := by
  have told : ∀ tried, 0 ≤ tried → tried ≤ count →
      ∃ enough, affordableIncrements configuration price quantities funding index tried = .ok enough := by
    intro tried least most
    obtain ⟨candidate,made,below⟩ := written_fewer written least most
    obtain ⟨total,computed⟩ := total_fewer listed costed below
    simp only [affordableIncrements,bind_ok,pure_ok]
    exact ⟨_,candidate,made.2,total,computed,rfl⟩
  obtain ⟨found,searched,between⟩ := bisection_answered written.1 told
  simp only [maxAffordableStageQuantity,bind_ok]
  cases found with
  | none => exact ⟨none,count,written_divided written,none,searched,rfl⟩
  | some found =>
    obtain ⟨least,most⟩ := between found rfl
    obtain ⟨quantity,made,_⟩ := written_fewer written least most
    exact ⟨some quantity,count,written_divided written,some found,searched,by dsimp only; rw [made.2]; rfl⟩

omit listed costed in
theorem decrement_answered {quantity : Decimal} (fits : Fits (quantityIncrement configuration) quantity (count + 1))
    (some : 0 ≤ count) : ∃ next, decrementQuantity configuration quantity = .ok next ∧
      (next.toRat = 0 ∨ Fits (quantityIncrement configuration) next count) := by
  have increment : 0 < (quantityIncrement configuration).signed := increment_signed
  have difference : quantity.signed - (quantityIncrement configuration).signed =
      count * (quantityIncrement configuration).signed := by
    rw [fits.signed]
    ring
  have fewer : (count * (quantityIncrement configuration).signed).natAbs ≤ quantity.coefficient := by
    have least := mul_nonneg some increment.le
    rw [← natAbs_signed,← difference]
    omega
  have digits := (digits_mono fewer).trans fits.digits
  have subtracted : subtractDecimals quantity (quantityIncrement configuration) =
      .ok (.ofSigned (count * (quantityIncrement configuration).signed) (quantityIncrement configuration).exponent) := by
    simp only [subtractDecimals,combineDecimals,decimalCoefficientAndExponent,validateScaledCoefficient,decimalFromCoefficient,
      limitIf,bind_ok,pure_ok,raiseIf_ok,rounding_decimal_exact,decide_eq_false_iff_not,not_lt]
    refine ⟨_,⟨(),⟨fits.digits,fits.exponent ▸ fits.scale⟩,rfl⟩,_,⟨(),⟨fits.incrementDigits,fits.scale⟩,rfl⟩,(),?_⟩
    simp only [fits.exponent,min_self,sub_self,Int.toNat_zero,pow_zero,mul_one,add_zero,natAbs_signed,difference]
    exact ⟨⟨(),by decide,fits.digits⟩,(),⟨(),by decide,fits.incrementDigits⟩,(),fits.scale,(),digits,trivial⟩
  unfold decrementQuantity
  rw [subtracted]
  refine ⟨_,rfl,?_⟩
  split
  · exact .inl zero_quantity
  · exact .inr ⟨signed_of ..,rfl,digits,fits.incrementDigits,fits.scale⟩

include listed costed in
theorem decrements_answered {steps : Nat} {quantity : Decimal} (enough : count < steps) (some : 0 ≤ count)
    (fits : quantity.toRat = 0 ∨ Fits (quantityIncrement configuration) quantity count ∧
      Below quantity (quantities.getD index zeroQuantity)) :
    ∃ outcome, decrementUntilAffordable configuration price funding quantities index steps quantity = .ok outcome := by
  have increment : 0 < (quantityIncrement configuration).signed := increment_signed
  induction steps generalizing count quantity with
  | zero => omega
  | succ steps ih =>
    unfold decrementUntilAffordable
    split
    · exact ⟨_,rfl⟩
    · rename_i left
      obtain ⟨fits,below⟩ := fits.resolve_left left
      obtain ⟨total,computed⟩ := total_fewer listed costed below
      rw [computed]
      simp only [bind_ok,Except.ok.injEq,exists_eq_left']
      split
      · exact ⟨_,rfl⟩
      · have more : count ≠ 0 := by
          rintro rfl
          apply left
          rw [toRat_signed,fits.signed,zero_mul,Int.cast_zero,zero_mul]
        obtain ⟨next,decremented,following⟩ := decrement_answered (by rwa [Int.sub_add_cancel]) (by omega : 0 ≤ count - 1)
        rw [decremented]
        apply ih (by omega) (by omega : 0 ≤ count - 1)
        apply following.imp_right
        intro smaller
        refine ⟨smaller,?_,?_,smaller.exponent.trans (fits.exponent.symm.trans below.exponent)⟩
        · rw [smaller.signed]
          exact mul_nonneg (by omega) increment.le
        · apply le_trans _ below.within
          rw [smaller.signed,fits.signed]
          exact mul_le_mul_of_nonneg_right (by omega) increment.le

end Stage

theorem largest_unique {found found' : Decimal} (largest : Largest configuration price.toRat funding.toRat quantities index found)
    (largest' : Largest configuration price.toRat funding.toRat quantities index found') : found.toRat = found'.toRat := by
  have never : ∀ less more, Largest configuration price.toRat funding.toRat quantities index less →
      Largest configuration price.toRat funding.toRat quantities index more → ¬less.toRat < more.toRat := by
    intro less more low high apart
    obtain ⟨count,counted⟩ := high.counted
    obtain ⟨_,counted'⟩ := low.counted
    have unpaid := low.largest count more counted apart high.within
    rcases high.affordable with nothing | paid
    · rw [nothing] at apart
      exact not_le.mpr apart (counts_nonneg counted')
    · exact not_le.mpr unpaid paid
  exact le_antisymm (not_lt.mp (never found' found largest' largest)) (not_lt.mp (never found found' largest largest'))

-- The bisection finds what single decrements find; where the quantity of the stage is written as the engine writes it,
-- no resource limit stops either.
theorem search_agrees (configuration : SizingConfiguration) (price funding : Decimal) (quantities : List Decimal) (index : Nat)
    (total : Decimal) (count : Int) (listed : index < quantities.length)
    (costed : totalCash configuration price quantities = .ok total)
    (counted : Counts configuration count (quantities.getD index zeroQuantity)) :
    Finishes (maxAffordableStageQuantity configuration price quantities funding index)
      (fun adjusted => ∃ found, adjusted = some found ∧ Largest configuration price.toRat funding.toRat quantities index found)
      ResourceLimit ∧
    (∀ steps : Nat, count < steps → Finishes
      (decrementUntilAffordable configuration price funding quantities index steps (quantities.getD index zeroQuantity))
      (fun outcome => ∃ found, outcome = some found ∧ Largest configuration price.toRat funding.toRat quantities index found)
      ResourceLimit) ∧
    (∀ found found', Largest configuration price.toRat funding.toRat quantities index found →
      Largest configuration price.toRat funding.toRat quantities index found' → found.toRat = found'.toRat) ∧
    (Written configuration count (quantities.getD index zeroQuantity) →
      ∃ found, maxAffordableStageQuantity configuration price quantities funding index = .ok (some found) ∧
        ∀ steps : Nat, count < steps → ∃ found',
          decrementUntilAffordable configuration price funding quantities index steps (quantities.getD index zeroQuantity) =
            .ok (some found') ∧ found'.toRat = found.toRat) := by
  have bisected := @search_largest configuration price funding quantities index total count listed costed counted
  have decremented : ∀ steps : Nat, count < steps → _ := fun steps enough =>
    @decrements_largest configuration price funding quantities index total count listed costed steps _ enough counted (le_refl _)
      fun _ _ _ above below => absurd below (not_le.mpr above)
  refine ⟨bisected,decremented,fun _ _ => largest_unique,?_⟩
  intro written
  obtain ⟨adjusted,searched⟩ := @search_answered configuration price funding quantities index total count listed costed written
  rw [searched] at bisected
  obtain ⟨found,rfl,largest⟩ := bisected
  refine ⟨found,searched,?_⟩
  intro steps enough
  have fits := written_fits written
  have below := below_refl ((toRat_nonneg _).mp (counts_nonneg counted))
  obtain ⟨outcome,ran⟩ := @decrements_answered configuration price funding quantities index total count listed
    costed steps _ enough counted.1 (.inr ⟨fits,below⟩)
  have settled := decremented steps enough
  rw [ran] at settled
  obtain ⟨found',rfl,largest'⟩ := settled
  exact ⟨found',ran,largest_unique largest' largest⟩

end Configuration

-- One stage, whole units of money and of quantity and no costs.
def wholeConfiguration : SizingConfiguration where
  stages := [onlyStage]
  feeTaxProfile := ⟨⟨.ofNat 0,.ofNat 0,.ofNat 0⟩,by decide +kernel⟩
  slippageProfile := ⟨⟨.ofNat 0,.ofNat 0⟩,by decide +kernel⟩
  reserve := .ofNat 0
  minimumQuantity := .ofNat 1
  lotQuantity := .ofNat 1
  oddLotPolicy := .allowed
  rounding := ⟨⟨.ofNat 1,.down,.down⟩,by decide +kernel⟩
  accepted := by decide +kernel

def longPrice : Decimal := ⟨false,10 ^ 110 + 1,-900⟩

def shortQuantity : Decimal := ⟨false,1,900⟩

-- One digit and an exponent take the cost of the stage within the limits; half of the quantity takes nine hundred digits.
theorem midpoint_refused : totalCash wholeConfiguration longPrice [shortQuantity] = .ok (.ofNat (10 ^ 110 + 1)) ∧
    Counts wholeConfiguration (10 ^ 900) shortQuantity ∧
    maxAffordableStageQuantity wholeConfiguration longPrice [shortQuantity] (.ofNat 0) 0 =
      .error ⟨.costError,"Decimal product digit count exceeds the rounding resource limit"⟩ := by
  refine ⟨by decide +kernel,⟨by decide +kernel,by decide +kernel⟩,by decide +kernel⟩

-- Three of four are affordable.
theorem three_affordable : ∃ found,
    maxAffordableStageQuantity wholeConfiguration (.ofNat 2) [.ofNat 4] (.ofNat 7) 0 = .ok (some found) ∧
    ∀ steps : Nat, (4 : Int) < steps → ∃ found',
      decrementUntilAffordable wholeConfiguration (.ofNat 2) (.ofNat 7) [.ofNat 4] 0 steps (.ofNat 4) = .ok (some found') ∧
        found'.toRat = found.toRat := by
  obtain ⟨_,_,_,agrees⟩ := search_agrees wholeConfiguration (.ofNat 2) (.ofNat 7) [.ofNat 4] 0 (.ofNat 8) 4 (by decide)
    (by decide +kernel) ⟨by decide,by decide +kernel⟩
  exact agrees ⟨by decide,by decide +kernel⟩

end SwapMonitor.Sizing
