import SwapMonitor.Domain.Decimals

namespace SwapMonitor.Sizing
open Arithmetic

def MAX_ROUNDING_DECIMAL_DIGITS : Nat := 1000
def MAX_ROUNDING_DECIMAL_EXPONENT : Nat := 1000
def MAX_ROUNDING_SCALE_DIFFERENCE : Nat := 1000

inductive RoundingMode where
  | down | halfEven | halfUp
  deriving DecidableEq, Repr

-- raise CostError(name of the exceeded measure, the limit)
def limitIf (exceeded : Bool) (measure : String) : Except PyError Unit :=
  raiseIf exceeded .costError (measure ++ " exceeds the rounding resource limit")

def validateRoundingDecimal (value : Decimal) (fieldName : String) : Except PyError Unit := do
  limitIf (decide (MAX_ROUNDING_DECIMAL_DIGITS < digitCount value.coefficient)) (fieldName ++ " digit count")
  limitIf (decide (MAX_ROUNDING_DECIMAL_EXPONENT < value.exponent.natAbs)) (fieldName ++ " scale")

def requireRate (value : Decimal) (fieldName : String) : Except PyError Unit :=
  raiseIf (!decide (0 ≤ value.toRat ∧ value.toRat ≤ 1)) .costError (fieldName ++ " must be between zero and one")

def requireNonnegative (value : Decimal) (fieldName : String) : Except PyError Unit :=
  raiseIf (decide (value.toRat < 0)) .costError (fieldName ++ " must not be negative")

def requirePositive (value : Decimal) (fieldName : String) : Except PyError Unit := do
  requireNonnegative value fieldName
  raiseIf (decide (value.coefficient = 0)) .costError (fieldName ++ " must be positive")

structure RoundingFields where
  moneyQuantum : Decimal
  moneyRounding : RoundingMode
  quantityRounding : RoundingMode
  deriving DecidableEq

def RoundingFields.postInit (fields : RoundingFields) : Except PyError Unit := do
  validateRoundingDecimal fields.moneyQuantum "money_quantum"
  raiseIf (decide (fields.moneyQuantum.toRat ≤ 0)) .costError "money_quantum must be positive"

structure DecimalRoundingPolicy extends RoundingFields where
  accepted : toRoundingFields.postInit = .ok ()
  deriving DecidableEq

structure FeeTaxFields where
  purchaseFeeRate : Decimal
  saleFeeRate : Decimal
  saleTaxRate : Decimal
  deriving DecidableEq

def FeeTaxFields.postInit (fields : FeeTaxFields) : Except PyError Unit := do
  requireRate fields.purchaseFeeRate "purchase_fee_rate"
  requireRate fields.saleFeeRate "sale_fee_rate"
  requireRate fields.saleTaxRate "sale_tax_rate"

structure FeeTaxProfile extends FeeTaxFields where
  accepted : toFeeTaxFields.postInit = .ok ()
  deriving DecidableEq

structure SlippageFields where
  purchaseRate : Decimal
  saleRate : Decimal
  deriving DecidableEq

def SlippageFields.postInit (fields : SlippageFields) : Except PyError Unit := do
  requireRate fields.purchaseRate "purchase_rate"
  requireRate fields.saleRate "sale_rate"

structure SlippageProfile extends SlippageFields where
  accepted : toSlippageFields.postInit = .ok ()
  deriving DecidableEq

structure PurchaseCost where
  grossValue : Decimal
  slippageCost : Decimal
  fee : Decimal
  totalCash : Decimal
  deriving DecidableEq

structure SaleProceeds where
  grossValue : Decimal
  slippageCost : Decimal
  fee : Decimal
  tax : Decimal
  netProceeds : Decimal
  deriving DecidableEq

def decimalCoefficientAndExponent (value : Decimal) (fieldName : String) : Except PyError (Int × Int) := do
  validateRoundingDecimal value fieldName
  pure (value.signed,value.exponent)

def decimalFromCoefficient (coefficient exponent : Int) : Except PyError Decimal := do
  limitIf (decide (MAX_ROUNDING_DECIMAL_EXPONENT < exponent.natAbs)) "Decimal result scale"
  limitIf (decide (MAX_ROUNDING_DECIMAL_DIGITS < digitCount coefficient.natAbs)) "Decimal result digit count"
  pure (.ofSigned coefficient exponent)

def validateScaledCoefficient (coefficient : Int) (scale : Nat) (fieldName : String) : Except PyError Unit := do
  limitIf (decide (MAX_ROUNDING_SCALE_DIFFERENCE < scale)) (fieldName ++ " scale")
  limitIf (decide (MAX_ROUNDING_DECIMAL_DIGITS < digitCount coefficient.natAbs + scale)) (fieldName ++ " digit count")

-- The shared body of add_decimals and subtract_decimals, which differ in the last operation.
def combineDecimals (combine : Int → Int → Int) (left right : Decimal) : Except PyError Decimal := do
  let (leftCoefficient,leftExponent) ← decimalCoefficientAndExponent left "left Decimal"
  let (rightCoefficient,rightExponent) ← decimalCoefficientAndExponent right "right Decimal"
  let resultExponent := min leftExponent rightExponent
  let leftShift := (leftExponent - resultExponent).toNat
  let rightShift := (rightExponent - resultExponent).toNat
  validateScaledCoefficient leftCoefficient leftShift "left Decimal"
  validateScaledCoefficient rightCoefficient rightShift "right Decimal"
  decimalFromCoefficient (combine (leftCoefficient * 10 ^ leftShift) (rightCoefficient * 10 ^ rightShift)) resultExponent

def addDecimals (left right : Decimal) : Except PyError Decimal := combineDecimals (· + ·) left right

def subtractDecimals (left right : Decimal) : Except PyError Decimal := combineDecimals (· - ·) left right

def multiplyDecimals (left right : Decimal) : Except PyError Decimal := do
  let (leftCoefficient,leftExponent) ← decimalCoefficientAndExponent left "left Decimal"
  let (rightCoefficient,rightExponent) ← decimalCoefficientAndExponent right "right Decimal"
  let resultExponent := leftExponent + rightExponent
  limitIf (decide (MAX_ROUNDING_DECIMAL_EXPONENT < resultExponent.natAbs)) "Decimal product scale"
  limitIf (decide (MAX_ROUNDING_DECIMAL_DIGITS < digitCount leftCoefficient.natAbs + digitCount rightCoefficient.natAbs))
    "Decimal product digit count"
  decimalFromCoefficient (leftCoefficient * rightCoefficient) resultExponent

-- The numerator and the denominator over one power of ten, scaled up on the side of the larger exponent.
def scaledRatio (numerator numeratorExponent denominator denominatorExponent : Int) (numeratorName denominatorName : String) :
    Except PyError (Int × Int) := do
  let exponentDifference := numeratorExponent - denominatorExponent
  limitIf (decide (MAX_ROUNDING_SCALE_DIFFERENCE < exponentDifference.natAbs)) "Decimal scale difference"
  if 0 ≤ exponentDifference then
    validateScaledCoefficient numerator exponentDifference.toNat numeratorName
    pure (numerator * 10 ^ exponentDifference.toNat,denominator)
  else
    validateScaledCoefficient denominator (-exponentDifference).toNat denominatorName
    pure (numerator,denominator * 10 ^ (-exponentDifference).toNat)

def floorDivideDecimals (numerator denominator : Decimal) : Except PyError Int := do
  let (numeratorCoefficient,numeratorExponent) ← decimalCoefficientAndExponent numerator "numerator"
  let (denominatorCoefficient,denominatorExponent) ← decimalCoefficientAndExponent denominator "denominator"
  raiseIf (decide (denominatorCoefficient ≤ 0)) .costError "denominator must be positive"
  let (scaledNumerator,scaledDenominator) ← scaledRatio numeratorCoefficient numeratorExponent
    denominatorCoefficient denominatorExponent "numerator" "denominator"
  pure (scaledNumerator.fdiv scaledDenominator)

def quantumRatio (value quantum : Decimal) : Except PyError (Int × Int × Int × Int) := do
  let (valueCoefficient,valueExponent) ← decimalCoefficientAndExponent value "money value"
  let (quantumCoefficient,quantumExponent) ← decimalCoefficientAndExponent quantum "money_quantum"
  let (numerator,denominator) ← scaledRatio valueCoefficient valueExponent quantumCoefficient quantumExponent
    "money value" "money_quantum"
  pure (numerator,denominator,quantumCoefficient,quantumExponent)

def roundRatio (numerator denominator : Int) (rounding : RoundingMode) : Int :=
  let floor := numerator.fdiv denominator
  let remainder := numerator - floor * denominator
  let comparison := remainder * 2 - denominator
  if rounding = .down then if 0 ≤ numerator ∨ remainder = 0 then floor else floor + 1
  else if comparison < 0 then floor
  else if 0 < comparison then floor + 1
  else if rounding = .halfUp then if 0 ≤ numerator then floor + 1 else floor
  else if floor % 2 = 0 then floor else floor + 1

def floorToQuantum (value quantum : Decimal) : Except PyError Decimal := do
  let (numerator,denominator,quantumCoefficient,quantumExponent) ← quantumRatio value quantum
  let increments := numerator.fdiv denominator
  decimalFromCoefficient (increments * quantumCoefficient) quantumExponent

def roundToQuantum (value quantum : Decimal) (rounding : RoundingMode) : Except PyError Decimal := do
  let (numerator,denominator,quantumCoefficient,quantumExponent) ← quantumRatio value quantum
  let increments := roundRatio numerator denominator rounding
  decimalFromCoefficient (increments * quantumCoefficient) quantumExponent

def DecimalRoundingPolicy.money (policy : DecimalRoundingPolicy) (value : Decimal) : Except PyError Decimal :=
  roundToQuantum value policy.moneyQuantum policy.moneyRounding

def DecimalRoundingPolicy.moneyNotIncreasing (policy : DecimalRoundingPolicy) (value : Decimal) :
    Except PyError Decimal :=
  floorToQuantum value policy.moneyQuantum

def calculatePurchaseCost (quantity price : Decimal) (feeTaxProfile : FeeTaxProfile)
    (slippageProfile : SlippageProfile) (rounding : DecimalRoundingPolicy) : Except PyError PurchaseCost := do
  requireNonnegative quantity "purchase quantity"
  requirePositive price "purchase price"
  let grossValue ← rounding.money (← multiplyDecimals quantity price)
  let slippageCost ← rounding.money (← multiplyDecimals grossValue slippageProfile.purchaseRate)
  let fee ← rounding.money
    (← multiplyDecimals (← addDecimals grossValue slippageCost) feeTaxProfile.purchaseFeeRate)
  let totalCash ← rounding.money (← addDecimals (← addDecimals grossValue slippageCost) fee)
  pure ⟨grossValue,slippageCost,fee,totalCash⟩

def calculateSaleProceeds (quantity price : Decimal) (feeTaxProfile : FeeTaxProfile)
    (slippageProfile : SlippageProfile) (rounding : DecimalRoundingPolicy) : Except PyError SaleProceeds := do
  requireNonnegative quantity "sale quantity"
  requirePositive price "sale price"
  let grossValue ← rounding.moneyNotIncreasing (← multiplyDecimals quantity price)
  let slippageCost ← rounding.money (← multiplyDecimals grossValue slippageProfile.saleRate)
  let postSlippageValue ← subtractDecimals grossValue slippageCost
  let fee ← rounding.money (← multiplyDecimals postSlippageValue feeTaxProfile.saleFeeRate)
  let tax ← rounding.money (← multiplyDecimals postSlippageValue feeTaxProfile.saleTaxRate)
  let netProceeds ← rounding.moneyNotIncreasing
    (← subtractDecimals (← subtractDecimals postSlippageValue fee) tax)
  pure ⟨grossValue,slippageCost,fee,tax,netProceeds⟩

end SwapMonitor.Sizing
