import Mathlib.Tactic.Common

namespace SwapMonitor

-- The exception classes the modelled code raises, and the two ways its surroundings
-- interrupt a call: an operation that fails with some Exception, and a call that is abandoned.
inductive ErrorClass where
  | typeError
  | valueError
  | authorizationDenied
  | notFoundForActor
  | protectedPositionSaleError
  | positionNotOpenError
  | saleQuantityExceedsPositionError
  | nonPositiveSaleQuantityError
  | unauthorizedRotationSourceError
  | planReferenceUnauthorizedError
  | candidateInstrumentUnauthorizedError
  | negativeQuantityError
  | invalidStrategyRunEvidenceError
  | canonicalJsonSizeLimitError
  | logicalScanAlreadyCompletedError
  | idempotencyConflictError
  | transitionNotAllowed
  | runCoordinatorInvariantError
  | finalizationSuperseded
  | configurationSnapshotValidationError
  | overflowError
  | ruleTransportError
  | ruleSemanticError
  | ruleSafetyError
  | ruleTextResourceLimitError
  | ruleEvaluationError
  | ruleEvidenceResourceLimitError
  | protectedRuleInputError
  | decimalResourceLimitError
  | decimalOverflow
  | costError
  | sizingError
  | positionAlreadyOpenError
  | configurationMergeError
  | configurationCanonicalizationError
  | runtimeOverrideExpiryError
  | validationError
  | nonFiniteDecimalError
  | naiveDatetimeError
  | scoringError
  | indicatorInputError
  | indicatorResultError
  | barAggregationInputError
  | operationFailed (className : String)
  | abandoned
  deriving DecidableEq, Repr

-- type(error).__name__
def ErrorClass.name : ErrorClass → String
  | .typeError => "TypeError"
  | .valueError => "ValueError"
  | .authorizationDenied => "AuthorizationDenied"
  | .notFoundForActor => "NotFoundForActor"
  | .protectedPositionSaleError => "ProtectedPositionSaleError"
  | .positionNotOpenError => "PositionNotOpenError"
  | .saleQuantityExceedsPositionError => "SaleQuantityExceedsPositionError"
  | .nonPositiveSaleQuantityError => "NonPositiveSaleQuantityError"
  | .unauthorizedRotationSourceError => "UnauthorizedRotationSourceError"
  | .planReferenceUnauthorizedError => "PlanReferenceUnauthorizedError"
  | .candidateInstrumentUnauthorizedError => "CandidateInstrumentUnauthorizedError"
  | .negativeQuantityError => "NegativeQuantityError"
  | .invalidStrategyRunEvidenceError => "InvalidStrategyRunEvidenceError"
  | .canonicalJsonSizeLimitError => "CanonicalJsonSizeLimitError"
  | .logicalScanAlreadyCompletedError => "LogicalScanAlreadyCompletedError"
  | .idempotencyConflictError => "IdempotencyConflictError"
  | .transitionNotAllowed => "TransitionNotAllowed"
  | .runCoordinatorInvariantError => "RunCoordinatorInvariantError"
  | .finalizationSuperseded => "_FinalizationSuperseded"
  | .configurationSnapshotValidationError => "ConfigurationSnapshotValidationError"
  | .overflowError => "OverflowError"
  | .ruleTransportError => "RuleTransportError"
  | .ruleSemanticError => "RuleSemanticError"
  | .ruleSafetyError => "RuleSafetyError"
  | .ruleTextResourceLimitError => "RuleTextResourceLimitError"
  | .ruleEvaluationError => "RuleEvaluationError"
  | .ruleEvidenceResourceLimitError => "RuleEvidenceResourceLimitError"
  | .protectedRuleInputError => "ProtectedRuleInputError"
  | .decimalResourceLimitError => "DecimalResourceLimitError"
  | .decimalOverflow => "Overflow"
  | .costError => "CostError"
  | .sizingError => "SizingError"
  | .positionAlreadyOpenError => "PositionAlreadyOpenError"
  | .configurationMergeError => "ConfigurationMergeError"
  | .configurationCanonicalizationError => "ConfigurationCanonicalizationError"
  | .runtimeOverrideExpiryError => "RuntimeOverrideExpiryError"
  | .validationError => "ValidationError"
  | .nonFiniteDecimalError => "NonFiniteDecimalError"
  | .naiveDatetimeError => "NaiveDatetimeError"
  | .scoringError => "ScoringError"
  | .indicatorInputError => "IndicatorInputError"
  | .indicatorResultError => "IndicatorResultError"
  | .barAggregationInputError => "BarAggregationInputError"
  | .operationFailed className => className
  | .abandoned => "BaseException"

structure PyError where
  kind : ErrorClass
  message : String
  deriving DecidableEq, Repr

-- except Exception catches everything but an abandonment, which only finally blocks see.
def PyError.isException (error : PyError) : Bool := decide (error.kind ≠ .abandoned)

-- except _FinalizationSuperseded
def PyError.isSuperseded (error : PyError) : Bool := decide (error.kind = .finalizationSuperseded)

def raise (kind : ErrorClass) (message : String) : Except PyError α := .error ⟨kind,message⟩

-- if condition: raise kind(message)
def raiseIf (condition : Bool) (kind : ErrorClass) (message : String) : Except PyError Unit :=
  if condition then raise kind message else .ok ()

@[simp] theorem raiseIf_ok (condition : Bool) (kind : ErrorClass) (message : String) (u : Unit) :
    raiseIf condition kind message = .ok u ↔ condition = false := by
  cases condition <;> simp [raiseIf,raise]

-- Every check before a result passed, when there is a result.
theorem bind_ok {x : Except ε α} {f : α → Except ε β} {result : β} :
    (x >>= f) = .ok result ↔ ∃ value, x = .ok value ∧ f value = .ok result := by
  cases x <;> simp [Bind.bind,Except.bind]

theorem check_ok {x : Except ε Unit} {f : Unit → Except ε β} {result : β} :
    (x >>= f) = .ok result ↔ x = .ok () ∧ f () = .ok result := by
  cases x <;> simp [Bind.bind,Except.bind]

theorem either_ok {c : Prop} [Decidable c] {x y : Except ε β} {result : β} :
    (if c then x else y) = .ok result ↔ c ∧ x = .ok result ∨ ¬c ∧ y = .ok result := by
  by_cases holds : c <;> simp [holds]

@[simp] theorem raise_ok (kind : ErrorClass) (message : String) (result : β) :
    raise kind message = .ok result ↔ False := by simp [raise]

@[simp] theorem pure_ok (value result : β) :
    (pure value : Except PyError β) = .ok result ↔ value = result := by simp [pure,Except.pure]

end SwapMonitor
