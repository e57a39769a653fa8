import SwapMonitor.Indicators.Market
import SwapMonitor.Rules.Canonical
import SwapMonitor.Collections.Sorting
import SwapMonitor.Exceptions.Checks
import Mathlib.Data.String.Basic

namespace SwapMonitor.Indicators
open Clocks Collections Exceptions

variable {Zone : Type}

-- The texts of the evidence, before they are written out.
inductive EvidenceText (Zone : Type) where
  | text (value : String)
  | number (value : Int)
  | microseconds (value : Int)
  | date (value : Int)
  | dates (values : List Int)
  | datetime (value : Datetime Zone)
  | errors (values : List (Int × String))
  deriving DecidableEq

abbrev Evidence (Zone : Type) := List (String × EvidenceText Zone)

-- The canonical decimals of indicators and of rules are written alike.
def canonicalDecimal (value : Decimal) : Decimal := Rules.canonicalForm value

-- value.is_zero()
def isZero (value : Decimal) : Bool := decide (value.coefficient = 0)

def divideDecimals (numerator denominator : Decimal) : Except PyError Decimal := do
  raiseIf (isZero denominator) .indicatorInputError "denominator must not be zero"
  let quotient ← divideDecimal numerator denominator
  pure (canonicalDecimal quotient)

structure ResultFields (Zone : Type) where
  key : String
  value : Option Decimal
  actionable : Bool
  reason : Option String
  evidence : Evidence Zone
  deriving DecidableEq

-- The checks of IndicatorResult.__post_init__ on a value that is there, or is not.
def requireValue (actionable : Bool) (reason : Option String) : Option Decimal → Except PyError Unit
  | none => do
    raiseIf actionable .indicatorResultError "an actionable indicator result requires a Decimal value"
    raiseIf (reason.all blank) .indicatorResultError "an unavailable indicator result requires a reason"
  | some _ => do
    raiseIf (!actionable) .indicatorResultError "a Decimal indicator value must be actionable"
    raiseIf reason.isSome .indicatorResultError "an actionable indicator result cannot have a reason"

def ResultFields.postInit (fields : ResultFields Zone) : Except PyError Unit := do
  raiseIf (blank fields.key) .indicatorResultError "indicator key must not be blank"
  requireValue fields.actionable fields.reason fields.value
  raiseIf (fields.evidence.any fun entry => blank entry.1) .indicatorResultError "indicator evidence keys must be non-blank strings"

-- What IndicatorResult.__post_init__ makes of the fields it accepts.
def ResultFields.normalized (fields : ResultFields Zone) : ResultFields Zone :=
  { fields with
    key := Rules.strip fields.key
    value := fields.value.map canonicalDecimal
    reason := fields.reason.map Rules.strip
    evidence := sortBy Prod.fst fields.evidence }

structure IndicatorResult (Zone : Type) extends ResultFields Zone where
  accepted : toResultFields.postInit = .ok ()

theorem strip_named {text : String} (named : blank text = false) : blank (Rules.strip text) = false := by
  rw [Bool.eq_false_iff] at named ⊢
  exact fun blanks => named (Rules.strip_blank blanks)

theorem normalized_accepted {fields : ResultFields Zone} (accepted : fields.postInit = .ok ()) : fields.normalized.postInit = .ok () := by
  simp only [ResultFields.postInit,check_ok,raiseIf_ok,ResultFields.normalized] at accepted ⊢
  obtain ⟨named,valued,keyed⟩ := accepted
  refine ⟨strip_named named,?_,?_⟩
  · cases value : fields.value with
    | none =>
      rw [value] at valued
      simp only [requireValue,check_ok,raiseIf_ok,Option.map_none] at valued ⊢
      refine ⟨valued.1,?_⟩
      cases reason : fields.reason with
      | none =>
        rw [reason] at valued
        exact valued.2
      | some text =>
        rw [reason] at valued
        simp only [Option.map_some,Option.all_some] at valued ⊢
        exact strip_named valued.2
    | some number =>
      rw [value] at valued
      simp only [requireValue,check_ok,raiseIf_ok,Option.map_some,Option.isSome_map] at valued ⊢
      exact valued
  · rw [List.any_eq_false] at keyed ⊢
    exact fun entry member => keyed entry (mem_sortBy.mp member)

def IndicatorResult.create : ResultFields Zone → Except PyError (IndicatorResult Zone) :=
  build ResultFields.postInit fun fields accepted => ⟨fields.normalized,normalized_accepted accepted⟩

def IndicatorResult.available (key : String) (value : Decimal) (evidence : Evidence Zone) : Except PyError (IndicatorResult Zone) :=
  IndicatorResult.create ⟨key,some value,true,none,evidence⟩

def IndicatorResult.unavailable (key reason : String) (evidence : Evidence Zone) : Except PyError (IndicatorResult Zone) :=
  IndicatorResult.create ⟨key,none,false,some reason,evidence⟩

theorem create_fields {fields : ResultFields Zone} {result : IndicatorResult Zone} (made : IndicatorResult.create fields = .ok result) :
    result.toResultFields = fields.normalized := by
  obtain ⟨_,rfl⟩ := build_exact.mp made
  rfl

-- A call that returned a value.
def Yields (outcome : Except PyError (IndicatorResult Zone)) (value : Decimal) : Prop :=
  ∃ result, outcome = .ok result ∧ result.value = some value

theorem available_yields {key : String} {value v : Decimal} {evidence : Evidence Zone} (named : blank key = false)
    (keyed : evidence.any (fun entry => blank entry.1) = false) :
    Yields (IndicatorResult.available key value evidence) v ↔ canonicalDecimal value = v := by
  have accepted : (⟨key,some value,true,none,evidence⟩ : ResultFields Zone).postInit = .ok () := by
    simp [ResultFields.postInit,requireValue,check_ok,named,keyed]
  constructor
  · intro held
    obtain ⟨result,made,yielded⟩ := held
    exact Option.some.inj ((congrArg ResultFields.value (create_fields made)).symm.trans yielded)
  · intro same
    rw [IndicatorResult.available,IndicatorResult.create,build_accepted accepted]
    exact ⟨_,rfl,congrArg some same⟩

theorem unavailable_yields {key reason : String} {v : Decimal} {evidence : Evidence Zone} :
    ¬Yields (IndicatorResult.unavailable key reason evidence) v := by
  intro ⟨result,made,yielded⟩
  have same := congrArg (fun fields => fields.value) (create_fields made)
  simp only [ResultFields.normalized,Option.map_none] at same
  rw [same] at yielded
  cases yielded

theorem raised_yields {error : PyError} {v : Decimal} : ¬Yields (.error error : Except PyError (IndicatorResult Zone)) v := by
  intro ⟨_,made,_⟩
  cases made

end SwapMonitor.Indicators
