import SwapMonitor.Sizing.Search

namespace SwapMonitor.Sizing
open Arithmetic

-- The loop of the search with no limit on its steps: how often it is gone through, and what it ends with.
inductive SearchRuns (affordable : Int → Except PyError Bool) : Int → Int → Nat → Except PyError Int → Prop where
  | met {lower upper : Int} : ¬lower < upper → SearchRuns affordable lower upper 0 (.ok lower)
  | raised {lower upper : Int} {error : PyError} : lower < upper → affordable ((lower + upper + 1).fdiv 2) = .error error →
      SearchRuns affordable lower upper 1 (.error error)
  | paid {lower upper : Int} {steps : Nat} {outcome : Except PyError Int} : lower < upper →
      affordable ((lower + upper + 1).fdiv 2) = .ok true → SearchRuns affordable ((lower + upper + 1).fdiv 2) upper steps outcome →
      SearchRuns affordable lower upper (steps + 1) outcome
  | unpaid {lower upper : Int} {steps : Nat} {outcome : Except PyError Int} : lower < upper →
      affordable ((lower + upper + 1).fdiv 2) = .ok false → SearchRuns affordable lower ((lower + upper + 1).fdiv 2 - 1) steps outcome →
      SearchRuns affordable lower upper (steps + 1) outcome

section Search
variable {affordable : Int → Except PyError Bool} {lower upper : Int} {steps : Nat} {outcome : Except PyError Int}

-- Each step leaves at most half of the range, whatever the answer is.
theorem runs_halved (short : upper - lower < 2 ^ steps) :
    ∃ taken outcome, SearchRuns affordable lower upper taken outcome ∧ taken ≤ steps := by
  induction steps generalizing lower upper with
  | zero =>
    have met : ¬lower < upper := by
      rw [pow_zero] at short
      omega
    exact ⟨0,_,.met met,le_refl _⟩
  | succ steps ih =>
    by_cases apart : lower < upper
    · obtain ⟨upperHalf,lowerHalf⟩ := @midpoint_halves lower upper
      rw [pow_succ] at short
      cases answer : affordable ((lower + upper + 1).fdiv 2) with
      | error error => exact ⟨1,_,.raised apart answer,Nat.succ_le_succ (Nat.zero_le steps)⟩
      | ok enough =>
        cases enough with
        | true =>
          obtain ⟨taken,outcome,runs,few⟩ := @ih ((lower + upper + 1).fdiv 2) upper (by omega)
          exact ⟨taken + 1,outcome,.paid apart answer runs,Nat.succ_le_succ few⟩
        | false =>
          obtain ⟨taken,outcome,runs,few⟩ := @ih lower ((lower + upper + 1).fdiv 2 - 1) (by omega)
          exact ⟨taken + 1,outcome,.unpaid apart answer runs,Nat.succ_le_succ few⟩
    · exact ⟨0,_,.met apart,Nat.zero_le _⟩

-- A limit that the loop does not reach changes nothing.
theorem runs_unlimited (runs : SearchRuns affordable lower upper steps outcome) {limit : Nat} (enough : steps ≤ limit) :
    searchIncrements affordable limit lower upper = outcome.map some := by
  induction runs generalizing limit with
  | met met =>
    cases limit with
    | zero => rw [searchIncrements,if_neg met]; rfl
    | succ limit => rw [searchIncrements,if_neg met]; rfl
  | raised apart answer =>
    cases limit with
    | zero => exact absurd enough (Nat.not_succ_le_zero _)
    | succ limit =>
      rw [searchIncrements,if_pos apart]
      dsimp only
      rw [answer]
      rfl
  | paid apart answer _ ih =>
    cases limit with
    | zero => exact absurd enough (Nat.not_succ_le_zero _)
    | succ limit =>
      rw [searchIncrements,if_pos apart]
      dsimp only
      rw [answer]
      exact ih (Nat.le_of_succ_le_succ enough)
  | unpaid apart answer _ ih =>
    cases limit with
    | zero => exact absurd enough (Nat.not_succ_le_zero _)
    | succ limit =>
      rw [searchIncrements,if_pos apart]
      dsimp only
      rw [answer]
      exact ih (Nat.le_of_succ_le_succ enough)

end Search

section Configuration
variable {configuration : SizingConfiguration} {price funding : Decimal} {quantities : List Decimal} {index : Nat}

theorem search_ends {increments : Int} (divided : floorDivideDecimals (quantities.getD index zeroQuantity) (quantityIncrement configuration) = .ok increments) :
    ∃ steps outcome, SearchRuns (affordableIncrements configuration price quantities funding index) 0 increments steps outcome ∧
      steps < MAX_SIZING_ADJUSTMENT_SEARCH_STEPS ∧
      searchIncrements (affordableIncrements configuration price quantities funding index) MAX_SIZING_ADJUSTMENT_SEARCH_STEPS 0 increments =
        outcome.map some := by
  have bounded := quotient_bounded divided
  have room : (10 : Int) ^ MAX_ROUNDING_DECIMAL_DIGITS ≤ 2 ^ 3322 := by decide +kernel
  obtain ⟨steps,outcome,runs,few⟩ := @runs_halved (affordableIncrements configuration price quantities funding index) 0 increments 3322 (by omega)
  have less : steps < MAX_SIZING_ADJUSTMENT_SEARCH_STEPS := few.trans_lt (by decide)
  exact ⟨steps,outcome,runs,less,runs_unlimited runs less.le⟩

theorem search_found : maxAffordableStageQuantity configuration price quantities funding index ≠ .ok none := by
  intro given_up
  rw [maxAffordableStageQuantity,bind_ok] at given_up
  obtain ⟨increments,divided,rest⟩ := given_up
  obtain ⟨steps,outcome,_,_,searched⟩ := @search_ends configuration price funding quantities index increments divided
  rw [searched] at rest
  cases outcome with
  | error error => cases rest
  | ok found =>
    obtain ⟨kept,same,rest⟩ := bind_ok.mp rest
    cases same
    dsimp only at rest
    cases multiplied : multiplyDecimals (.ofSigned found 0) (quantityIncrement configuration) with
    | error error =>
      rw [multiplied] at rest
      cases rest
    | ok quantity =>
      rw [multiplied] at rest
      cases rest

theorem adjusting_found : adjustQuantities configuration price funding index quantities ≠ .ok none := by
  induction index generalizing quantities with
  | zero => exact fun given_up => nomatch given_up
  | succ index ih =>
    intro given_up
    rw [adjustQuantities,bind_ok] at given_up
    obtain ⟨total,_,rest⟩ := given_up
    split at rest
    · cases rest
    · split at rest
      · exact ih rest
      · obtain ⟨found,searched,rest⟩ := bind_ok.mp rest
        cases found with
        | none => exact search_found searched
        | some adjusted => exact ih rest

-- The limit on the steps is never what ends the search, and never what leaves the stages with nothing.
theorem search_within_limit (configuration : SizingConfiguration) (price funding : Decimal) (quantities : List Decimal) (index : Nat) :
    (∀ increments, floorDivideDecimals (quantities.getD index zeroQuantity) (quantityIncrement configuration) = .ok increments →
      ∃ steps outcome, SearchRuns (affordableIncrements configuration price quantities funding index) 0 increments steps outcome ∧
        steps < MAX_SIZING_ADJUSTMENT_SEARCH_STEPS ∧
        searchIncrements (affordableIncrements configuration price quantities funding index) MAX_SIZING_ADJUSTMENT_SEARCH_STEPS 0 increments =
          outcome.map some) ∧
    maxAffordableStageQuantity configuration price quantities funding index ≠ .ok none ∧
    ∀ count, adjustQuantities configuration price funding count quantities ≠ .ok none :=
  ⟨fun _ => search_ends,search_found,fun _ => adjusting_found⟩

-- Four increments, of which three are affordable, take two steps.
theorem search_within_limit_sample : ∃ steps outcome,
    SearchRuns (affordableIncrements wholeConfiguration (.ofNat 2) [.ofNat 4] (.ofNat 7) 0) 0 4 steps outcome ∧
      steps < MAX_SIZING_ADJUSTMENT_SEARCH_STEPS ∧
      searchIncrements (affordableIncrements wholeConfiguration (.ofNat 2) [.ofNat 4] (.ofNat 7) 0) MAX_SIZING_ADJUSTMENT_SEARCH_STEPS 0 4 =
        outcome.map some :=
  (search_within_limit wholeConfiguration (.ofNat 2) (.ofNat 7) [.ofNat 4] 0).1 4 (by decide +kernel)

end Configuration
end SwapMonitor.Sizing
