import SwapMonitor.Indicators.ContextBars
import SwapMonitor.Indicators.Averages

namespace SwapMonitor.Indicators
open Clocks Collections Exceptions

variable {Zone : Type} [DecidableEq Zone] [Tzinfo Zone]

section Numbers
variable {a a' b b' : Decimal}

theorem same_zero (same : SameNumber a a') : isZero a = isZero a' := by
  unfold isZero
  rw [decide_eq_decide,zero_agrees same]

theorem same_canonical (same : SameNumber a a') : canonicalDecimal a = canonicalDecimal a' := Rules.canonical_same same

theorem same_quotient (left : SameNumber a a') (right : SameNumber b b') : divideDecimals a b = divideDecimals a' b' := by
  unfold divideDecimals
  rw [same_zero right]
  refine congrArg (fun rest => raiseIf (isZero b') .indicatorInputError "denominator must not be zero" >>= rest) (funext fun _ => ?_)
  exact agree_equal (divide_agrees left right) fun _ _ _ _ same => congrArg pure (same_canonical same)

end Numbers

-- What a session is averaged from, when the average is wanted.
def ActiveSettled (active : ActiveSession Zone) : Prop := VolumesSettled (active.trailing = none) (active.bars.map fun bar => bar.volume)

-- The volumes of the session that is active last are added without a rounding.
def VwapSettled (indicator : SessionVwapIndicator Zone) (snapshot : MarketDataSnapshot Zone) : Prop :=
  ∀ active, snapshot.isActionable = true → activeSession indicator snapshot.request (indicator.ownBars snapshot) = .ok (some active) →
    ActiveSettled active

theorem average_same {active : ActiveSession Zone} (settled : ActiveSettled active) (key : String) (c c' : DecimalContext) :
    sessionAverage c key active = sessionAverage c' key active := by
  unfold sessionAverage
  refine agree_equal (volumes_agree settled) fun total total' _ _ same => ?_
  dsimp only
  cases trailing : active.trailing with
  | some gap => rfl
  | none =>
    have equal := same trailing
    dsimp only
    rw [same_zero equal]
    split
    · rfl
    · have value : weightedAverage active.bars total = weightedAverage active.bars total' := by
        unfold weightedAverage
        refine congrArg _ (funext fun weighted => ?_)
        exact agree_equal (divide_agrees rfl equal) fun _ _ _ _ same => congrArg pure (same_canonical same)
      rw [value]

theorem vwap_same {indicator : SessionVwapIndicator Zone} {snapshot : MarketDataSnapshot Zone} (settled : VwapSettled indicator snapshot)
    (c c' : DecimalContext) : indicator.calculate c snapshot = indicator.calculate c' snapshot := by
  unfold SessionVwapIndicator.calculate
  split
  · rfl
  rename_i actionable
  dsimp only
  split
  · rfl
  cases found : activeSession indicator snapshot.request
    (snapshot.intradayBars.filter fun bar => bar.instrumentId = indicator.instrumentId) with
  | error error => rfl
  | ok active =>
    cases active with
    | none => rfl
    | some active => exact average_same (settled active (by simpa using actionable) found) _ c c'

-- The contexts of one digit tell whether the volumes are settled, when the average is not too small to tell.
section Extremes
variable {active : ActiveSession Zone} {key : String}

theorem average_parts {c : DecimalContext} {result : IndicatorResult Zone} (returned : sessionAverage c key active = .ok result) :
    ∃ total, c.sum (.ofNat 0) (active.bars.map fun bar => bar.volume) = .ok total ∧
      (active.trailing = none → result.value = none → total.toRat = 0) := by
  obtain ⟨total,summed,rest⟩ := bind_ok.mp returned
  refine ⟨total,summed,fun trailing unavailable => ?_⟩
  dsimp only at rest
  rw [trailing] at rest
  dsimp only at rest
  split at rest
  · rename_i zero
    exact (toRat_zero _).mpr (of_decide_eq_true zero)
  · obtain ⟨value,_,created⟩ := bind_ok.mp rest
    have own := congrArg ResultFields.value (create_fields created)
    rw [unavailable] at own
    cases own

theorem quotient_same {bars : List (Bar Zone)} {s t v : Decimal} (one : weightedAverage bars s = .ok v) (two : weightedAverage bars t = .ok v) :
    ∃ w : ℚ, v.toRat = DecimalContext.default.round (w / s.toRat) ∧
      DecimalContext.default.round (w / s.toRat) = DecimalContext.default.round (w / t.toRat) ∧
        |DecimalContext.default.round (w / s.toRat)| ≤ DecimalContext.default.greatest := by
  simp only [weightedAverage,bind_ok,pure_ok] at one two
  obtain ⟨w,summed,average,divided,same⟩ := one
  obtain ⟨w',summed',average',divided',same'⟩ := two
  obtain rfl : w = w' := Except.ok.inj (summed.symm.trans summed')
  have value : v.toRat = average.toRat := by rw [← same,canonicalDecimal,Rules.canonical_value]
  have value' : v.toRat = average'.toRat := by rw [← same',canonicalDecimal,Rules.canonical_value]
  obtain ⟨nonzero,rounded⟩ := divided_round divided
  obtain ⟨_,rounded'⟩ := divided_round divided'
  refine ⟨w.toRat,value.trans rounded,?_,?_⟩
  · rw [← rounded,← rounded',← value,← value']
  · rw [← rounded]
    have divisor : s.coefficient ≠ 0 := fun zero => nonzero ((toRat_zero s).mpr zero)
    rw [divideDecimal,if_neg divisor] at divided
    obtain ⟨d,fixed,_⟩ := divide_fixed w divisor
    rw [fixed,← default_fix] at divided
    exact holds_within (fix_holds divided)

theorem average_settled {result : IndicatorResult Zone} (named : blank key = false) (same : ∀ c, sessionAverage c key active = .ok result)
    (normal : ∀ v, result.value = some v → NORMAL ≤ |v.toRat|) : ActiveSettled active := by
  have nonneg : ∀ volume ∈ active.bars.map fun bar => bar.volume, 0 ≤ volume.toRat := by
    intro volume member
    obtain ⟨bar,_,rfl⟩ := List.mem_map.mp member
    exact bar.valid.volume
  have zero : (Decimal.ofNat 0).toRat = 0 := (toRat_zero _).mpr rfl
  obtain ⟨s,summed,none⟩ := average_parts (same ONE_DIGIT)
  obtain ⟨t,summed',none'⟩ := average_parts (same UP_DIGIT)
  obtain ⟨order,settled⟩ := sum_between nonneg zero.ge zero.le zero.ge summed summed'
  constructor
  · intro trailing
    refine (settled ?_).1
    cases value : result.value with
    | none => rw [none trailing value,none' trailing value]
    | some v =>
      by_contra apart
      obtain ⟨_,s',sum,nonzero,averaged⟩ := (average_yields named).mp ⟨result,same ONE_DIGIT,value⟩
      obtain ⟨_,t',sum',_,averaged'⟩ := (average_yields named).mp ⟨result,same UP_DIGIT,value⟩
      obtain rfl : s = s' := Except.ok.inj (summed.symm.trans sum)
      obtain rfl : t = t' := Except.ok.inj (summed'.symm.trans sum')
      obtain ⟨w,average,equal,within⟩ := quotient_same averaged averaged'
      have positive : 0 < s.toRat := lt_of_le_of_ne (sum_nonneg nonneg zero.ge summed) (Ne.symm nonzero)
      have one : OneDigit s.toRat := sums_held (zero ▸ holds_zero _) summed
      have two : UP_DIGIT.Holds t.toRat := sums_held (zero ▸ holds_zero _) summed'
      have small := quotients_apart one two positive (lt_of_le_of_ne order apart) equal within
      rw [← average] at small
      exact absurd (normal v value) (not_le.mpr small)
  · intro _ c
    obtain ⟨total,returned,_⟩ := average_parts (same c)
    exact ⟨total,returned⟩

theorem vwap_settled {indicator : SessionVwapIndicator Zone} {snapshot : MarketDataSnapshot Zone} {result : IndicatorResult Zone}
    (same : ∀ c, indicator.calculate c snapshot = .ok result) (normal : ∀ v, result.value = some v → NORMAL ≤ |v.toRat|) :
    VwapSettled indicator snapshot := by
  intro active actionable found
  refine average_settled (names_given indicator).2 ?_ normal
  intro c
  have returned := same c
  unfold SessionVwapIndicator.calculate at returned
  rw [actionable] at returned
  simp only [Bool.not_true,Bool.false_eq_true,if_false] at returned
  split at returned
  · rename_i none
    have empty : indicator.ownBars snapshot = [] := List.isEmpty_iff.mp none
    rw [empty] at found
    simp only [activeSession,bind_ok] at found
    obtain ⟨_,_,located,locates,_,_,rest⟩ := found
    cases locates
    split at rest
    · cases rest
    · cases rest
  · have opened : activeSession indicator snapshot.request
        (snapshot.intradayBars.filter fun bar => bar.instrumentId = indicator.instrumentId) = .ok (some active) := found
    rw [opened] at returned
    exact returned

end Extremes
end SwapMonitor.Indicators
