import SwapMonitor.Scoring.ContextScores
import SwapMonitor.Indicators.ContextRatios
import SwapMonitor.Indicators.SameTime
import SwapMonitor.Indicators.AverageBounds

namespace SwapMonitor
open Clocks Exceptions Scoring Indicators

-- What two callers get who differ in nothing but their decimal contexts: the same, or the same error.
def ScoresAlike (request : ScoringRequest) : Prop := ∀ c c', Agree ScoringResult.Same (score c request) (score c' request)

section Indicators
variable {Zone : Type} [DecidableEq Zone] [Tzinfo Zone]

def AveragesAlike (indicator : SessionVwapIndicator Zone) (snapshot : Indicators.MarketDataSnapshot Zone) : Prop :=
  ∀ c c', indicator.calculate c snapshot = indicator.calculate c' snapshot

def RatiosAlike (indicator : SameTimeVolumeRatioIndicator Zone) (snapshot : Indicators.MarketDataSnapshot Zone) : Prop :=
  ∀ c c', indicator.calculate c snapshot = indicator.calculate c' snapshot

def AggregatesAlike (calendar : TradingCalendarProvider Zone) (market : String) (width : Int) (bars : List (Bar Zone)) : Prop :=
  ∀ c c', Agree (List.Forall₂ (Bar.Alike fun _ => True)) (aggregateBars c calendar market width bars) (aggregateBars c' calendar market width bars)

-- What is computed outside the fixed context has one digit, or does not matter. That is needed where the default context
-- has a result, but for a ratio, whose errors may cancel out, and an average that is too small to have all its digits.
structure ContextIndependence (Zone : Type) [DecidableEq Zone] [Tzinfo Zone] : Prop where
  scores : ∀ request, ScoreSettled request → ScoresAlike request
  scored : ∀ request result, score .default request = .ok result → ScoresAlike request → ScoreSettled request
  averages : ∀ (indicator : SessionVwapIndicator Zone) snapshot, VwapSettled indicator snapshot → AveragesAlike indicator snapshot
  averaged : ∀ (indicator : SessionVwapIndicator Zone) snapshot result, indicator.calculate .default snapshot = .ok result →
    (∀ v, result.value = some v → NORMAL ≤ |v.toRat|) → AveragesAlike indicator snapshot → VwapSettled indicator snapshot
  ratios : ∀ (indicator : SameTimeVolumeRatioIndicator Zone) snapshot, RatioSettled indicator snapshot → RatiosAlike indicator snapshot
  aggregates : ∀ (calendar : TradingCalendarProvider Zone) market width bars,
    BarsSettled (fun _ => True) calendar market width bars → AggregatesAlike calendar market width bars
  aggregated : ∀ (calendar : TradingCalendarProvider Zone) market width bars out,
    aggregateBars .default calendar market width bars = .ok out → AggregatesAlike calendar market width bars →
      BarsSettled (fun _ => True) calendar market width bars

theorem context_independence : ContextIndependence Zone where
  scores _ settled := score_agrees settled
  scored _ _ returned alike := score_settled returned (alike .default)
  averages _ _ settled := vwap_same settled
  averaged indicator snapshot result returned normal alike := by
    refine vwap_settled (fun c => ?_) normal
    rw [alike c .default,returned]
  ratios _ _ settled c c' := (ratio_default settled c).symm.trans (ratio_default settled c')
  aggregates _ _ _ _ settled _ _ := aggregate_agrees settled
  aggregated _ _ _ _ _ returned alike := aggregate_settled returned (alike .default)

end Indicators

-- A cost of a quarter of its range.
def quarter : ScoringRequest :=
  ⟨samplePlan,sampleGroup,5,sampleConfiguration,[⟨10,[("strength",.decimal (.ofNat 7)),("cost",.decimal ⟨false,25,-1⟩)]⟩],by decide,by decide⟩

def nextJoint : Bar Offset := sampleBar 7 (DAY + 9 * HOUR) (DAY + 11 * HOUR) 140 (by decide +kernel)

def valueOf (outcome : Except PyError (IndicatorResult Offset)) : Option Decimal := outcome.toOption.bind fun result => result.value

-- One digit makes 0.7 of three quarters, and 100 of two volumes of 100 and 40.
theorem context_dependence : ¬ScoresAlike quarter ∧ ¬AveragesAlike sampleVwap currentMorning ∧
    ¬RatiosAlike (sampleRatio [previousMorning]) currentMorning ∧ ¬AggregatesAlike twoSessions "TWSE" (2 * HOUR) [nextEarly,nextLate] := by
  refine ⟨?_,?_,?_,?_⟩
  · intro alike
    have returns : (score .default quarter).toBool = true := by with_unfolding_all rfl
    cases scored : score .default quarter with
    | error error =>
      rw [scored] at returns
      cases returns
    | ok result =>
      have turned := score_turns scored (alike .default) _ (List.mem_cons_self ..) cost (List.mem_cons_of_mem _ (List.mem_cons_self ..))
        rfl ⟨false,25,-1⟩ ⟨false,25,-2⟩ rfl (by with_unfolding_all rfl)
      have digit : ONE_DIGIT.subtract (.ofNat 1) ⟨false,25,-2⟩ = .ok ⟨false,7,-1⟩ := by with_unfolding_all rfl
      have rounded := context_subtracted digit
      have unit : (Decimal.ofNat 1).toRat = 1 := by decide +kernel
      have part : (⟨false,25,-2⟩ : Decimal).toRat = 1 / 4 := by decide +kernel
      have tenths : (⟨false,7,-1⟩ : Decimal).toRat = 7 / 10 := by decide +kernel
      rw [unit,round_held turned,part,tenths] at rounded
      norm_num at rounded
  · intro alike
    have value : valueOf (sampleVwap.calculate .default currentMorning) = some ⟨false,1066666666666666666666666667,-26⟩ := by
      with_unfolding_all rfl
    have digit : valueOf (sampleVwap.calculate ONE_DIGIT currentMorning) = some ⟨false,1493333333333333333333333334,-26⟩ := by
      with_unfolding_all rfl
    rw [alike .default ONE_DIGIT,digit] at value
    cases value
  · intro alike
    have value : valueOf ((sampleRatio [previousMorning]).calculate .default currentMorning) = some (.ofNat 2) := by
      with_unfolding_all rfl
    have digit : valueOf ((sampleRatio [previousMorning]).calculate ONE_DIGIT currentMorning) =
        some ⟨false,1428571428571428571428571429,-27⟩ := by with_unfolding_all rfl
    rw [alike .default ONE_DIGIT,digit] at value
    cases value
  · intro alike
    have value : aggregateBars .default twoSessions "TWSE" (2 * HOUR) [nextEarly,nextLate] = .ok [nextJoint] := by with_unfolding_all rfl
    have digit : (aggregateBars ONE_DIGIT twoSessions "TWSE" (2 * HOUR) [nextEarly,nextLate]).toOption.map (fun bars => bars.map fun bar =>
        bar.volume) = some [⟨false,1,2⟩] := by with_unfolding_all rfl
    obtain ⟨bars,returned,each⟩ := agree_returned (alike .default ONE_DIGIT) value
    rw [returned] at digit
    have volumes : bars.map (fun bar => bar.volume) = [⟨false,1,2⟩] := Option.some.inj digit
    cases each with
    | @cons _ bar _ _ head tail =>
      have own : bar.volume = ⟨false,1,2⟩ := (List.cons.inj volumes).1
      have same := head.volume trivial
      rw [own] at same
      exact absurd same (by unfold SameNumber; decide +kernel)

-- Inputs whose running totals have one digit.
section Samples
variable {needed : Bar Offset → Prop}

theorem volumes_settled {needed : Prop} {volumes : List Decimal} (adds : AddsDigits 0 volumes) : VolumesSettled needed volumes :=
  have zero : (Decimal.ofNat 0).toRat = 0 := (toRat_zero _).mpr rfl
  ⟨fun _ => adds,fun _ _ => digits_summed (by rwa [zero])⟩

theorem pair_settled {a b : Bar Offset} (lo hi : Datetime Offset)
    (made : [a,b].mapM (bucketBar twoSessions "TWSE" (2 * HOUR)) = .ok [⟨a,lo,hi⟩,⟨b,lo,hi⟩])
    (grouped : groupby [⟨a,lo,hi⟩,⟨b,lo,hi⟩] = [[⟨a,lo,hi⟩,⟨b,lo,hi⟩]]) (order : a.startsAt.wall ≤ b.startsAt.wall)
    (adds : AddsDigits 0 [a.volume,b.volume]) : BarsSettled needed twoSessions "TWSE" (2 * HOUR) [a,b] := by
  intro first rest bucketed same made'
  obtain rfl := Except.ok.inj (made.symm.trans made')
  rw [grouped]
  refine ⟨fun start others sorted _ => ?_,fun _ => trivial⟩
  have kept : Collections.sortBy (fun item : BucketedBar Offset => item.bar.startsAt.wall) [⟨a,lo,hi⟩,⟨b,lo,hi⟩] = [⟨a,lo,hi⟩,⟨b,lo,hi⟩] :=
    Collections.sortBy_sorted (List.pairwise_pair.mpr order)
  rw [← sorted,kept]
  exact volumes_settled adds

theorem early_late_digits : AddsDigits 0 [early.volume,late.volume] := by
  have volume : early.volume.toRat = 30 := by decide +kernel
  have volume' : late.volume.toRat = 40 := by decide +kernel
  refine ⟨?_,?_,trivial⟩
  · rw [volume]
    exact ⟨3,1,by norm_num,by decide,by decide,by decide⟩
  · rw [volume,volume']
    exact ⟨7,1,by norm_num,by decide,by decide,by decide⟩

theorem early_late_settled : BarsSettled needed twoSessions "TWSE" (2 * HOUR) [early,late] :=
  pair_settled (localTime (9 * HOUR)) (localTime (11 * HOUR)) (by with_unfolding_all rfl) (by with_unfolding_all rfl)
    (by decide) early_late_digits

theorem morning_settled : VwapSettled sampleVwap previousMorning := by
  intro active _ found
  have located : activeSession sampleVwap previousMorning.request (sampleVwap.ownBars previousMorning) =
      .ok (some ⟨late,morning,[early,late],none⟩) := by with_unfolding_all rfl
  obtain rfl := Option.some.inj (Except.ok.inj (located.symm.trans found))
  exact volumes_settled early_late_digits

def quietEarly : Bar Offset := sampleBar 7 (DAY + 9 * HOUR) (DAY + 10 * HOUR) 20 (by decide +kernel)
def quietJoint : Bar Offset := sampleBar 7 (DAY + 9 * HOUR) (DAY + 11 * HOUR) 60 (by decide +kernel)
def dayMorning : SessionLocation Offset := ⟨1,0,marketSession (1 * DAY + 9 * HOUR) (1 * DAY + 12 * HOUR) (by unfold HOUR; omega)⟩
def quietMorning : Indicators.MarketDataSnapshot Offset := morningSnapshot 1 [quietEarly,nextLate]

theorem quiet_settled : BarsSettled needed twoSessions "TWSE" (2 * HOUR) [quietEarly,nextLate] := by
  have volume : quietEarly.volume.toRat = 20 := by decide +kernel
  have volume' : nextLate.volume.toRat = 40 := by decide +kernel
  refine pair_settled (localTime (DAY + 9 * HOUR)) (localTime (DAY + 11 * HOUR)) (by with_unfolding_all rfl)
    (by with_unfolding_all rfl) (by decide) ⟨?_,?_,trivial⟩
  · rw [volume]
    exact ⟨2,1,by norm_num,by decide,by decide,by decide⟩
  · rw [volume,volume']
    exact ⟨6,1,by norm_num,by decide,by decide,by decide⟩

theorem ratio_settled : RatioSettled (sampleRatio [previousMorning]) quietMorning := by
  intro locations location gap _ requested last covered
  have only : requestedSessionLocations twoSessions "TWSE" quietMorning.request.intradayStart quietMorning.request.intradayEnd =
      .ok [dayMorning] := by with_unfolding_all rfl
  obtain rfl := Except.ok.inj (only.symm.trans requested)
  obtain rfl := Option.some.inj last
  refine ⟨quiet_settled,?_⟩
  intro bars requiredEnd located currentBar _ made required placed found
  have joined : aggregateBars .default twoSessions "TWSE" (2 * HOUR) [quietEarly,nextLate] = .ok [quietJoint] := by with_unfolding_all rfl
  obtain rfl := Except.ok.inj (joined.symm.trans made)
  have places : locateBars twoSessions "TWSE" [quietJoint] = .ok [(quietJoint,dayMorning)] := by with_unfolding_all rfl
  obtain rfl := Except.ok.inj (places.symm.trans placed)
  have ends : requiredCurrentEnd dayMorning quietMorning = .ok (localTime (1 * DAY + 11 * HOUR)) := by with_unfolding_all rfl
  obtain rfl := Except.ok.inj (ends.symm.trans required)
  have current : currentBarFrom dayMorning.session.closesAt.tzinfo (localTime (1 * DAY + 11 * HOUR))
      (locatedIn [(quietJoint,dayMorning)] dayMorning) = .ok (some quietJoint) := by with_unfolding_all rfl
  obtain rfl := Option.some.inj (Except.ok.inj (current.symm.trans found))
  intro byDate dates known expected _
  have history : historyBySessionDate (sampleRatio [previousMorning]).toRatioSettings [previousMorning] 1 =
      .ok (Function.update (fun _ => none) 0 (some previousMorning)) := by with_unfolding_all rfl
  obtain rfl := Except.ok.inj (history.symm.trans known)
  have before : previousTradingDates (sampleRatio [previousMorning]).toRatioSettings 1 1 = .ok [0] := by with_unfolding_all rfl
  obtain rfl := Except.ok.inj (before.symm.trans expected)
  refine ⟨⟨?_,fun _ => trivial⟩,?_⟩
  · intro snapshot dated _ _
    obtain rfl : previousMorning = snapshot := Option.some.inj dated
    intro _ _ _ _
    exact early_late_settled
  · intro gathered collected _
    have one : gather (historyOutcome .default (sampleRatio [previousMorning]).toRatioSettings
        (Function.update (fun _ => none) 0 (some previousMorning)) quietJoint dayMorning) ⟨[],[],[],[],[],[],[]⟩ [0] =
        .ok (.inr ⟨[⟨false,70,0⟩],[],[],[],[],[],[]⟩) := by with_unfolding_all rfl
    obtain rfl := Sum.inr.inj (Except.ok.inj (one.symm.trans collected))
    have volume : (⟨false,70,0⟩ : Decimal).toRat = 70 := by decide +kernel
    refine ⟨?_,trivial⟩
    rw [volume]
    exact ⟨7,1,by norm_num,by decide,by decide,by decide⟩

-- One candidate, with a cost of two tenths of its range.
def lone : ScoringRequest := ⟨samplePlan,sampleGroup,5,sampleConfiguration,[sampleMetrics 10 7 2],by decide,by decide⟩

theorem lone_settled : ScoreSettled lone := by
  constructor
  · refine reached_all fun candidate member _ => reached_all fun factor place => ?_
    obtain rfl := List.mem_singleton.mp member
    intro way rawValue normalized supplied normalizes
    rcases List.mem_cons.mp place with rfl | later
    · cases way
    · obtain rfl := List.mem_singleton.mp later
      obtain rfl : .ofNat 2 = rawValue := Metric.decimal.inj (Option.some.inj supplied)
      have tenths : cost.normalization.normalize (.ofNat 2) = .ok ⟨false,2,-1⟩ := by with_unfolding_all rfl
      obtain rfl := Except.ok.inj (tenths.symm.trans normalizes)
      have part : (⟨false,2,-1⟩ : Decimal).toRat = 2 / 10 := by decide +kernel
      rw [part]
      exact ⟨8,-1,by norm_num,by decide,by decide,by decide⟩
  · intro outcomes made
    have scores : (lone.candidates.mapM (scoreCandidate .default lone)).toOption.map (fun outcomes => outcomes.map fun outcome => outcome.score) =
        some [some ⟨false,38,-1⟩] := by with_unfolding_all rfl
    rw [made] at scores
    obtain ⟨outcome,rest,rfl,own,others⟩ := List.map_eq_cons_iff.mp (Option.some.inj scores)
    obtain rfl := List.map_eq_nil_iff.mp others
    have points : outcome.points = 38 / 10 := by
      rw [CandidateScore.points,own]
      decide +kernel
    have only : ∀ candidate ∈ [outcome].filter CandidateScore.isRanked, candidate = outcome := fun _ member =>
      List.mem_singleton.mp (List.mem_filter.mp member).1
    constructor
    · intro candidate member
      obtain rfl := only candidate member
      have five : OneDigit 5 := ⟨5,0,by norm_num,by decide,by decide,by decide⟩
      have most := holds_within five
      rw [points]
      norm_num [abs_of_pos] at most ⊢
      linarith
    · intro a inA b inB less
      rw [only a inA,only b inB] at less
      exact absurd less (lt_irrefl _)

end Samples

theorem normal_average : ∃ result, sampleVwap.calculate .default previousMorning = .ok result ∧
    ∀ v, result.value = some v → NORMAL ≤ |v.toRat| := by
  have value : valueOf (sampleVwap.calculate .default previousMorning) = some ⟨false,1066666666666666666666666667,-26⟩ := by
    with_unfolding_all rfl
  cases returned : sampleVwap.calculate .default previousMorning with
  | error error =>
    rw [returned] at value
    cases value
  | ok result =>
    rw [returned] at value
    refine ⟨result,rfl,fun v own => ?_⟩
    obtain rfl := Option.some.inj (value.symm.trans own)
    have small : NORMAL ≤ 1 := zpow_le_one_of_nonpos₀ (by norm_num) (by decide)
    have large : (1 : ℚ) ≤ |(⟨false,1066666666666666666666666667,-26⟩ : Decimal).toRat| := by decide +kernel
    exact small.trans large

theorem context_independence_sample : (ScoresAlike lone ∧ ScoreSettled lone) ∧
    (AveragesAlike sampleVwap previousMorning ∧ VwapSettled sampleVwap previousMorning) ∧
    RatiosAlike (sampleRatio [previousMorning]) quietMorning ∧
    AggregatesAlike twoSessions "TWSE" (2 * HOUR) [early,late] ∧ BarsSettled (fun _ => True) twoSessions "TWSE" (2 * HOUR) [early,late] := by
  have whole : ContextIndependence Offset := context_independence
  have scores := whole.scores lone lone_settled
  have averages := whole.averages sampleVwap previousMorning morning_settled
  have aggregates := whole.aggregates twoSessions "TWSE" (2 * HOUR) [early,late] early_late_settled
  have returns : (score .default lone).toBool = true := by with_unfolding_all rfl
  obtain ⟨average,averaged,normal⟩ := normal_average
  cases scored : score .default lone with
  | error error =>
    rw [scored] at returns
    cases returns
  | ok result =>
    exact ⟨⟨scores,whole.scored lone result scored scores⟩,
      ⟨averages,whole.averaged sampleVwap previousMorning average averaged normal averages⟩,
      whole.ratios (sampleRatio [previousMorning]) quietMorning ratio_settled,aggregates,
      whole.aggregated twoSessions "TWSE" (2 * HOUR) [early,late] [joint] sample_aggregated aggregates⟩

end SwapMonitor
