import SwapMonitor.Indicators.ContextAverages
import SwapMonitor.Indicators.LookAhead

namespace SwapMonitor.Indicators
open Clocks Collections Exceptions

variable {Zone : Type} [DecidableEq Zone] [Tzinfo Zone]

-- What is alike in all but volumes stands in the same place.
section Places
variable {needed : Bar Zone → Prop} {settings : RatioSettings Zone} {a b : Bar Zone} {bars bars' : List (Bar Zone)}

theorem locate_alike (calendar : TradingCalendarProvider Zone) (market : String) (alike : a.Alike needed b) :
    locateMarketSession calendar market a = locateMarketSession calendar market b := by
  unfold locateMarketSession
  rw [alike.startsAt,alike.endsAt]

theorem geometry_alike (alike : a.Alike needed b) (location : SessionLocation Zone) :
    sessionRelativeGeometry settings a location = sessionRelativeGeometry settings b location := by
  unfold sessionRelativeGeometry
  rw [alike.startsAt,alike.endsAt]

theorem evidence_alike (alike : a.Alike needed b) (location : SessionLocation Zone) :
    ratioEvidence settings a location = ratioEvidence settings b location := by
  unfold ratioEvidence
  rw [alike.startsAt]

theorem locate_agrees (each : List.Forall₂ (Bar.Alike needed) bars bars') :
    Agree (List.Forall₂ fun entry entry' => entry.1.Alike needed entry'.1 ∧ entry.2 = entry'.2)
      (locateBars settings.calendar settings.market bars) (locateBars settings.calendar settings.market bars') := by
  refine agree_related each fun bar bar' alike => ?_
  rw [locate_alike _ _ alike]
  exact agree_check fun location _ => .returned ⟨alike,rfl⟩

theorem located_alike {located located' : List (Bar Zone × SessionLocation Zone)}
    (each : List.Forall₂ (fun entry entry' => entry.1.Alike needed entry'.1 ∧ entry.2 = entry'.2) located located')
    (location : SessionLocation Zone) : List.Forall₂ (Bar.Alike needed) (locatedIn located location) (locatedIn located' location) := by
  unfold locatedIn
  rw [List.forall₂_map_left_iff,List.forall₂_map_right_iff]
  refine (List.rel_filter ?_ each).imp fun _ _ same => same.1
  intro entry entry' same
  simp only [same.2]

theorem latest_alike (each : List.Forall₂ (Bar.Alike needed) bars bars') (location : SessionLocation Zone) :
    latestCompleteEnd location bars = latestCompleteEnd location bars' := by
  have ends : ∀ {rest rest' : List (Bar Zone)} (latest : Datetime Zone), List.Forall₂ (Bar.Alike needed) rest rest' →
      rest.foldl (fun latest bar => latest.maximum bar.endsAt) latest = rest'.foldl (fun latest bar => latest.maximum bar.endsAt) latest := by
    intro rest rest' latest each
    induction each generalizing latest with
    | nil => rfl
    | cons head _ ih => rw [List.foldl_cons,List.foldl_cons,head.endsAt,ih]
  cases each with
  | nil => rfl
  | cons head tail =>
    rw [latestCompleteEnd,latestCompleteEnd,head.endsAt]
    exact ends _ tail

theorem current_agrees (zone : Zone) (requiredEnd : Datetime Zone) (each : List.Forall₂ (Bar.Alike needed) bars bars') :
    Agree (Option.Rel (Bar.Alike needed)) (currentBarFrom zone requiredEnd bars) (currentBarFrom zone requiredEnd bars') := by
  induction each with
  | nil => exact .returned .none
  | cons head _ ih =>
    rw [currentBarFrom,currentBarFrom,head.endsAt]
    refine agree_check fun localEnd _ => ?_
    split
    · exact .returned (.some head)
    · exact ih

end Places

-- An outcome of a date, whatever its volume is written like.
inductive HistoryOutcome.Same : HistoryOutcome → HistoryOutcome → Prop where
  | refl (outcome : HistoryOutcome) : Same outcome outcome
  | volume {value value' : Decimal} : SameNumber value value' → Same (.volume value) (.volume value')

structure Gathered.Same (a b : Gathered) : Prop where
  referenceVolumes : List.Forall₂ SameNumber a.referenceVolumes b.referenceVolumes
  absentDates : a.absentDates = b.absentDates
  incompleteDates : a.incompleteDates = b.incompleteDates
  mismatchedDates : a.mismatchedDates = b.mismatchedDates
  invalidHistory : a.invalidHistory = b.invalidHistory
  intervalMismatchDates : a.intervalMismatchDates = b.intervalMismatchDates
  missingReferenceDates : a.missingReferenceDates = b.missingReferenceDates

theorem add_alike {a b : Gathered} {outcome outcome' : HistoryOutcome} (same : a.Same b) (alike : outcome.Same outcome') (date : Int) :
    (a.add date outcome).Same (b.add date outcome') := by
  obtain ⟨volumes,absent,incomplete,mismatched,invalid,interval,missing⟩ := same
  cases alike with
  | refl outcome =>
    cases outcome with
    | volume value => exact ⟨List.rel_append volumes (.cons rfl .nil),absent,incomplete,mismatched,invalid,interval,missing⟩
    | absent => exact ⟨volumes,by simp only [Gathered.add,absent],incomplete,mismatched,invalid,interval,missing⟩
    | incomplete => exact ⟨volumes,absent,by simp only [Gathered.add,incomplete],mismatched,invalid,interval,missing⟩
    | mismatched => exact ⟨volumes,absent,incomplete,by simp only [Gathered.add,mismatched],invalid,interval,missing⟩
    | invalid message => exact ⟨volumes,absent,incomplete,mismatched,by simp only [Gathered.add,invalid],interval,missing⟩
    | intervalMismatch => exact ⟨volumes,absent,incomplete,mismatched,invalid,by simp only [Gathered.add,interval],missing⟩
    | missing => exact ⟨volumes,absent,incomplete,mismatched,invalid,interval,by simp only [Gathered.add,missing]⟩
  | volume equal => exact ⟨List.rel_append volumes (.cons equal .nil),absent,incomplete,mismatched,invalid,interval,missing⟩

section History
variable {settings : RatioSettings Zone} {currentBar currentBar' : Bar Zone} {location : SessionLocation Zone} {c : DecimalContext}
  {wanted : Bar Zone → Prop}

-- A bar that is compared with the current one.
def ComparedBar (settings : RatioSettings Zone) (currentBar : Bar Zone) (location : SessionLocation Zone) (bar : Bar Zone) : Prop :=
  ∃ own, Matches settings currentBar location bar own

-- What matching_reference_bar hands back, whatever the volume of the bar is written like.
def SameMatch (found found' : Option (Bar Zone) × Bool) : Prop :=
  Option.Rel (fun bar bar' => SameNumber bar.volume bar'.volume) found.1 found'.1 ∧ found.2 = found'.2

theorem matching_agrees {bars bars' : List (Bar Zone)} (each : List.Forall₂ (Bar.Alike (ComparedBar settings currentBar location)) bars bars')
    (mismatch : Bool) : Agree SameMatch
      (matchingFrom settings location.segment (sessionRelativeGeometry settings currentBar location) mismatch bars)
      (matchingFrom settings location.segment (sessionRelativeGeometry settings currentBar location) mismatch bars') := by
  induction each generalizing mismatch with
  | nil => exact .returned ⟨.none,rfl⟩
  | @cons bar bar' rest rest' head _ ih =>
    rw [matchingFrom,matchingFrom,locate_alike _ _ head]
    refine agree_check fun own located => ?_
    dsimp only
    rw [geometry_alike head own]
    split
    · exact ih _
    rename_i segment
    split
    · exact ih _
    split
    · rename_i geometry
      refine .returned ⟨.some (head.volume ⟨own,?_,not_not.mp segment,?_⟩),rfl⟩
      · rw [locate_alike _ _ head,located]
      · rw [geometry_alike head own,geometry]
    · exact ih _

-- The bars of a snapshot of the history are added without a rounding where they are compared.
def SnapshotSettled (settings : RatioSettings Zone) (currentBar : Bar Zone) (location : SessionLocation Zone) (snapshot : MarketDataSnapshot Zone) :
    Prop :=
  ∀ locations, requestedSessionLocations settings.calendar settings.market snapshot.request.intradayStart snapshot.request.intradayEnd =
      .ok locations → locations.isEmpty = false →
    requestedRangeCoverageGap settings.calendar settings.market snapshot.request.intradayStart snapshot.request.intradayEnd
      (settings.ownBars snapshot) = .ok none →
    BarsSettled (ComparedBar settings currentBar location) settings.calendar settings.market settings.barWidth (settings.ownBars snapshot)

theorem reference_agrees {snapshot : MarketDataSnapshot Zone} (settled : SnapshotSettled settings currentBar location snapshot)
    (alike : currentBar.Alike wanted currentBar') (date : Int) : Agree (Sum.LiftRel Eq HistoryOutcome.Same)
      (historicalReference .default settings currentBar location date snapshot)
      (historicalReference c settings currentBar' location date snapshot) := by
  unfold historicalReference
  refine agree_check fun locations requested => ?_
  split
  · exact agree_check fun result _ => .returned (.inl rfl)
  rename_i some
  refine agree_check fun gap covered => ?_
  cases gap with
  | some gap => exact agree_check fun result _ => .returned (.inl rfl)
  | none =>
    dsimp only
    have matching : Agree SameMatch (matchingReferenceBar .default settings snapshot currentBar location)
        (matchingReferenceBar c settings snapshot currentBar' location) := by
      unfold matchingReferenceBar
      refine agree_bind (aggregate_agrees (settled locations requested (Bool.eq_false_iff.mpr some) covered)) fun bars bars' _ each => ?_
      rw [← geometry_alike alike location]
      exact matching_agrees each false
    refine agree_bind matching fun found found' _ same => ?_
    obtain ⟨bars,again⟩ := same
    obtain ⟨bar,mismatch⟩ := found
    obtain ⟨bar',mismatch'⟩ := found'
    obtain rfl : mismatch = mismatch' := again
    cases mismatch with
    | true => exact .returned (.inr (.refl _))
    | false =>
      cases bars with
      | none => exact .returned (.inr (.refl _))
      | some volume => exact .returned (.inr (.volume volume))

def DateSettled (settings : RatioSettings Zone) (byDate : HistoryByDate Zone) (currentBar : Bar Zone) (location : SessionLocation Zone) (date : Int) :
    Prop :=
  ∀ snapshot, byDate date = some snapshot → snapshot.isActionable = true → historyBarDatesMismatch settings snapshot date = .ok false →
    SnapshotSettled settings currentBar location snapshot

theorem outcome_agrees {byDate : HistoryByDate Zone} {date : Int} (settled : DateSettled settings byDate currentBar location date)
    (alike : currentBar.Alike wanted currentBar') : Agree (Sum.LiftRel Eq HistoryOutcome.Same)
      (historyOutcome .default settings byDate currentBar location date) (historyOutcome c settings byDate currentBar' location date) := by
  unfold historyOutcome
  cases known : byDate date with
  | none => exact .returned (.inr (.refl _))
  | some snapshot =>
    dsimp only
    split
    · exact .returned (.inr (.refl _))
    rename_i actionable
    refine agree_check fun mismatched compared => ?_
    split
    · exact .returned (.inr (.refl _))
    rename_i dated
    obtain rfl : mismatched = false := Bool.eq_false_iff.mpr dated
    have agrees := reference_agrees (c := c) (settled snapshot known (by simpa using actionable) compared) alike date
    generalize historicalReference .default settings currentBar location date snapshot = one at agrees
    generalize historicalReference c settings currentBar' location date snapshot = two at agrees
    cases agrees with
    | returned holds => exact .returned holds
    | raised error =>
      dsimp only
      split
      · exact .returned (.inr (.refl _))
      · exact .raised error

omit [DecidableEq Zone] [Tzinfo Zone] in
theorem gather_agrees {outcome outcome' : Int → Except PyError (IndicatorResult Zone ⊕ HistoryOutcome)} {holds : Int → Prop}
    {gathered gathered' : Gathered} {dates : List Int} (same : gathered.Same gathered')
    (each : Reached holds (fun date => ∃ own, outcome date = .ok (.inr own)) dates)
    (step : ∀ date, holds date → Agree (Sum.LiftRel Eq HistoryOutcome.Same) (outcome date) (outcome' date)) :
    Agree (Sum.LiftRel Eq Gathered.Same) (gather outcome gathered dates) (gather outcome' gathered' dates) := by
  induction dates generalizing gathered gathered' with
  | nil => exact .returned (.inr same)
  | cons date rest ih =>
    rw [gather,gather]
    refine agree_bind (step date each.1) fun found found' known alike => ?_
    cases alike with
    | inl equal => exact .returned (.inl equal)
    | inr own => exact ih (add_alike same own date) (each.2 ⟨_,known⟩)

theorem gathered_same {gathered gathered' : Gathered} (same : gathered.Same gathered') (equal : SameNumber currentBar.volume currentBar'.volume)
    (settled : gathered.Complete → AddsDigits 0 gathered.referenceVolumes) (key : String) (evidence : Evidence Zone) :
    gatheredRatio .default key evidence currentBar gathered = gatheredRatio c key evidence currentBar' gathered' := by
  unfold gatheredRatio
  rw [← same.absentDates,← same.incompleteDates,← same.mismatchedDates,← same.invalidHistory,← same.intervalMismatchDates,
    ← same.missingReferenceDates]
  dsimp only
  split
  · rfl
  rename_i invalid
  split
  · rfl
  rename_i interval
  split
  · rfl
  rename_i mismatched
  split
  · rfl
  rename_i absent
  split
  · rfl
  rename_i incomplete
  split
  · rfl
  rename_i missing
  simp only [Bool.not_eq_true',Bool.not_eq_false,List.isEmpty_iff] at invalid interval mismatched absent incomplete missing
  have zero : (Decimal.ofNat 0).toRat = 0 := (toRat_zero _).mpr rfl
  have adds := settled ⟨absent,incomplete,mismatched,invalid,interval,missing⟩
  refine agree_equal (held_sum same.referenceVolumes rfl (by rw [zero]; exact adds)) fun total total' _ _ totals => ?_
  rw [same_quotient totals (rfl : SameNumber (.ofNat gathered.referenceVolumes.length) _),same.referenceVolumes.length_eq]
  refine congrArg _ (funext fun average => ?_)
  rw [same_quotient equal (rfl : SameNumber average average)]

-- The dates of the lookback are settled one after the other, and then their volumes.
structure HistorySettled (settings : RatioSettings Zone) (byDate : HistoryByDate Zone) (currentBar : Bar Zone) (location : SessionLocation Zone)
    (dates : List Int) : Prop where
  dated : Reached (DateSettled settings byDate currentBar location)
    (fun date => ∃ own, historyOutcome .default settings byDate currentBar location date = .ok (.inr own)) dates
  added : ∀ gathered, gather (historyOutcome .default settings byDate currentBar location) ⟨[],[],[],[],[],[],[]⟩ dates = .ok (.inr gathered) →
    gathered.Complete → AddsDigits 0 gathered.referenceVolumes

def CurrentSettled (settings : RatioSettings Zone) (history : List (MarketDataSnapshot Zone)) (currentBar : Bar Zone)
    (location : SessionLocation Zone) : Prop :=
  ∀ byDate dates, historyBySessionDate settings history location.sessionDate = .ok byDate →
    previousTradingDates settings location.sessionDate settings.lookbackDays = .ok dates →
      (dates.length : Int) = settings.lookbackDays → HistorySettled settings byDate currentBar location dates

theorem against_same {history : List (MarketDataSnapshot Zone)} (settled : CurrentSettled settings history currentBar location)
    (alike : currentBar.Alike wanted currentBar') (use : wanted currentBar) :
    ratioAgainst .default settings history currentBar location = ratioAgainst c settings history currentBar' location := by
  unfold ratioAgainst
  rw [evidence_alike alike]
  refine equal_check fun dates expected => ?_
  split
  · rfl
  rename_i enough
  refine equal_check fun byDate known => ?_
  have own := settled byDate dates known expected (not_not.mp enough)
  have start : Gathered.Same ⟨[],[],[],[],[],[],[]⟩ ⟨[],[],[],[],[],[],[]⟩ := ⟨.nil,rfl,rfl,rfl,rfl,rfl,rfl⟩
  refine agree_equal (gather_agrees start own.dated fun date dated => outcome_agrees (c := c) dated alike) fun found found' gathered _ same => ?_
  cases same with
  | inl equal => exact congrArg pure equal
  | inr same => exact equal_check fun evidence _ => gathered_same same (alike.volume use) (own.added _ gathered) settings.key evidence

end History

-- The bar of the current session that ends where the request does.
def EndsRequest (snapshot : MarketDataSnapshot Zone) (location : SessionLocation Zone) (bar : Bar Zone) : Prop :=
  ∃ requiredEnd, requiredCurrentEnd location snapshot = .ok requiredEnd ∧
    (bar.endsAt.astimezone location.session.closesAt.tzinfo).same requiredEnd = true

-- What keeps the caller's context out of a volume ratio: the windows of the bars it compares, and the volumes it averages.
structure SourceSettled (settings : RatioSettings Zone) (history : List (MarketDataSnapshot Zone)) (snapshot : MarketDataSnapshot Zone)
    (location : SessionLocation Zone) (gap : Option (RequestedCoverageGap Zone)) : Prop where
  windows : BarsSettled (fun bar => gap = none ∧ EndsRequest snapshot location bar) settings.calendar settings.market settings.barWidth
    (settings.ownBars snapshot)
  compared : ∀ bars requiredEnd located currentBar, gap = none →
    aggregateBars .default settings.calendar settings.market settings.barWidth (settings.ownBars snapshot) = .ok bars →
    requiredCurrentEnd location snapshot = .ok requiredEnd → locateBars settings.calendar settings.market bars = .ok located →
    currentBarFrom location.session.closesAt.tzinfo requiredEnd (locatedIn located location) = .ok (some currentBar) →
      CurrentSettled settings history currentBar location

def RatioSettled (indicator : SameTimeVolumeRatioIndicator Zone) (snapshot : MarketDataSnapshot Zone) : Prop :=
  ∀ locations location gap, snapshot.isActionable = true →
    requestedSessionLocations indicator.calendar indicator.market snapshot.request.intradayStart snapshot.request.intradayEnd = .ok locations →
    locations.getLast? = some location →
    requestedRangeCoverageGap indicator.calendar indicator.market snapshot.request.intradayStart snapshot.request.intradayEnd
      (indicator.ownBars snapshot) = .ok gap →
    SourceSettled indicator.toRatioSettings indicator.history snapshot location gap

section Calculation
variable {settings : RatioSettings Zone} {history : List (MarketDataSnapshot Zone)} {snapshot : MarketDataSnapshot Zone}
  {location : SessionLocation Zone} {gap : Option (RequestedCoverageGap Zone)} {c : DecimalContext}

theorem from_same {bars bars' : List (Bar Zone)} (settled : SourceSettled settings history snapshot location gap)
    (made : aggregateBars .default settings.calendar settings.market settings.barWidth (settings.ownBars snapshot) = .ok bars)
    (each : List.Forall₂ (Bar.Alike fun bar => gap = none ∧ EndsRequest snapshot location bar) bars bars') :
    ratioFrom .default settings history snapshot ⟨location,gap,bars⟩ = ratioFrom c settings history snapshot ⟨location,gap,bars'⟩ := by
  unfold ratioFrom
  cases gap with
  | some gap => rfl
  | none =>
    dsimp only
    rw [forall₂_empty each]
    split
    · rfl
    refine equal_check fun requiredEnd required => ?_
    refine agree_equal (locate_agrees each) fun located located' known _ same => ?_
    have targets := located_alike same location
    rw [latest_alike targets]
    refine agree_equal (current_agrees _ requiredEnd targets) fun current current' search _ alike => ?_
    cases alike with
    | none => rfl
    | some alike =>
      exact against_same (settled.compared _ requiredEnd located _ rfl made required known search) alike
        ⟨rfl,requiredEnd,required,(current_found search).2⟩

-- The sources of two contexts, which differ in volumes that do not matter.
def SameSource (settings : RatioSettings Zone) (history : List (MarketDataSnapshot Zone)) (snapshot : MarketDataSnapshot Zone)
    (source source' : Option (CurrentSource Zone)) : Prop :=
  source = none ∧ source' = none ∨ ∃ location gap bars bars', SourceSettled settings history snapshot location gap ∧
    aggregateBars .default settings.calendar settings.market settings.barWidth (settings.ownBars snapshot) = .ok bars ∧
    source = some ⟨location,gap,bars⟩ ∧ source' = some ⟨location,gap,bars'⟩ ∧
      List.Forall₂ (Bar.Alike fun bar => gap = none ∧ EndsRequest snapshot location bar) bars bars'

theorem source_agrees {indicator : SameTimeVolumeRatioIndicator Zone} (settled : RatioSettled indicator snapshot)
    (actionable : snapshot.isActionable = true) : Agree (SameSource indicator.toRatioSettings indicator.history snapshot)
      (currentSource .default indicator.toRatioSettings snapshot) (currentSource c indicator.toRatioSettings snapshot) := by
  unfold currentSource
  refine agree_check fun locations requested => ?_
  cases last : locations.getLast? with
  | none => exact .returned (.inl ⟨rfl,rfl⟩)
  | some location =>
    refine agree_check fun gap covered => ?_
    have own := settled locations location gap actionable requested last covered
    refine agree_bind (aggregate_agrees own.windows) fun bars bars' made each => .returned (.inr ?_)
    exact ⟨location,gap,bars,bars',own,made,rfl,rfl,each⟩

-- Every context calculates what the default one does.
theorem ratio_default {indicator : SameTimeVolumeRatioIndicator Zone} (settled : RatioSettled indicator snapshot) (c : DecimalContext) :
    indicator.calculate .default snapshot = indicator.calculate c snapshot := by
  unfold SameTimeVolumeRatioIndicator.calculate
  dsimp only
  split
  · rfl
  rename_i actionable
  have agrees := source_agrees (c := c) settled (by simpa using actionable)
  generalize currentSource .default indicator.toRatioSettings snapshot = source at agrees ⊢
  generalize currentSource c indicator.toRatioSettings snapshot = source' at agrees ⊢
  cases agrees with
  | raised error => rfl
  | returned same =>
    rcases same with ⟨rfl,rfl⟩ | ⟨location,gap,bars,bars',own,made,rfl,rfl,each⟩
    · rfl
    · exact from_same own made each

end Calculation
end SwapMonitor.Indicators
