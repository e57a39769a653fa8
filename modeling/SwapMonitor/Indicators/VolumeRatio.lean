import SwapMonitor.Indicators.Bars
import SwapMonitor.Indicators.Results

namespace SwapMonitor.Indicators
open Clocks Collections

variable {Zone : Type} [DecidableEq Zone] [Tzinfo Zone]

def MAX_CALENDAR_LOOKBACK_DAYS : Nat := 3660

-- What an indicator is given beside its history.
structure RatioSettings (Zone : Type) [DecidableEq Zone] [Tzinfo Zone] where
  calendar : TradingCalendarProvider Zone
  market : String
  instrumentId : UUID
  barWidth : Int
  lookbackDays : Int
  key : String

def RatioSettings.postInit (settings : RatioSettings Zone) : Except PyError Unit := do
  raiseIf (blank settings.market) .valueError "market must not be blank"
  raiseIf (decide (settings.barWidth ≤ 0)) .valueError "bar_width must be positive"
  raiseIf (decide (settings.lookbackDays ≤ 0)) .valueError "lookback_days must be positive"
  raiseIf (blank settings.key) .valueError "indicator key must not be blank"

structure SameTimeVolumeRatioIndicator (Zone : Type) [DecidableEq Zone] [Tzinfo Zone] extends RatioSettings Zone where
  history : List (MarketDataSnapshot Zone)
  accepted : toRatioSettings.postInit = .ok ()

-- The market date on which the request of a snapshot starts.
def RatioSettings.requestDate (settings : RatioSettings Zone) (snapshot : MarketDataSnapshot Zone) : Int :=
  (snapshot.request.intradayStart.astimezone (settings.calendar.marketTimezone settings.market)).date

def RatioSettings.ownBars (settings : RatioSettings Zone) (snapshot : MarketDataSnapshot Zone) : List (Bar Zone) :=
  snapshot.intradayBars.filter fun bar => bar.instrumentId = settings.instrumentId

-- if calendar.is_holiday(market, candidate): continue; if calendar.sessions_for(market, candidate): ...
def RatioSettings.trades (settings : RatioSettings Zone) (date : Int) : Bool :=
  !settings.calendar.isHoliday settings.market date && !(settings.calendar.sessionsFor settings.market date).isEmpty

-- The loop of _previous_trading_dates, with the dates found so far and the days left.
def tradingDatesFrom (settings : RatioSettings Zone) (count : Int) : List Int → Int → Nat → Except PyError (List Int)
  | found,_,0 => pure found
  | found,following,left + 1 => do
    let candidate ← addDays following (-1)
    if settings.trades candidate then
      if ((found ++ [candidate]).length : Int) = count then pure (found ++ [candidate])
      else tradingDatesFrom settings count (found ++ [candidate]) candidate left
    else tradingDatesFrom settings count found candidate left

def previousTradingDates (settings : RatioSettings Zone) (before count : Int) : Except PyError (List Int) :=
  tradingDatesFrom settings count [] before MAX_CALENDAR_LOOKBACK_DAYS

abbrev HistoryByDate (Zone : Type) [DecidableEq Zone] [Tzinfo Zone] := Int → Option (MarketDataSnapshot Zone)

-- The loop of _history_by_session_date.
def historyFrom (settings : RatioSettings Zone) (currentDate : Int) (result : HistoryByDate Zone) :
    List (MarketDataSnapshot Zone) → Except PyError (HistoryByDate Zone)
  | [] => pure result
  | snapshot :: rest => do
    let localStart ← astimezone snapshot.request.intradayStart (settings.calendar.marketTimezone settings.market)
    let sessionDate := localStart.date
    if currentDate ≤ sessionDate then historyFrom settings currentDate result rest
    else if (result sessionDate).isSome then
      raise .indicatorInputError "history must contain at most one snapshot per market session date"
    else historyFrom settings currentDate (Function.update result sessionDate (some snapshot)) rest

def historyBySessionDate (settings : RatioSettings Zone) (history : List (MarketDataSnapshot Zone)) (currentDate : Int) :
    Except PyError (HistoryByDate Zone) :=
  historyFrom settings currentDate (fun _ => none) history

-- any of a generator: no bar is converted after the first of another date.
def datesMismatch (marketTimezone : Zone) (expectedDate : Int) : List (Bar Zone) → Except PyError Bool
  | [] => pure false
  | bar :: rest => do
    let localStart ← astimezone bar.startsAt marketTimezone
    if localStart.date ≠ expectedDate then pure true else datesMismatch marketTimezone expectedDate rest

def historyBarDatesMismatch (settings : RatioSettings Zone) (snapshot : MarketDataSnapshot Zone) (expectedDate : Int) : Except PyError Bool :=
  datesMismatch (settings.calendar.marketTimezone settings.market) expectedDate (settings.ownBars snapshot)

-- _session_relative_geometry; the bar was converted when it was located.
def sessionRelativeGeometry (settings : RatioSettings Zone) (bar : Bar Zone) (location : SessionLocation Zone) : Int × Int :=
  let marketTimezone := settings.calendar.marketTimezone settings.market
  ((bar.startsAt.astimezone marketTimezone).since location.session.opensAt,(bar.endsAt.astimezone marketTimezone).since location.session.opensAt)

-- The loop of _matching_reference_bar.
def matchingFrom (settings : RatioSettings Zone) (segment : Nat) (currentGeometry : Int × Int) :
    Bool → List (Bar Zone) → Except PyError (Option (Bar Zone) × Bool)
  | intervalMismatch,[] => pure (none,intervalMismatch)
  | intervalMismatch,bar :: rest => do
    let location ← locateMarketSession settings.calendar settings.market bar
    let geometry := sessionRelativeGeometry settings bar location
    if location.segment ≠ segment then matchingFrom settings segment currentGeometry intervalMismatch rest
    else if geometry.1 ≠ currentGeometry.1 then matchingFrom settings segment currentGeometry intervalMismatch rest
    else if geometry = currentGeometry then pure (some bar,false)
    else matchingFrom settings segment currentGeometry true rest

def matchingReferenceBar (context : DecimalContext) (settings : RatioSettings Zone) (snapshot : MarketDataSnapshot Zone)
    (currentBar : Bar Zone) (currentLocation : SessionLocation Zone) : Except PyError (Option (Bar Zone) × Bool) := do
  let historicalBars ← aggregateBars context settings.calendar settings.market settings.barWidth (settings.ownBars snapshot)
  matchingFrom settings currentLocation.segment (sessionRelativeGeometry settings currentBar currentLocation) false historicalBars

-- _evidence
def ratioEvidence (settings : RatioSettings Zone) (currentBar : Bar Zone) (location : SessionLocation Zone) : Except PyError (Evidence Zone) := do
  let localStart ← astimezone currentBar.startsAt location.session.opensAt.tzinfo
  pure [("bar_width_microseconds",.microseconds settings.barWidth),("lookback_days",.number settings.lookbackDays),
    ("session_date",.date location.sessionDate),("session_offset",.microseconds (localStart.since location.session.opensAt)),
    ("session_segment",.number location.segment)]

def coverageEvidence (settings : RatioSettings Zone) (snapshot : MarketDataSnapshot Zone) (gap : RequestedCoverageGap Zone) : Evidence Zone :=
  [("instrument_id",.text (uuidText settings.instrumentId)),("coverage_gap",.text gap.kind),("covered_end",.datetime gap.coveredEnd),
    ("required_start",.datetime gap.requiredStart),("required_end",.datetime gap.requiredEnd),
    ("session_date",.date gap.location.sessionDate),("session_segment",.number gap.location.segment),
    ("snapshot_id",.text snapshot.snapshotId)]

def noEffectiveSessionEvidence (settings : RatioSettings Zone) (snapshot : MarketDataSnapshot Zone) (statusKey : String) : Evidence Zone :=
  [("instrument_id",.text (uuidText settings.instrumentId)),(statusKey,.text "no_effective_session"),
    ("requested_start",.datetime snapshot.request.intradayStart),("requested_end",.datetime snapshot.request.intradayEnd),
    ("snapshot_id",.text snapshot.snapshotId)]

-- What one date of the lookback comes to.
inductive HistoryOutcome where
  | absent
  | incomplete
  | mismatched
  | invalid (message : String)
  | intervalMismatch
  | missing
  | volume (value : Decimal)

-- The try block of the loop over the dates: it may return from calculate, or leave an outcome of the date.
def historicalReference (context : DecimalContext) (settings : RatioSettings Zone) (currentBar : Bar Zone) (currentLocation : SessionLocation Zone)
    (date : Int) (snapshot : MarketDataSnapshot Zone) : Except PyError (IndicatorResult Zone ⊕ HistoryOutcome) := do
  let requestedLocations ← requestedSessionLocations settings.calendar settings.market snapshot.request.intradayStart snapshot.request.intradayEnd
  if requestedLocations.isEmpty then do
    let result ← IndicatorResult.unavailable settings.key "history_request_market_closed"
      (noEffectiveSessionEvidence settings snapshot "history_market_status" ++ [("ineligible_history_session_dates",.date date)])
    pure (.inl result)
  else do
    let coverageGap ← requestedRangeCoverageGap settings.calendar settings.market snapshot.request.intradayStart snapshot.request.intradayEnd
      (settings.ownBars snapshot)
    match coverageGap with
    | some gap => do
      let result ← IndicatorResult.unavailable settings.key "incomplete_history_source_coverage"
        (coverageEvidence settings snapshot gap ++ [("incomplete_history_session_dates",.date date),("history_coverage_gap",.text gap.kind)])
      pure (.inl result)
    | none => do
      let matching ← matchingReferenceBar context settings snapshot currentBar currentLocation
      match matching with
      | (_,true) => pure (.inr .intervalMismatch)
      | (none,false) => pure (.inr .missing)
      | (some bar,false) => pure (.inr (.volume bar.volume))

-- The body of the loop over the dates.
def historyOutcome (context : DecimalContext) (settings : RatioSettings Zone) (historyByDate : HistoryByDate Zone) (currentBar : Bar Zone)
    (currentLocation : SessionLocation Zone) (date : Int) : Except PyError (IndicatorResult Zone ⊕ HistoryOutcome) :=
  match historyByDate date with
  | none => pure (.inr .absent)
  | some snapshot =>
    if !snapshot.isActionable then pure (.inr .incomplete)
    else do
      let mismatched ← historyBarDatesMismatch settings snapshot date
      if mismatched then pure (.inr .mismatched)
      else match historicalReference context settings currentBar currentLocation date snapshot with
        | .ok outcome => pure outcome
        | .error error => if error.kind = .barAggregationInputError then pure (.inr (.invalid error.message)) else .error error

structure Gathered where
  referenceVolumes : List Decimal
  absentDates : List Int
  incompleteDates : List Int
  mismatchedDates : List Int
  invalidHistory : List (Int × String)
  intervalMismatchDates : List Int
  missingReferenceDates : List Int

def Gathered.add (gathered : Gathered) (date : Int) : HistoryOutcome → Gathered
  | .absent => { gathered with absentDates := gathered.absentDates ++ [date] }
  | .incomplete => { gathered with incompleteDates := gathered.incompleteDates ++ [date] }
  | .mismatched => { gathered with mismatchedDates := gathered.mismatchedDates ++ [date] }
  | .invalid message => { gathered with invalidHistory := gathered.invalidHistory ++ [(date,message)] }
  | .intervalMismatch => { gathered with intervalMismatchDates := gathered.intervalMismatchDates ++ [date] }
  | .missing => { gathered with missingReferenceDates := gathered.missingReferenceDates ++ [date] }
  | .volume value => { gathered with referenceVolumes := gathered.referenceVolumes ++ [value] }

-- The loop over the expected dates, which a closed or gappy request ends.
def gather (outcome : Int → Except PyError (IndicatorResult Zone ⊕ HistoryOutcome)) :
    Gathered → List Int → Except PyError (IndicatorResult Zone ⊕ Gathered)
  | gathered,[] => pure (.inr gathered)
  | gathered,date :: rest => do
    let found ← outcome date
    match found with
    | .inl result => pure (.inl result)
    | .inr own => gather outcome (gathered.add date own) rest

def dateList (dates : List Int) : EvidenceText Zone := .dates (sortBy id dates)

-- What follows the loop, where the volumes are added in the caller's context.
def gatheredRatio (context : DecimalContext) (key : String) (evidence : Evidence Zone) (currentBar : Bar Zone) (gathered : Gathered) :
    Except PyError (IndicatorResult Zone) :=
  let missingDates := gathered.absentDates ++ gathered.incompleteDates ++ gathered.missingReferenceDates
  if !gathered.invalidHistory.isEmpty then
    IndicatorResult.unavailable key "invalid_history_source_bars" (evidence ++
      [("invalid_history_session_dates",dateList (gathered.invalidHistory.map Prod.fst)),("validation_error",.errors gathered.invalidHistory)])
  else if !gathered.intervalMismatchDates.isEmpty then
    IndicatorResult.unavailable key "history_interval_mismatch" (evidence ++
      [("interval_mismatch_session_dates",dateList gathered.intervalMismatchDates)])
  else if !gathered.mismatchedDates.isEmpty then
    IndicatorResult.unavailable key "history_date_mismatch" (evidence ++ [("mismatched_history_dates",dateList gathered.mismatchedDates)])
  else if !gathered.absentDates.isEmpty then
    IndicatorResult.unavailable key "insufficient_history" (evidence ++ [("missing_session_dates",dateList missingDates)])
  else if !gathered.incompleteDates.isEmpty then
    IndicatorResult.unavailable key "incomplete_history" (evidence ++ [("missing_session_dates",dateList missingDates)])
  else if !gathered.missingReferenceDates.isEmpty then
    IndicatorResult.unavailable key "missing_reference_bar" (evidence ++ [("missing_session_dates",dateList missingDates)])
  else do
    let referenceTotal ← context.sum (.ofNat 0) gathered.referenceVolumes
    let referenceAverage ← divideDecimals referenceTotal (.ofNat gathered.referenceVolumes.length)
    if isZero referenceAverage then IndicatorResult.unavailable key "zero_reference_volume" evidence
    else do
      let value ← divideDecimals currentBar.volume referenceAverage
      IndicatorResult.available key value evidence

-- The first try block of calculate; there is nothing where the request overlaps no session.
structure CurrentSource (Zone : Type) [DecidableEq Zone] [Tzinfo Zone] where
  location : SessionLocation Zone
  coverageGap : Option (RequestedCoverageGap Zone)
  bars : List (Bar Zone)

def currentSource (context : DecimalContext) (settings : RatioSettings Zone) (snapshot : MarketDataSnapshot Zone) :
    Except PyError (Option (CurrentSource Zone)) := do
  let requestedLocations ← requestedSessionLocations settings.calendar settings.market snapshot.request.intradayStart snapshot.request.intradayEnd
  match requestedLocations.getLast? with
  | none => pure none
  | some location => do
    let coverageGap ← requestedRangeCoverageGap settings.calendar settings.market snapshot.request.intradayStart snapshot.request.intradayEnd
      (settings.ownBars snapshot)
    let bars ← aggregateBars context settings.calendar settings.market settings.barWidth (settings.ownBars snapshot)
    pure (some ⟨location,coverageGap,bars⟩)

def requiredCurrentEnd (location : SessionLocation Zone) (snapshot : MarketDataSnapshot Zone) : Except PyError (Datetime Zone) := do
  let intradayEnd ← astimezone snapshot.request.intradayEnd location.session.closesAt.tzinfo
  pure (location.session.closesAt.minimum intradayEnd)

-- next of a generator: no bar is converted after the first that ends there.
def currentBarFrom (zone : Zone) (requiredEnd : Datetime Zone) : List (Bar Zone) → Except PyError (Option (Bar Zone))
  | [] => pure none
  | bar :: rest => do
    let localEnd ← astimezone bar.endsAt zone
    if localEnd.same requiredEnd then pure (some bar) else currentBarFrom zone requiredEnd rest

-- max((bar.ends_at for bar in target_current_bars), default=current_location.session.opens_at)
def latestCompleteEnd (location : SessionLocation Zone) : List (Bar Zone) → Datetime Zone
  | [] => location.session.opensAt
  | first :: rest => rest.foldl (fun latest bar => latest.maximum bar.endsAt) first.endsAt

-- What calculate does for a current bar, with the history by its dates.
def ratioAgainst (context : DecimalContext) (settings : RatioSettings Zone) (history : List (MarketDataSnapshot Zone)) (currentBar : Bar Zone)
    (location : SessionLocation Zone) : Except PyError (IndicatorResult Zone) := do
  let expectedDates ← previousTradingDates settings location.sessionDate settings.lookbackDays
  if (expectedDates.length : Int) ≠ settings.lookbackDays then do
    let evidence ← ratioEvidence settings currentBar location
    IndicatorResult.unavailable settings.key "calendar_lookback_unavailable" evidence
  else do
    let historyByDate ← historyBySessionDate settings history location.sessionDate
    let gathered ← gather (historyOutcome context settings historyByDate currentBar location) ⟨[],[],[],[],[],[],[]⟩ expectedDates
    match gathered with
    | .inl result => pure result
    | .inr gathered => do
      let evidence ← ratioEvidence settings currentBar location
      gatheredRatio context settings.key evidence currentBar gathered

-- What calculate does with the bars of the current snapshot.
def ratioFrom (context : DecimalContext) (settings : RatioSettings Zone) (history : List (MarketDataSnapshot Zone))
    (snapshot : MarketDataSnapshot Zone) (source : CurrentSource Zone) : Except PyError (IndicatorResult Zone) :=
  let location := source.location
  match source.coverageGap with
  | some gap => IndicatorResult.unavailable settings.key "incomplete_current_source_coverage" (coverageEvidence settings snapshot gap)
  | none =>
    if source.bars.isEmpty then
      IndicatorResult.unavailable settings.key "missing_current_bar" [("instrument_id",.text (uuidText settings.instrumentId))]
    else do
      let requiredEnd ← requiredCurrentEnd location snapshot
      let located ← locateBars settings.calendar settings.market source.bars
      let targetBars := locatedIn located location
      let currentBar ← currentBarFrom location.session.closesAt.tzinfo requiredEnd targetBars
      match currentBar with
      | none =>
        IndicatorResult.unavailable settings.key "incomplete_current_source_coverage"
          [("instrument_id",.text (uuidText settings.instrumentId)),("latest_complete_end",.datetime (latestCompleteEnd location targetBars)),
            ("required_end",.datetime requiredEnd),("session_date",.date location.sessionDate),("session_segment",.number location.segment),
            ("snapshot_id",.text snapshot.snapshotId)]
      | some currentBar => ratioAgainst context settings history currentBar location

-- SameTimeVolumeRatioIndicator.calculate in a context of the caller.
def SameTimeVolumeRatioIndicator.calculate (context : DecimalContext) (indicator : SameTimeVolumeRatioIndicator Zone)
    (snapshot : MarketDataSnapshot Zone) : Except PyError (IndicatorResult Zone) :=
  let settings := indicator.toRatioSettings
  if !snapshot.isActionable then
    IndicatorResult.unavailable settings.key "snapshot_not_actionable" [("snapshot_id",.text snapshot.snapshotId)]
  else match currentSource context settings snapshot with
    | .ok none => IndicatorResult.unavailable settings.key "current_request_market_closed"
        (noEffectiveSessionEvidence settings snapshot "current_market_status")
    | .ok (some source) => ratioFrom context settings indicator.history snapshot source
    | .error error =>
      if error.kind = .barAggregationInputError then
        IndicatorResult.unavailable settings.key "invalid_current_source_bars" [("instrument_id",.text (uuidText settings.instrumentId)),
          ("snapshot_id",.text snapshot.snapshotId),("validation_error",.text error.message)]
      else .error error

end SwapMonitor.Indicators
