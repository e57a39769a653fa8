import SwapMonitor.Indicators.Bars
import SwapMonitor.Indicators.Results

namespace SwapMonitor.Indicators
open Clocks Collections

variable {Zone : Type} [DecidableEq Zone] [Tzinfo Zone]

def requireNames (market key : String) : Except PyError Unit := do
  raiseIf (blank market) .valueError "market must not be blank"
  raiseIf (blank key) .valueError "indicator key must not be blank"

structure SessionVwapIndicator (Zone : Type) [DecidableEq Zone] [Tzinfo Zone] where
  calendar : TradingCalendarProvider Zone
  market : String
  instrumentId : UUID
  key : String
  accepted : requireNames market key = .ok ()

-- What keeps the bars of a session from reaching the end of the request.
structure TrailingCoverage (Zone : Type) where
  kind : String
  coveredEnd : Datetime Zone
  requiredEnd : Datetime Zone

-- The loop of _validate_active_session_coverage.
def coverageFrom (zone : Zone) (requiredStart requiredEnd : Datetime Zone) :
    Datetime Zone → List (Bar Zone) → Except PyError (Option (TrailingCoverage Zone))
  | expectedStart,[] =>
    if expectedStart.same requiredEnd then pure none
    else pure (some ⟨if expectedStart.same requiredStart then "missing_session_open" else "trailing",expectedStart,requiredEnd⟩)
  | expectedStart,bar :: rest => do
    let localStart ← astimezone bar.startsAt zone
    let localEnd ← astimezone bar.endsAt zone
    if !localStart.same expectedStart then
      if expectedStart.same requiredStart && expectedStart.lt localStart then
        pure (some ⟨"missing_session_open",expectedStart,requiredEnd⟩)
      else raise .barAggregationInputError "active session bars have incomplete coverage"
    else if requiredEnd.lt localEnd then raise .barAggregationInputError "active session bars exceed the requested range"
    else coverageFrom zone requiredStart requiredEnd localEnd rest

def validateActiveSessionCoverage (activeBars : List (Bar Zone)) (location : SessionLocation Zone) (intradayEnd : Datetime Zone) :
    Except PyError (Option (TrailingCoverage Zone)) := do
  let zone := location.session.opensAt.tzinfo
  let intradayEnd ← astimezone intradayEnd zone
  let requiredEnd := location.session.closesAt.minimum intradayEnd
  raiseIf (requiredEnd.le location.session.opensAt) .barAggregationInputError "active session falls outside the requested range"
  coverageFrom zone location.session.opensAt requiredEnd location.session.opensAt (sortBy (fun bar : Bar Zone => bar.startsAt.wall) activeBars)

-- max(located, key=lambda item: item[0].starts_at)
def latestBar : List (Bar Zone × SessionLocation Zone) → Except PyError (Bar Zone)
  | [] => raise .valueError "max() iterable argument is empty"
  | first :: rest => pure (rest.foldl (fun best item => if best.startsAt.lt item.1.startsAt then item.1 else best) first.1)

-- What the bars of the session that is active last come to.
structure ActiveSession (Zone : Type) [DecidableEq Zone] [Tzinfo Zone] where
  latest : Bar Zone
  location : SessionLocation Zone
  bars : List (Bar Zone)
  trailing : Option (TrailingCoverage Zone)

-- The try block of SessionVwapIndicator.calculate; there is nothing where the request overlaps no session.
def activeSession (indicator : SessionVwapIndicator Zone) (request : MarketDataRequest Zone) (scopedBars : List (Bar Zone)) :
    Except PyError (Option (ActiveSession Zone)) := do
  validateBarsForCalendar indicator.calendar indicator.market scopedBars
  let located ← locateBars indicator.calendar indicator.market scopedBars
  let requestedLocations ← requestedSessionLocations indicator.calendar indicator.market request.intradayStart request.intradayEnd
  match requestedLocations.getLast? with
  | none => pure none
  | some latestLocation => do
    let latest ← latestBar located
    let activeBars := locatedIn located latestLocation
    let trailing ← validateActiveSessionCoverage activeBars latestLocation request.intradayEnd
    pure (some ⟨latest,latestLocation,activeBars,trailing⟩)

def weightedTypicalPrice (bar : Bar Zone) : Except PyError Decimal := do
  let lowHigh ← bar.high.add bar.low
  let total ← lowHigh.add bar.closePrice
  let typicalPrice ← divideDecimal total (.ofNat 3)
  typicalPrice.multiply bar.volume

def weightedAverage (bars : List (Bar Zone)) (totalVolume : Decimal) : Except PyError Decimal := do
  let weighted ← sumTypical (.ofNat 0) bars
  let average ← divideDecimal weighted totalVolume
  pure (canonicalDecimal average)
where
  -- sum of a generator: a bar is weighted when its turn to be added comes.
  sumTypical (start : Decimal) : List (Bar Zone) → Except PyError Decimal
  | [] => pure start
  | bar :: rest => do
    let weight ← weightedTypicalPrice bar
    let next ← start.add weight
    sumTypical next rest

def sessionEvidence (location : SessionLocation Zone) : Evidence Zone :=
  [("session_date",.date location.sessionDate),("session_segment",.number location.segment),
    ("session_start",.datetime location.session.opensAt),("session_end",.datetime location.session.closesAt)]

-- What follows the try block, where the volumes are added in the caller's context.
def sessionAverage (context : DecimalContext) (key : String) (active : ActiveSession Zone) : Except PyError (IndicatorResult Zone) := do
  let totalVolume ← context.sum (.ofNat 0) (active.bars.map fun bar => bar.volume)
  let evidence := sessionEvidence active.location ++
    [("observed_bars",.number active.bars.length),("latest_bar_start",.datetime active.latest.startsAt)]
  match active.trailing with
  | some gap => IndicatorResult.unavailable key "incomplete_source_coverage" (evidence ++
      [("coverage_gap",.text gap.kind),("covered_end",.datetime gap.coveredEnd),
        ("required_start",.datetime active.location.session.opensAt),("required_end",.datetime gap.requiredEnd)])
  | none =>
    if isZero totalVolume then IndicatorResult.unavailable key "zero_volume" evidence
    else do
      let value ← weightedAverage active.bars totalVolume
      IndicatorResult.available key value evidence

-- SessionVwapIndicator.calculate in a context of the caller.
def SessionVwapIndicator.calculate (context : DecimalContext) (indicator : SessionVwapIndicator Zone) (snapshot : MarketDataSnapshot Zone) :
    Except PyError (IndicatorResult Zone) :=
  if !snapshot.isActionable then
    IndicatorResult.unavailable indicator.key "snapshot_not_actionable" [("snapshot_id",.text snapshot.snapshotId)]
  else
    let scopedBars := snapshot.intradayBars.filter fun bar => bar.instrumentId = indicator.instrumentId
    if scopedBars.isEmpty then
      IndicatorResult.unavailable indicator.key "missing_instrument_bars" [("instrument_id",.text (uuidText indicator.instrumentId))]
    else match activeSession indicator snapshot.request scopedBars with
      | .ok none => IndicatorResult.unavailable indicator.key "requested_range_outside_sessions" [("snapshot_id",.text snapshot.snapshotId)]
      | .ok (some active) => sessionAverage context indicator.key active
      | .error error =>
        if error.kind = .barAggregationInputError then
          IndicatorResult.unavailable indicator.key "invalid_source_bars" [("instrument_id",.text (uuidText indicator.instrumentId)),
            ("snapshot_id",.text snapshot.snapshotId),("validation_error",.text error.message)]
        else .error error

end SwapMonitor.Indicators
