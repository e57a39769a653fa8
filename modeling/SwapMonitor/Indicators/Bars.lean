import SwapMonitor.Indicators.Market
import SwapMonitor.Collections.Orders
import Mathlib.Data.Prod.Lex
import Mathlib.Data.String.Basic
import Mathlib.Logic.Function.Basic

namespace SwapMonitor.Indicators
open Clocks Collections

variable {Zone : Type} [DecidableEq Zone] [Tzinfo Zone]

-- One bar's local market date and session segment.
structure SessionLocation (Zone : Type) [DecidableEq Zone] [Tzinfo Zone] where
  sessionDate : Int
  segment : Nat
  session : MarketSession Zone

structure RequestedCoverageGap (Zone : Type) [DecidableEq Zone] [Tzinfo Zone] where
  location : SessionLocation Zone
  kind : String
  coveredEnd : Datetime Zone
  requiredStart : Datetime Zone
  requiredEnd : Datetime Zone

structure BucketedBar (Zone : Type) [DecidableEq Zone] [Tzinfo Zone] where
  bar : Bar Zone
  bucketStart : Datetime Zone
  bucketEnd : Datetime Zone

def requireMarket (market : String) : Except PyError Unit :=
  raiseIf (blank market) .barAggregationInputError "market must not be blank"

-- session.opens_at <= local_start < session.closes_at and local_end <= session.closes_at
def MarketSession.holds (session : MarketSession Zone) (localStart localEnd : Datetime Zone) : Bool :=
  session.opensAt.le localStart && localStart.lt session.closesAt && localEnd.le session.closesAt

def locateMarketSession (calendar : TradingCalendarProvider Zone) (market : String) (bar : Bar Zone) :
    Except PyError (SessionLocation Zone) := do
  requireMarket market
  let localStart ← astimezone bar.startsAt (calendar.marketTimezone market)
  let localEnd ← astimezone bar.endsAt (calendar.marketTimezone market)
  let sessionDate := localStart.date
  raiseIf (calendar.isHoliday market sessionDate) .barAggregationInputError "source bar falls on a market holiday"
  let sessions := calendar.sessionsFor market sessionDate
  raiseIf sessions.isEmpty .barAggregationInputError "source bar falls outside a trading session"
  match sessions.zipIdx.find? fun entry => entry.1.holds localStart localEnd with
  | some (session,segment) => pure ⟨sessionDate,segment,session⟩
  | none => raise .barAggregationInputError "source bar crosses or falls outside a trading session"

def validateAfter (bar : Bar Zone) : Option (Bar Zone) → Except PyError Unit
  | none => pure ()
  | some previous => do
    raiseIf (bar.startsAt.lt previous.startsAt) .barAggregationInputError "source bars must be ordered for one instrument"
    raiseIf (bar.startsAt.lt previous.endsAt) .barAggregationInputError "source bars overlap for one instrument"

-- The loop of _validate_source_bars, with the last bar of each instrument so far.
def validateFollowing (sourceTimezone : Zone) : (UUID → Option (Bar Zone)) → List (Bar Zone) → Except PyError Unit
  | _,[] => pure ()
  | previousByInstrument,bar :: rest => do
    raiseIf (decide (bar.startsAt.tzinfo ≠ sourceTimezone) || decide (bar.endsAt.tzinfo ≠ sourceTimezone)) .barAggregationInputError
      "source bars must use one timezone to preserve output timezone"
    validateAfter bar (previousByInstrument bar.instrumentId)
    validateFollowing sourceTimezone (Function.update previousByInstrument bar.instrumentId (some bar)) rest

def validateSourceBars : List (Bar Zone) → Except PyError Unit
  | [] => pure ()
  | first :: rest => validateFollowing first.startsAt.tzinfo (fun _ => none) (first :: rest)

-- validate_bars_for_calendar hands its argument back.
def validateBarsForCalendar (calendar : TradingCalendarProvider Zone) (market : String) (bars : List (Bar Zone)) :
    Except PyError Unit := do
  validateSourceBars bars
  let _ ← bars.mapM (locateMarketSession calendar market)

-- The bar was converted when it was located.
def bucketBar (calendar : TradingCalendarProvider Zone) (market : String) (width : Int) (bar : Bar Zone) :
    Except PyError (BucketedBar Zone) := do
  let location ← locateMarketSession calendar market bar
  let localStart := bar.startsAt.astimezone (calendar.marketTimezone market)
  let elapsed := localStart.since location.session.opensAt
  let bucketNumber := elapsed / width
  let bucketStart ← addTimedelta location.session.opensAt (bucketNumber * width)
  let following ← addTimedelta bucketStart width
  let bucketEnd := following.minimum location.session.closesAt
  raiseIf (bucketEnd.lt (bar.endsAt.astimezone (calendar.marketTimezone market))) .barAggregationInputError
    "source bar must fit within one aggregation window"
  pure ⟨bar,bucketStart,bucketEnd⟩

-- The instrument and the bounds of its window.
def BucketedBar.key (item : BucketedBar Zone) : UUID ×ₗ Int ×ₗ Int :=
  toLex (item.bar.instrumentId,toLex (item.bucketStart.instant,item.bucketEnd.instant))

-- frame.groupby([...], sort=True): the rows of each key in their order.
def groupby (bucketed : List (BucketedBar Zone)) : List (List (BucketedBar Zone)) :=
  (sortBy id (bucketed.map BucketedBar.key).dedup).map fun key => bucketed.filter fun item => item.key = key

-- max and min of numbers keep the first of equal ones.
def highest (first : Decimal) (rest : List Decimal) : Decimal :=
  rest.foldl (fun best value => if best.toRat < value.toRat then value else best) first

def lowest (first : Decimal) (rest : List Decimal) : Decimal :=
  rest.foldl (fun best value => if value.toRat < best.toRat then value else best) first

def coversBucketContinuously : List (Bar Zone) → Datetime Zone → Datetime Zone → Bool
  | [],expectedStart,bucketEnd => expectedStart.same bucketEnd
  | bar :: rest,expectedStart,bucketEnd => bar.startsAt.same expectedStart && coversBucketContinuously rest bar.endsAt bucketEnd

-- _aggregate_bucket; the bars of one zone are sorted by the clock of that zone, the volumes are added in the caller's context.
def aggregateBucket (context : DecimalContext) (outputTimezone : Zone) (bucketedBars : List (BucketedBar Zone)) :
    Except PyError (Option (Bar Zone)) :=
  match sortBy (fun item : BucketedBar Zone => item.bar.startsAt.wall) bucketedBars with
  | [] => raise (.operationFailed "IndexError") "list index out of range"
  | first :: rest =>
    let components := (first :: rest).map BucketedBar.bar
    if coversBucketContinuously components first.bucketStart first.bucketEnd then do
      let startsAt ← astimezone first.bucketStart outputTimezone
      let endsAt ← astimezone first.bucketEnd outputTimezone
      let volume ← context.sum (.ofNat 0) (components.map fun item => item.volume)
      let bar ← Bar.create
        { instrumentId := first.bar.instrumentId
          startsAt := startsAt
          endsAt := endsAt
          openPrice := first.bar.openPrice
          high := highest first.bar.high (rest.map fun item => item.bar.high)
          low := lowest first.bar.low (rest.map fun item => item.bar.low)
          closePrice := ((first :: rest).getLast (List.cons_ne_nil _ _)).bar.closePrice
          volume := volume }
      pure (some bar)
    else pure none

def aggregateSource (context : DecimalContext) (calendar : TradingCalendarProvider Zone) (market : String) (width : Int)
    (sourceTimezone : Zone) (sourceBars : List (Bar Zone)) : Except PyError (List (Bar Zone)) := do
  let bucketed ← sourceBars.mapM (bucketBar calendar market width)
  let aggregated ← (groupby bucketed).mapM (aggregateBucket context sourceTimezone)
  pure (sortBy (fun bar : Bar Zone => toLex (bar.startsAt.wall,uuidText bar.instrumentId)) (aggregated.filterMap id))

def aggregateBars (context : DecimalContext) (calendar : TradingCalendarProvider Zone) (market : String) (width : Int)
    (bars : List (Bar Zone)) : Except PyError (List (Bar Zone)) := do
  raiseIf (decide (width ≤ 0)) .barAggregationInputError "aggregation width must be positive"
  validateBarsForCalendar calendar market bars
  match bars with
  | [] => pure []
  | first :: _ => aggregateSource context calendar market width first.startsAt.tzinfo bars

-- The sessions of one date that a range overlaps.
def overlappingOn (calendar : TradingCalendarProvider Zone) (market : String) (localStart localEnd : Datetime Zone) (sessionDate : Int) :
    List (SessionLocation Zone) :=
  if calendar.isHoliday market sessionDate then []
  else ((calendar.sessionsFor market sessionDate).zipIdx.filter fun entry =>
    (entry.1.opensAt.maximum localStart).lt (entry.1.closesAt.minimum localEnd)).map fun entry => ⟨sessionDate,entry.2,entry.1⟩

-- The while loop of requested_session_locations, for the dates that are left.
def overlappingFrom (calendar : TradingCalendarProvider Zone) (market : String) (localStart localEnd : Datetime Zone) :
    Int → Nat → List (SessionLocation Zone)
  | _,0 => []
  | sessionDate,left + 1 => overlappingOn calendar market localStart localEnd sessionDate ++
      overlappingFrom calendar market localStart localEnd (sessionDate + 1) left

def requestedSessionLocations (calendar : TradingCalendarProvider Zone) (market : String) (intradayStart intradayEnd : Datetime Zone) :
    Except PyError (List (SessionLocation Zone)) := do
  requireMarket market
  let localStart ← astimezone intradayStart (calendar.marketTimezone market)
  let localEnd ← astimezone intradayEnd (calendar.marketTimezone market)
  raiseIf (localEnd.le localStart) .barAggregationInputError "intraday request range must be positive"
  -- The loop steps past the final date before it ends.
  let _ ← addDays localEnd.date 1
  pure (overlappingFrom calendar market localStart localEnd localStart.date (localEnd.date + 1 - localStart.date).toNat)

-- The inner loop of requested_range_coverage_gap over the bars of one session, which were converted when they were located.
def sessionGap (zone : Zone) (location : SessionLocation Zone) (requiredStart requiredEnd : Datetime Zone) :
    Datetime Zone → List (Bar Zone) → Option (RequestedCoverageGap Zone)
  | expectedStart,[] =>
    if expectedStart.same requiredEnd then none else some ⟨location,"trailing",expectedStart,requiredStart,requiredEnd⟩
  | expectedStart,bar :: rest =>
    if !(bar.startsAt.astimezone zone).same expectedStart then
      some ⟨location,if expectedStart.same requiredStart then "leading" else "interior",expectedStart,requiredStart,requiredEnd⟩
    else if requiredEnd.lt (bar.endsAt.astimezone zone) then some ⟨location,"trailing",expectedStart,requiredStart,requiredEnd⟩
    else sessionGap zone location requiredStart requiredEnd (bar.endsAt.astimezone zone) rest

-- The bars that were located in a session.
def locatedIn (located : List (Bar Zone × SessionLocation Zone)) (location : SessionLocation Zone) : List (Bar Zone) :=
  (located.filter fun entry => entry.2.sessionDate = location.sessionDate && entry.2.segment = location.segment).map Prod.fst

def locateBars (calendar : TradingCalendarProvider Zone) (market : String) (bars : List (Bar Zone)) :
    Except PyError (List (Bar Zone × SessionLocation Zone)) :=
  bars.mapM fun bar => do
    let location ← locateMarketSession calendar market bar
    pure (bar,location)

-- What the outer loop of requested_range_coverage_gap does for one location; the range was converted when it was requested.
def locationGap (zone : Zone) (intradayStart intradayEnd : Datetime Zone) (located : List (Bar Zone × SessionLocation Zone))
    (location : SessionLocation Zone) : Option (RequestedCoverageGap Zone) :=
  let requiredStart := location.session.opensAt.maximum (intradayStart.astimezone zone)
  let requiredEnd := location.session.closesAt.minimum (intradayEnd.astimezone zone)
  sessionGap zone location requiredStart requiredEnd requiredStart
    (sortBy (fun bar : Bar Zone => bar.startsAt.wall) (locatedIn located location))

def requestedRangeCoverageGap (calendar : TradingCalendarProvider Zone) (market : String) (intradayStart intradayEnd : Datetime Zone)
    (bars : List (Bar Zone)) : Except PyError (Option (RequestedCoverageGap Zone)) := do
  validateBarsForCalendar calendar market bars
  let locations ← requestedSessionLocations calendar market intradayStart intradayEnd
  let located ← locateBars calendar market bars
  pure (locations.findSome? (locationGap (calendar.marketTimezone market) intradayStart intradayEnd located))

end SwapMonitor.Indicators
