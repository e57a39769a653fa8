import SwapMonitor.Collections.Sorting
import SwapMonitor.Configuration.Normalization
import SwapMonitor.Indicators.Market
import SwapMonitor.Rules.Schema
import Mathlib.Data.Finset.Dedup
import Mathlib.Data.Prod.Lex
import Mathlib.Data.String.Basic

namespace SwapMonitor.DataSources
open Clocks Collections JsonText
open Indicators (Bar)

variable {Zone : Type} [DecidableEq Zone] [Tzinfo Zone]

-- The values a constructor returns.
abbrev Constructed {α β : Type} (postInit : α → Except PyError β) := {value : β // ∃ given, postInit given = .ok value}

def construct {α β : Type} (postInit : α → Except PyError β) (given : α) : Except PyError (Constructed postInit) :=
  match made : postInit given with
  | .ok value => .ok ⟨value,given,made⟩
  | .error error => .error error

-- value.astimezone(UTC), in the years a datetime can have
def astimezoneUtc (value : Datetime Zone) : Except PyError Timestamp :=
  match utcClock value.instant with
  | none => raise .overflowError "date value out of range"
  | some utc => pure utc

omit [DecidableEq Zone] in
theorem astimezone_utc (value : Datetime Zone) : (∃ utc, astimezoneUtc value = .ok utc) ↔ Shown value.instant := by
  rw [← utcClock_shown,astimezoneUtc]
  cases utcClock value.instant with
  | none => simp [raise]
  | some utc => simp [pure,Except.pure]

-- canonical_datetime
def canonicalDatetime (value : Datetime Zone) : Except PyError String := do
  let utc ← astimezoneUtc value
  pure (String.ofList (utcChars utc))

-- _decimal_text
def decimalText (value : Decimal) : String := String.ofList (numberChars value)

-- _timedelta_text of a span in microseconds
def timedeltaText (value : Int) : String := toString value ++ "us"

structure InstrumentFields (Zone : Type) where
  instrumentId : UUID
  market : String
  symbol : String
  createdAt : Datetime Zone

-- Instrument.__post_init__
def InstrumentFields.postInit (given : InstrumentFields Zone) : Except PyError Unit := do
  raiseIf (blank given.market) .valueError "market must not be blank"
  raiseIf (blank given.symbol) .valueError "symbol must not be blank"

structure Instrument (Zone : Type) extends InstrumentFields Zone where
  accepted : toInstrumentFields.postInit = .ok ()
  room : instrumentId < 2 ^ 128

structure RequestFields (Zone : Type) where
  requestId : UUID
  instruments : List (Instrument Zone)
  requestedAt : Datetime Zone
  intradayStart : Datetime Zone
  intradayEnd : Datetime Zone
  intradayInterval : Int
  dailyStart : CivilDate
  dailyEnd : CivilDate
  maximumDataDelay : Int
  room : requestId < 2 ^ 128

-- MarketDataRequest.__post_init__
def RequestFields.postInit (given : RequestFields Zone) : Except PyError (RequestFields Zone) := do
  raiseIf given.instruments.isEmpty .valueError "instruments must not be empty"
  raiseIf (!decide (given.instruments.map fun instrument => instrument.instrumentId).Nodup) .valueError "instruments must be unique"
  raiseIf (given.intradayEnd.le given.intradayStart) .valueError "intraday_end must be after intraday_start"
  raiseIf (decide (given.intradayInterval ≤ 0)) .valueError "intraday_interval must be positive"
  raiseIf (decide (given.dailyEnd.ordinal ≤ given.dailyStart.ordinal)) .valueError "daily_end must be after daily_start"
  raiseIf (decide (given.maximumDataDelay < 0)) .valueError "maximum_data_delay must not be negative"
  pure {given with instruments := sortBy (fun instrument => uuidText instrument.instrumentId) given.instruments}

abbrev MarketDataRequest (Zone : Type) [DecidableEq Zone] [Tzinfo Zone] := Constructed (@RequestFields.postInit Zone _ _)

-- _instrument_payload
def Instrument.canonicalPayload (instrument : Instrument Zone) : Except PyError Tree := do
  let createdAt ← canonicalDatetime instrument.createdAt
  pure (.obj [("created_at",.str createdAt),("instrument_id",.str (uuidText instrument.instrumentId)),
    ("market",.str instrument.market),("symbol",.str instrument.symbol)])

-- MarketDataRequest.canonical_payload
def RequestFields.canonicalPayload (request : RequestFields Zone) : Except PyError Tree := do
  let instruments ← request.instruments.mapM Instrument.canonicalPayload
  let intradayEnd ← canonicalDatetime request.intradayEnd
  let intradayStart ← canonicalDatetime request.intradayStart
  let requestedAt ← canonicalDatetime request.requestedAt
  pure (.obj [("daily_end",.str request.dailyEnd.isoformat),("daily_start",.str request.dailyStart.isoformat),
    ("instruments",.arr instruments),("intraday_end",.str intradayEnd),
    ("intraday_interval",.str (timedeltaText request.intradayInterval)),("intraday_start",.str intradayStart),
    ("maximum_data_delay",.str (timedeltaText request.maximumDataDelay)),("request_id",.str (uuidText request.requestId)),
    ("requested_at",.str requestedAt)])

structure QualityFields (Zone : Type) where
  provider : String
  fetchedAt : Datetime Zone
  sourceTimestamp : Datetime Zone
  delay : Int
  stale : Bool
  missingFields : List String
  barsComplete : Bool
  anomalies : List String
  confidence : Decimal

-- _normalized_labels, with str.lower as a parameter
def normalizedLabels (lower : String → String) (values : List String) (fieldName : String) : Except PyError (List String) := do
  raiseIf (values.any blank) .valueError (fieldName ++ " must contain non-blank strings")
  pure (sortBy id (values.map fun value => lower (Rules.strip value)).dedup)

-- DataQuality.__post_init__
def QualityFields.postInit (lower : String → String) (given : QualityFields Zone) : Except PyError (QualityFields Zone) := do
  raiseIf (blank given.provider) .valueError "provider must not be blank"
  raiseIf (decide (given.delay < 0)) .valueError "delay must not be negative"
  let fetchedAt ← astimezoneUtc given.fetchedAt
  let sourceTimestamp ← astimezoneUtc given.sourceTimestamp
  raiseIf (decide (given.delay ≠ fetchedAt.instant - sourceTimestamp.instant)) .valueError
    "delay must equal fetched_at minus source_timestamp"
  let missingFields ← normalizedLabels lower given.missingFields "missing_fields"
  let anomalies ← normalizedLabels lower given.anomalies "anomalies"
  raiseIf (decide (given.confidence.toRat < 0 ∨ 1 < given.confidence.toRat)) .valueError "confidence must be between zero and one"
  pure {given with missingFields := missingFields,anomalies := anomalies}

abbrev DataQuality (lower : String → String) (Zone : Type) [DecidableEq Zone] [Tzinfo Zone] :=
  Constructed (@QualityFields.postInit Zone _ lower)

def REQUIRED_OHLCV_FIELDS : List String := ["open","high","low","close","volume"]

-- DataQuality.is_actionable
def QualityFields.isActionable (quality : QualityFields Zone) : Bool :=
  !quality.stale && quality.barsComplete && quality.anomalies.isEmpty && !REQUIRED_OHLCV_FIELDS.any quality.missingFields.contains

-- DataQuality.canonical_payload
def QualityFields.canonicalPayload (quality : QualityFields Zone) : Except PyError Tree := do
  let fetchedAt ← canonicalDatetime quality.fetchedAt
  let sourceTimestamp ← canonicalDatetime quality.sourceTimestamp
  pure (.obj [("anomalies",.arr (quality.anomalies.map .str)),("bars_complete",.bool quality.barsComplete),
    ("confidence",.str (decimalText quality.confidence)),("delay",.str (timedeltaText quality.delay)),("fetched_at",.str fetchedAt),
    ("missing_fields",.arr (quality.missingFields.map .str)),("provider",.str quality.provider),
    ("source_timestamp",.str sourceTimestamp),("stale",.bool quality.stale)])

structure Quote (Zone : Type) where
  instrumentId : UUID
  asOf : Datetime Zone
  price : Decimal
  positive : 0 < price.toRat

-- Quote.canonical_payload
def Quote.canonicalPayload (quote : Quote Zone) : Except PyError Tree := do
  let asOf ← canonicalDatetime quote.asOf
  pure (.obj [("as_of",.str asOf),("instrument_id",.str (uuidText quote.instrumentId)),("price",.str (decimalText quote.price))])

-- Bar.canonical_payload
def barPayload (bar : Bar Zone) : Except PyError Tree := do
  let endsAt ← canonicalDatetime bar.endsAt
  let startsAt ← canonicalDatetime bar.startsAt
  pure (.obj [("close",.str (decimalText bar.closePrice)),("ends_at",.str endsAt),("high",.str (decimalText bar.high)),
    ("instrument_id",.str (uuidText bar.instrumentId)),("low",.str (decimalText bar.low)),("open",.str (decimalText bar.openPrice)),
    ("starts_at",.str startsAt),("volume",.str (decimalText bar.volume))])

-- _quote_identity and _bar_identity
def quoteIdentity (quote : Quote Zone) : Except PyError (List String) := do
  let asOf ← canonicalDatetime quote.asOf
  pure [uuidText quote.instrumentId,asOf]

def barIdentity (bar : Bar Zone) : Except PyError (List String) := do
  let startsAt ← canonicalDatetime bar.startsAt
  let endsAt ← canonicalDatetime bar.endsAt
  pure [uuidText bar.instrumentId,startsAt,endsAt]

-- _reject_duplicate_identities compares neighbours only.
def rejectDuplicateIdentities (identities : List (List String)) (collectionName : String) : Except PyError Unit :=
  raiseIf ((identities.zip identities.tail).any fun pair => decide (pair.2 = pair.1)) .valueError ("duplicate " ++ collectionName ++ " identity")

-- What _normalize_quotes and _normalize_bars have in common; the identities are the keys of the sort.
def normalizeObservations {α : Type} (identity : α → Except PyError (List String)) (collectionName : String) (values : List α) :
    Except PyError (List α) := do
  let keyed ← values.mapM fun value => do
    let key ← identity value
    pure (key,value)
  let ordered := sortBy Prod.fst keyed
  rejectDuplicateIdentities (ordered.map Prod.fst) collectionName
  pure (ordered.map Prod.snd)

def normalizeQuotes (quotes : List (Quote Zone)) : Except PyError (List (Quote Zone)) := normalizeObservations quoteIdentity "quote" quotes

def normalizeBars (bars : List (Bar Zone)) (collectionName : String) : Except PyError (List (Bar Zone)) :=
  normalizeObservations barIdentity collectionName bars

-- One round of the loop over the collections of a snapshot.
def requireCoverage (requestedIds : List UUID) (collectionName : String) (observedIds : List UUID) : Except PyError Unit := do
  raiseIf (!decide (observedIds.toFinset ⊆ requestedIds.toFinset)) .valueError "snapshot may only contain requested instruments"
  raiseIf (decide (observedIds.toFinset ≠ ∅ ∧ observedIds.toFinset ≠ requestedIds.toFinset)) .valueError
    (collectionName ++ " must cover every requested instrument")

structure SnapshotFields (lower : String → String) (Zone : Type) [DecidableEq Zone] [Tzinfo Zone] where
  provider : String
  request : MarketDataRequest Zone
  quotes : List (Quote Zone)
  intradayBars : List (Bar Zone)
  dailyBars : List (Bar Zone)
  quality : DataQuality lower Zone

variable {lower : String → String}

-- MarketDataSnapshot.canonical_payload
def SnapshotFields.canonicalPayload (snapshot : SnapshotFields lower Zone) : Except PyError Tree := do
  let dailyBars ← snapshot.dailyBars.mapM barPayload
  let intradayBars ← snapshot.intradayBars.mapM barPayload
  let quality ← snapshot.quality.val.canonicalPayload
  let quotes ← snapshot.quotes.mapM Quote.canonicalPayload
  let request ← snapshot.request.val.canonicalPayload
  pure (.obj [("daily_bars",.arr dailyBars),("intraday_bars",.arr intradayBars),("provider",.str snapshot.provider),("quality",quality),
    ("quotes",.arr quotes),("request",request),("snapshot_format_version",.str "1")])

structure SnapshotContent (lower : String → String) (Zone : Type) [DecidableEq Zone] [Tzinfo Zone] extends SnapshotFields lower Zone where
  canonicalJson : String

-- MarketDataSnapshot.__post_init__
def SnapshotFields.postInit (given : SnapshotFields lower Zone) : Except PyError (SnapshotContent lower Zone) := do
  raiseIf (blank given.provider) .valueError "provider must not be blank"
  raiseIf (decide (given.quality.val.provider ≠ given.provider)) .valueError "quality provider must match snapshot provider"
  let quotes ← normalizeQuotes given.quotes
  let intradayBars ← normalizeBars given.intradayBars "intraday_bars"
  let dailyBars ← normalizeBars given.dailyBars "daily_bars"
  let requestedIds := given.request.val.instruments.map fun instrument => instrument.instrumentId
  requireCoverage requestedIds "quotes" (quotes.map fun quote => quote.instrumentId)
  requireCoverage requestedIds "intraday_bars" (intradayBars.map fun bar => bar.instrumentId)
  requireCoverage requestedIds "daily_bars" (dailyBars.map fun bar => bar.instrumentId)
  let ordered := {given with quotes := quotes,intradayBars := intradayBars,dailyBars := dailyBars}
  let payload ← ordered.canonicalPayload
  pure ⟨ordered,payload.text⟩

abbrev MarketDataSnapshot (lower : String → String) (Zone : Type) [DecidableEq Zone] [Tzinfo Zone] :=
  Constructed (@SnapshotFields.postInit Zone _ _ lower)

def MarketDataSnapshot.contentHash (sha256 : String → String) (snapshot : MarketDataSnapshot lower Zone) : String :=
  sha256 snapshot.val.canonicalJson

def MarketDataSnapshot.snapshotId (sha256 : String → String) (snapshot : MarketDataSnapshot lower Zone) : String :=
  "market-data:v1:" ++ snapshot.contentHash sha256

-- MarketDataSnapshot.is_actionable
def MarketDataSnapshot.isActionable (snapshot : MarketDataSnapshot lower Zone) : Bool :=
  snapshot.val.quality.val.isActionable && !snapshot.val.quotes.isEmpty && !snapshot.val.intradayBars.isEmpty &&
    !snapshot.val.dailyBars.isEmpty

theorem request_after (request : MarketDataRequest Zone) : request.val.intradayEnd.le request.val.intradayStart = false := by
  obtain ⟨_,_,made⟩ := request
  simp only [RequestFields.postInit,check_ok,raiseIf_ok,pure_ok] at made
  obtain ⟨_,_,after,_,_,_,rfl⟩ := made
  exact after

-- What the indicators read of a snapshot.
def MarketDataSnapshot.forIndicators (sha256 : String → String) (snapshot : MarketDataSnapshot lower Zone) :
    Indicators.MarketDataSnapshot Zone where
  snapshotId := snapshot.snapshotId sha256
  request := ⟨snapshot.val.request.val.intradayStart,snapshot.val.request.val.intradayEnd,request_after snapshot.val.request⟩
  intradayBars := snapshot.val.intradayBars
  qualityIsActionable := snapshot.val.quality.val.isActionable
  hasQuotes := !snapshot.val.quotes.isEmpty
  hasDailyBars := !snapshot.val.dailyBars.isEmpty

theorem indicators_actionable (sha256 : String → String) (snapshot : MarketDataSnapshot lower Zone) :
    (snapshot.forIndicators sha256).isActionable = snapshot.isActionable := rfl

end SwapMonitor.DataSources
