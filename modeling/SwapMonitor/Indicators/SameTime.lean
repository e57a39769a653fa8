import SwapMonitor.Indicators.Composition
import SwapMonitor.Indicators.LookAhead

namespace SwapMonitor.Indicators
open Clocks Collections Exceptions

variable {Zone : Type} [DecidableEq Zone] [Tzinfo Zone]

section Starts
variable (fixed : FixedOffsets Zone) {context : DecimalContext} {calendar : TradingCalendarProvider Zone} {market : String} {width : Int}
include fixed

end Starts

def referenceVolumes (references : List (MarketDataSnapshot Zone × Bar Zone)) : List Decimal := references.map fun reference => reference.2.volume

section Values
variable {context : DecimalContext} {settings : RatioSettings Zone} {history : List (MarketDataSnapshot Zone)} {snapshot : MarketDataSnapshot Zone}

end Values

-- The morning of a day, in two bars.
def morningSnapshot (date : Int) (bars : List (Bar Offset)) : MarketDataSnapshot Offset where
  snapshotId := "market-data:sample"
  request := ⟨localTime (date * DAY + 9 * HOUR),localTime (date * DAY + 11 * HOUR),by
    rw [local_order,decide_eq_false_iff_not]
    unfold HOUR
    omega⟩
  intradayBars := bars
  qualityIsActionable := true
  hasQuotes := true
  hasDailyBars := true

def nextEarly : Bar Offset := sampleBar 7 (DAY + 9 * HOUR) (DAY + 10 * HOUR) 100 (by decide +kernel)
def nextLate : Bar Offset := sampleBar 7 (DAY + 10 * HOUR) (DAY + 11 * HOUR) 40 (by decide +kernel)

def currentMorning : MarketDataSnapshot Offset := morningSnapshot 1 [nextEarly,nextLate]
def previousMorning : MarketDataSnapshot Offset := morningSnapshot 0 [early,late]

def sampleRatio (history : List (MarketDataSnapshot Offset)) : SameTimeVolumeRatioIndicator Offset where
  calendar := twoSessions
  market := "TWSE"
  instrumentId := 7
  barWidth := 2 * HOUR
  lookbackDays := 1
  key := "volume_ratio"
  history := history
  accepted := by decide

end SwapMonitor.Indicators
