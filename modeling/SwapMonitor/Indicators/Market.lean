import SwapMonitor.Domain.DecimalContexts
import SwapMonitor.Domain.Readings

namespace SwapMonitor.Indicators
open Clocks

variable {Zone : Type} [DecidableEq Zone] [Tzinfo Zone]

-- A market open/close interval of aware timestamps.
structure MarketSession (Zone : Type) [DecidableEq Zone] [Tzinfo Zone] where
  opensAt : Datetime Zone
  closesAt : Datetime Zone
  after : closesAt.le opensAt = false

-- The calendar port.
structure TradingCalendarProvider (Zone : Type) [DecidableEq Zone] [Tzinfo Zone] where
  marketTimezone : String → Zone
  isHoliday : String → Int → Bool
  sessionsFor : String → Int → List (MarketSession Zone)

structure BarFields (Zone : Type) where
  instrumentId : UUID
  startsAt : Datetime Zone
  endsAt : Datetime Zone
  openPrice : Decimal
  high : Decimal
  low : Decimal
  closePrice : Decimal
  volume : Decimal
  deriving DecidableEq

-- Bar.__post_init__; that the timestamps are aware and the numbers finite is in their types.
def BarFields.postInit (bar : BarFields Zone) : Except PyError Unit := do
  raiseIf (bar.endsAt.le bar.startsAt) .valueError "ends_at must be after starts_at"
  raiseIf (decide (bar.openPrice.toRat ≤ 0 ∨ bar.closePrice.toRat ≤ 0)) .valueError "open and close must be positive"
  raiseIf (decide (bar.high.toRat < max bar.openPrice.toRat bar.closePrice.toRat)) .valueError "high must not be below open or close"
  raiseIf (decide (min bar.openPrice.toRat bar.closePrice.toRat < bar.low.toRat)) .valueError "low must not exceed open or close"
  raiseIf (decide (bar.volume.toRat < 0)) .valueError "volume must not be negative"

structure Bar (Zone : Type) [DecidableEq Zone] [Tzinfo Zone] extends BarFields Zone where
  accepted : toBarFields.postInit = .ok ()

def Bar.create (fields : BarFields Zone) : Except PyError (Bar Zone) :=
  match accepted : fields.postInit with
  | .ok () => .ok ⟨fields,accepted⟩
  | .error error => .error error

-- What the checks leave of an observation.
structure BarFields.Valid (bar : BarFields Zone) : Prop where
  after : bar.startsAt.lt bar.endsAt = true
  openPositive : 0 < bar.openPrice.toRat
  closePositive : 0 < bar.closePrice.toRat
  high : bar.openPrice.toRat ≤ bar.high.toRat ∧ bar.closePrice.toRat ≤ bar.high.toRat
  low : bar.low.toRat ≤ bar.openPrice.toRat ∧ bar.low.toRat ≤ bar.closePrice.toRat
  volume : 0 ≤ bar.volume.toRat

theorem post_init_exact {bar : BarFields Zone} : bar.postInit = .ok () ↔ bar.Valid := by
  simp only [BarFields.postInit,check_ok,raiseIf_ok,Datetime.le,Bool.not_eq_false',decide_eq_false_iff_not,not_or,not_le,not_lt,
    max_le_iff,le_min_iff]
  constructor
  · intro held
    obtain ⟨after,⟨opens,closes⟩,high,low,volume⟩ := held
    exact ⟨after,opens,closes,high,low,volume⟩
  · intro valid
    exact ⟨valid.after,⟨valid.openPositive,valid.closePositive⟩,valid.high,valid.low,valid.volume⟩

theorem Bar.valid (bar : Bar Zone) : bar.toBarFields.Valid := post_init_exact.mp bar.accepted

theorem create_exact {fields : BarFields Zone} {bar : Bar Zone} : Bar.create fields = .ok bar ↔ bar.toBarFields = fields := by
  unfold Bar.create
  split
  · rename_i accepted
    constructor
    · intro built
      rw [← Except.ok.inj built]
    · intro same
      subst same
      rfl
  · rename_i raised
    constructor
    · intro built
      cases built
    · intro same
      subst same
      rw [bar.accepted] at raised
      cases raised

theorem create_valid {fields : BarFields Zone} (valid : fields.Valid) : Bar.create fields = .ok ⟨fields,post_init_exact.mpr valid⟩ :=
  create_exact.mpr rfl

-- left == right
structure Bar.Same (left right : Bar Zone) : Prop where
  instrumentId : left.instrumentId = right.instrumentId
  startsAt : left.startsAt.same right.startsAt = true
  endsAt : left.endsAt.same right.endsAt = true
  openPrice : left.openPrice.toRat = right.openPrice.toRat
  high : left.high.toRat = right.high.toRat
  low : left.low.toRat = right.low.toRat
  closePrice : left.closePrice.toRat = right.closePrice.toRat
  volume : left.volume.toRat = right.volume.toRat

-- The part of a request that says which time it asks about.
structure MarketDataRequest (Zone : Type) [DecidableEq Zone] [Tzinfo Zone] where
  intradayStart : Datetime Zone
  intradayEnd : Datetime Zone
  after : intradayEnd.le intradayStart = false

structure MarketDataSnapshot (Zone : Type) [DecidableEq Zone] [Tzinfo Zone] where
  snapshotId : String
  request : MarketDataRequest Zone
  intradayBars : List (Bar Zone)
  qualityIsActionable : Bool
  hasQuotes : Bool
  hasDailyBars : Bool

def MarketDataSnapshot.isActionable (snapshot : MarketDataSnapshot Zone) : Bool :=
  snapshot.qualityIsActionable && snapshot.hasQuotes && !snapshot.intradayBars.isEmpty && snapshot.hasDailyBars

end SwapMonitor.Indicators
