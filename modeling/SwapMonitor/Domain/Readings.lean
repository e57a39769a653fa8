import SwapMonitor.Clocks.Datetimes
import SwapMonitor.Domain.Timestamps

namespace SwapMonitor
open Clocks

def outOfRange : PyError := ⟨.overflowError,"date value out of range"⟩

-- What a clock cannot show is not made into a datetime.
def requireShown (reading : Int) : Except PyError Unit := if Shown reading then .ok () else .error outOfRange

@[simp] theorem requireShown_ok (reading : Int) (u : Unit) : requireShown reading = .ok u ↔ Shown reading := by
  unfold requireShown
  split <;> simp_all

section Conversions
variable {Zone : Type} [DecidableEq Zone] [Tzinfo Zone]

-- value.astimezone(zone)
def astimezone (d : Datetime Zone) (zone : Zone) : Except PyError (Datetime Zone) :=
  if d.tzinfo = zone then pure d
  else do
    requireShown d.instant
    requireShown (d.astimezone zone).wall
    pure (d.astimezone zone)

@[simp] theorem astimezone_ok (d e : Datetime Zone) (zone : Zone) :
    astimezone d zone = .ok e ↔ d.Convertible zone ∧ d.astimezone zone = e := by
  unfold astimezone Datetime.Convertible
  split
  · rename_i own
    simp [own,Datetime.astimezone]
  · rename_i other
    simp only [check_ok,requireShown_ok,pure_ok,ne_eq,other,not_false_eq_true,forall_const,and_assoc]

-- value + delta
def addTimedelta (d : Datetime Zone) (delta : Int) : Except PyError (Datetime Zone) := do
  requireShown (d.plus delta).wall
  pure (d.plus delta)

omit [DecidableEq Zone] [Tzinfo Zone] in
@[simp] theorem addTimedelta_ok (d e : Datetime Zone) (delta : Int) :
    addTimedelta d delta = .ok e ↔ Shown (d.plus delta).wall ∧ d.plus delta = e := by
  simp only [addTimedelta,check_ok,requireShown_ok,pure_ok]

end Conversions

-- date + timedelta(days=days)
def addDays (date days : Int) : Except PyError Int := do
  requireShown ((date + days) * DAY)
  pure (date + days)

@[simp] theorem addDays_ok (date days other : Int) : addDays date days = .ok other ↔ ShownDate (date + days) ∧ date + days = other := by
  simp only [addDays,ShownDate,check_ok,requireShown_ok,pure_ok]

-- A zone that changes its offset, and whether it gives the other reading of the same clock another one.
structure Region where
  key : String
  depends : Bool
  deriving DecidableEq, Repr

-- The clock of an aware datetime: how far it is ahead of UTC, and its region if that may change.
structure Clock where
  offset : Int := 0
  region : Option Region := none
  deriving DecidableEq, Repr

structure AwareDatetime where
  instant : Instant
  clock : Clock := {}
  deriving DecidableEq, Repr

namespace AwareDatetime

def offset (d : AwareDatetime) : Int := d.clock.offset

def depends (d : AwareDatetime) : Bool := d.clock.region.any (·.depends)

-- value.astimezone(UTC)
def astimezoneUtc (d : AwareDatetime) : Except PyError AwareDatetime := do
  requireShown d.instant
  pure ⟨d.instant,{}⟩

@[simp] theorem astimezoneUtc_ok (d utc : AwareDatetime) : d.astimezoneUtc = .ok utc ↔ Shown d.instant ∧ ⟨d.instant,{}⟩ = utc := by
  simp only [astimezoneUtc,bind_ok,requireShown_ok,exists_const,pure_ok]

-- Zones of constant offsets are told apart by these, regions by their keys.
def comparand (d : AwareDatetime) : Comparand (Int ⊕ String) where
  tzinfo := match d.clock.region with
    | none => .inl d.offset
    | some region => .inr region.key
  wall := d.instant + d.offset
  instant := d.instant
  depends := d.depends

-- a == b
def same (a b : AwareDatetime) : Bool := a.comparand.same b.comparand

theorem same_refl (d : AwareDatetime) : d.same d = true := comparand_same _

-- A datetime of a constant offset is equal to those of its instant that fold does not change.
theorem offset_same (instant : Instant) (offset : Int) (d : AwareDatetime) :
    (⟨instant,⟨offset,none⟩⟩ : AwareDatetime).same d = (decide (instant = d.instant) && !d.depends) := by
  unfold same Comparand.same
  split
  · rename_i zones
    obtain ⟨instant',offset',region⟩ := d
    cases region with
    | some region => cases zones
    | none =>
      cases zones
      simp [comparand,depends,AwareDatetime.offset]
  · exact congrArg (· && !d.depends) (Bool.and_true _)

end AwareDatetime

-- A datetime object in a zone that may be a region; its text does not name that.
structure ZonedTimestamp extends Timestamp where
  region : Option Region := none
  deriving DecidableEq

namespace ZonedTimestamp

def aware (t : ZonedTimestamp) : AwareDatetime := ⟨t.instant,⟨t.offset,t.region⟩⟩

-- The same datetime in the zone of its offset alone.
def unzoned (t : ZonedTimestamp) : ZonedTimestamp := ⟨t.toTimestamp,none⟩

def depends (t : ZonedTimestamp) : Bool := t.aware.depends

end ZonedTimestamp

end SwapMonitor
