import Mathlib.Order.Lattice
import Mathlib.Data.Int.Order.Basic
import Mathlib.Tactic.Common

namespace Clocks

-- Instants and spans of time are counted in microseconds, dates in days.
def DAY : Int := 86400000000

-- A datetime shows a time between the years 1 and 9999, in microseconds from 1970.
def DATETIME_MIN : Int := -62135596800000000
def DATETIME_MAX : Int := 253402300799999999

def Shown (reading : Int) : Prop := DATETIME_MIN ≤ reading ∧ reading ≤ DATETIME_MAX

instance (reading : Int) : Decidable (Shown reading) := inferInstanceAs (Decidable (_ ∧ _))

-- datetime.tzinfo: the offset of a wall clock reading, and the reading of an instant, which has that instant.
class Tzinfo (Zone : Type) where
  utcoffset : Zone → Int → Bool → Int
  fromutc : Zone → Int → Int × Bool
  exact : ∀ zone instant, (fromutc zone instant).1 - utcoffset zone (fromutc zone instant).1 (fromutc zone instant).2 = instant

-- A date is shown as its midnight is.
def ShownDate (date : Int) : Prop := Shown (date * DAY)

instance (date : Int) : Decidable (ShownDate date) := inferInstanceAs (Decidable (Shown _))

-- An aware datetime: a reading of the clock in its zone, and which of two equal readings it is.
structure Datetime (Zone : Type) where
  wall : Int
  fold : Bool
  tzinfo : Zone
  deriving DecidableEq

-- What == looks at in an aware datetime.
structure Comparand (Zone : Type) where
  tzinfo : Zone
  wall : Int
  instant : Int
  depends : Bool

variable {Zone : Type} [DecidableEq Zone] [Tzinfo Zone]

-- a == b: two readings of one zone are compared by their clocks, and one that fold changes is equal to none of another zone.
def Comparand.same (a b : Comparand Zone) : Bool :=
  if a.tzinfo = b.tzinfo then decide (a.wall = b.wall) else decide (a.instant = b.instant) && !a.depends && !b.depends

omit [Tzinfo Zone] in
theorem comparand_same (a : Comparand Zone) : a.same a = true := by simp [Comparand.same]

namespace Datetime

def utcoffset (d : Datetime Zone) : Int := Tzinfo.utcoffset d.tzinfo d.wall d.fold

def instant (d : Datetime Zone) : Int := d.wall - d.utcoffset

-- Whether the other reading of the same clock is another instant.
def depends (d : Datetime Zone) : Bool := decide (Tzinfo.utcoffset d.tzinfo d.wall (!d.fold) ≠ d.utcoffset)

-- a < b: two datetimes of one zone are compared by their clocks.
def lt (a b : Datetime Zone) : Bool :=
  if a.tzinfo = b.tzinfo then decide (a.wall < b.wall) else decide (a.instant < b.instant)

def le (a b : Datetime Zone) : Bool := !b.lt a

def comparand (d : Datetime Zone) : Comparand Zone := ⟨d.tzinfo,d.wall,d.instant,d.depends⟩

-- a == b
def same (a b : Datetime Zone) : Bool := a.comparand.same b.comparand

-- a - b
def since (a b : Datetime Zone) : Int :=
  if a.tzinfo = b.tzinfo then a.wall - b.wall else a.instant - b.instant

-- d + delta
def plus (d : Datetime Zone) (delta : Int) : Datetime Zone := ⟨d.wall + delta,false,d.tzinfo⟩

def astimezone (d : Datetime Zone) (zone : Zone) : Datetime Zone :=
  if d.tzinfo = zone then d else ⟨(Tzinfo.fromutc zone d.instant).1,(Tzinfo.fromutc zone d.instant).2,zone⟩

def date (d : Datetime Zone) : Int := d.wall / DAY

-- max(a, b) and min(a, b) keep the first of two equal arguments.
def maximum (a b : Datetime Zone) : Datetime Zone := if a.lt b then b else a
def minimum (a b : Datetime Zone) : Datetime Zone := if b.lt a then b else a

-- Another zone is reached by way of the UTC reading, and clocks must show both.
def Convertible (d : Datetime Zone) (zone : Zone) : Prop := d.tzinfo ≠ zone → Shown d.instant ∧ Shown (d.astimezone zone).wall

instance (d : Datetime Zone) (zone : Zone) : Decidable (d.Convertible zone) := inferInstanceAs (Decidable (_ → _))

@[simp] theorem astimezone_instant (d : Datetime Zone) (zone : Zone) : (d.astimezone zone).instant = d.instant := by
  unfold astimezone
  split
  · rfl
  · exact Tzinfo.exact zone d.instant

@[simp] theorem astimezone_tzinfo (d : Datetime Zone) (zone : Zone) : (d.astimezone zone).tzinfo = zone := by
  unfold astimezone
  split
  · assumption
  · rfl

theorem astimezone_again (d : Datetime Zone) (zone : Zone) : (d.astimezone zone).astimezone zone = d.astimezone zone :=
  if_pos (astimezone_tzinfo d zone)

-- Equal times in one zone have the same reading in another.
theorem convertible_same {d e : Datetime Zone} {zone : Zone} (zones : d.tzinfo = e.tzinfo) (instants : d.instant = e.instant)
    (converts : d.Convertible zone) : e.Convertible zone := by
  intro other
  have other' : d.tzinfo ≠ zone := zones ▸ other
  have shown := converts other'
  rw [astimezone,if_neg other',instants] at shown
  rw [astimezone,if_neg other]
  exact shown

end Datetime

-- Every zone keeps one offset.
def FixedOffsets (Zone : Type) [Tzinfo Zone] : Prop :=
  ∀ (zone : Zone) (wall wall' : Int) (fold fold' : Bool), Tzinfo.utcoffset zone wall fold = Tzinfo.utcoffset zone wall' fold'

-- One of them does.
def FixedOffset (zone : Zone) : Prop := ∀ (wall wall' : Int) (fold fold' : Bool),
  Tzinfo.utcoffset zone wall fold = Tzinfo.utcoffset zone wall' fold'

namespace Datetime
section Fixed
variable (fixed : FixedOffsets Zone)
include fixed

omit [DecidableEq Zone] in
theorem same_offset {a b : Datetime Zone} (zones : a.tzinfo = b.tzinfo) : a.utcoffset = b.utcoffset := by
  unfold utcoffset
  rw [zones]
  exact fixed ..

theorem lt_instant (a b : Datetime Zone) : a.lt b = decide (a.instant < b.instant) := by
  unfold lt
  split
  · rename_i zones
    have offsets := same_offset fixed zones
    unfold instant
    rw [offsets,decide_eq_decide]
    omega
  · rfl

theorem le_instant (a b : Datetime Zone) : a.le b = decide (a.instant ≤ b.instant) := by
  rw [le,lt_instant fixed,← decide_not,decide_eq_decide]
  exact not_lt

omit [DecidableEq Zone] in
theorem never_depends (d : Datetime Zone) : d.depends = false := decide_eq_false fun changes => changes (fixed ..)

theorem same_instant (a b : Datetime Zone) : a.same b = decide (a.instant = b.instant) := by
  simp only [same,Comparand.same,comparand,never_depends fixed,Bool.not_false,Bool.and_true]
  split
  · rename_i zones
    have offsets := same_offset fixed zones
    unfold instant
    rw [offsets,decide_eq_decide]
    omega
  · rfl

theorem since_instant (a b : Datetime Zone) : a.since b = a.instant - b.instant := by
  unfold since
  split
  · rename_i zones
    have offsets := same_offset fixed zones
    unfold instant
    omega
  · rfl

omit [DecidableEq Zone] in
theorem plus_instant (d : Datetime Zone) (delta : Int) : (d.plus delta).instant = d.instant + delta := by
  have offsets : (d.plus delta).utcoffset = d.utcoffset := same_offset fixed rfl
  rw [instant,offsets,instant]
  show d.wall + delta - d.utcoffset = d.wall - d.utcoffset + delta
  omega

theorem maximum_instant (a b : Datetime Zone) : (a.maximum b).instant = max a.instant b.instant := by
  unfold maximum
  rw [lt_instant fixed]
  split <;> simp_all [le_of_lt]

theorem minimum_instant (a b : Datetime Zone) : (a.minimum b).instant = min a.instant b.instant := by
  unfold minimum
  rw [lt_instant fixed]
  split <;> simp_all [le_of_lt]

-- Readings of one zone have the order of their instants.
omit [DecidableEq Zone] in
theorem wall_order {a b : Datetime Zone} (zones : a.tzinfo = b.tzinfo) : a.wall ≤ b.wall ↔ a.instant ≤ b.instant := by
  have offsets := same_offset fixed zones
  unfold instant
  omega

theorem date_same {d e : Datetime Zone} (instants : d.instant = e.instant) (zone : Zone) :
    (d.astimezone zone).date = (e.astimezone zone).date := by
  have zones : (d.astimezone zone).tzinfo = (e.astimezone zone).tzinfo := by rw [astimezone_tzinfo,astimezone_tzinfo]
  have walls := wall_order fixed zones
  have walls' := wall_order fixed zones.symm
  rw [astimezone_instant,astimezone_instant] at walls walls'
  rw [date,date]
  congr 1
  omega

end Fixed
end Datetime

-- A timezone of a constant offset.
structure Offset where
  delta : Int
  deriving DecidableEq

instance : Tzinfo Offset where
  utcoffset zone _ _ := zone.delta
  fromutc zone instant := (instant + zone.delta,false)
  exact _ _ := Int.add_sub_cancel ..

theorem offsets_fixed : FixedOffsets Offset := fun _ _ _ _ _ => rfl

end Clocks
