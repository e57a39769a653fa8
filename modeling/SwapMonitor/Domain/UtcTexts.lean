import SwapMonitor.Clocks.Datetimes
import SwapMonitor.Domain.Timestamps

namespace SwapMonitor
open Numerals

def daysInYear (year : Nat) : Nat := if isLeap year then 366 else 365

def daysBeforeYear (year : Nat) : Nat := (year - 1) * 365 + (year - 1) / 4 - (year - 1) / 100 + (year - 1) / 400

-- The year a day falls in, and the days of that year before it.
def yearOf : Nat → Nat → Nat → Option (Nat × Nat)
  | 0,_,_ => none
  | fuel + 1,year,days =>
    if days < daysInYear year then some (year,days) else yearOf fuel (year + 1) (days - daysInYear year)

def monthOf (year : Nat) : Nat → Nat → Nat → Option (Nat × Nat)
  | 0,_,_ => none
  | fuel + 1,month,days =>
    if days < daysInMonth year month then some (month,days) else monthOf year fuel (month + 1) (days - daysInMonth year month)

-- date.fromordinal(n)
def fromordinal (n : Nat) : Option CivilDate :=
  if n = 0 then none
  else do
    let (year,days) ← yearOf 9999 1 (n - 1)
    let (month,days) ← monthOf year 12 1 days
    readDate year month (days + 1)

-- The UTC clock at an instant, in the years a datetime can have.
def utcClock (instant : Instant) : Option Timestamp := do
  let days := instant / (MICROSECONDS_OF_DAY : Int)
  let micros := (instant % (MICROSECONDS_OF_DAY : Int)).toNat
  let date ← fromordinal (days + 719163).toNat
  have within : micros < 86400000000 := by unfold micros MICROSECONDS_OF_DAY; omega
  pure ⟨date,micros / 3600000000,micros / 60000000 % 60,micros / 1000000 % 60,micros % 1000000,0,
    ⟨by omega,Nat.mod_lt _ (by decide),Nat.mod_lt _ (by decide),Nat.mod_lt _ (by decide)⟩,by decide⟩

-- value.astimezone(UTC)
def Timestamp.astimezoneUtc (t : Timestamp) : Except PyError Timestamp :=
  match utcClock t.instant with
  | some utc => pure utc
  | none => raise .overflowError "date value out of range"

-- A UTC datetime with all six digits of its microseconds and a Z.
def utcChars (utc : Timestamp) : List Char :=
  utc.date.chars ++ 'T' :: (fixed 10 2 utc.hour ++ ':' :: (fixed 10 2 utc.minute ++ ':' :: (fixed 10 2 utc.second ++
    '.' :: (fixed 10 6 utc.microsecond ++ ['Z']))))

theorem year_days {year : Nat} (first : 1 ≤ year) : daysBeforeYear (year + 1) = daysBeforeYear year + daysInYear year := by
  obtain ⟨k,rfl⟩ : ∃ k, year = k + 1 := ⟨year - 1,by omega⟩
  have centuries : k / 100 ≤ k / 4 := Nat.div_le_div_left (by decide) (by decide)
  have hundred : (k + 1) % 100 = 0 → (k + 1) % 4 = 0 := by omega
  have fourth : (k + 1) % 400 = 0 → (k + 1) % 100 = 0 := by omega
  simp only [daysBeforeYear,daysInYear,isLeap,Nat.add_sub_cancel,Nat.succ_div,Nat.dvd_iff_mod_eq_zero]
  generalize k / 4 = quads at *
  generalize k / 100 = centuriesBefore at *
  generalize k / 400 = eras
  by_cases four : (k + 1) % 4 = 0 <;> by_cases century : (k + 1) % 100 = 0 <;> by_cases era : (k + 1) % 400 = 0 <;>
    simp [four,century,era] at hundred fourth ⊢ <;> omega

theorem month_days {year month : Nat} (first : 1 ≤ month) :
    daysBeforeMonth year (month + 1) = daysBeforeMonth year month + daysInMonth year month := by
  obtain ⟨k,rfl⟩ : ∃ k, month = k + 1 := ⟨month - 1,by omega⟩
  simp [daysBeforeMonth,List.range_succ]

theorem yearOf_days {fuel year days y rest : Nat} (first : 1 ≤ year) (found : yearOf fuel year days = some (y,rest)) :
    daysBeforeYear y + rest = daysBeforeYear year + days := by
  induction fuel generalizing year days with
  | zero => cases found
  | succ fuel ih =>
    unfold yearOf at found
    split at found
    · cases found
      rfl
    · have later := ih (by omega) found
      rw [year_days first] at later
      omega

theorem monthOf_days {year fuel month days m rest : Nat} (first : 1 ≤ month) (found : monthOf year fuel month days = some (m,rest)) :
    daysBeforeMonth year m + rest = daysBeforeMonth year month + days := by
  induction fuel generalizing month days with
  | zero => cases found
  | succ fuel ih =>
    unfold monthOf at found
    split at found
    · cases found
      rfl
    · have later := ih (by omega) found
      rw [month_days first] at later
      omega

theorem readDate_fields {year month day : Nat} {date : CivilDate} (read : readDate year month day = some date) :
    date.year = year ∧ date.month = month ∧ date.day = day := by
  unfold readDate at read
  split at read
  · cases read
    exact ⟨rfl,rfl,rfl⟩
  · cases read

theorem ordinal_found {n : Nat} {date : CivilDate} (found : fromordinal n = some date) : date.ordinal = n ∧ n ≠ 0 := by
  unfold fromordinal at found
  split at found
  · cases found
  · rename_i positive
    simp only [Option.bind_eq_bind,Option.bind_eq_some_iff] at found
    obtain ⟨⟨year,days⟩,years,⟨month,rest⟩,months,read⟩ := found
    obtain ⟨rfl,rfl,day⟩ := readDate_fields read
    have before := yearOf_days (Nat.le_refl 1) years
    have within := monthOf_days (Nat.le_refl 1) months
    dsimp only at within
    have start : daysBeforeYear 1 = 0 := rfl
    have start' : daysBeforeMonth date.year 1 = 0 := rfl
    refine ⟨?_,positive⟩
    show daysBeforeYear date.year + daysBeforeMonth date.year date.month + date.day = n
    omega

-- Every day of the years of the search is found.
theorem yearOf_found {fuel year days : Nat} (first : 1 ≤ year) (within : daysBeforeYear year + days < daysBeforeYear (year + fuel)) :
    ∃ y rest, yearOf fuel year days = some (y,rest) ∧ (year ≤ y ∧ y < year + fuel) ∧ rest < daysInYear y := by
  induction fuel generalizing year days with
  | zero =>
    rw [Nat.add_zero] at within
    omega
  | succ fuel ih =>
    rw [yearOf]
    by_cases here : days < daysInYear year
    · exact ⟨year,days,if_pos here,⟨le_refl _,by omega⟩,here⟩
    · rw [show year + (fuel + 1) = year + 1 + fuel by omega] at within
      have next := year_days first
      obtain ⟨y,rest,found,between,part⟩ := @ih (year + 1) (days - daysInYear year) (by omega) (by omega)
      exact ⟨y,rest,by rw [if_neg here,found],by omega,part⟩

theorem monthOf_found {year fuel month days : Nat} (first : 1 ≤ month)
    (within : daysBeforeMonth year month + days < daysBeforeMonth year (month + fuel)) :
    ∃ m rest, monthOf year fuel month days = some (m,rest) ∧ (month ≤ m ∧ m < month + fuel) ∧ rest < daysInMonth year m := by
  induction fuel generalizing month days with
  | zero =>
    rw [Nat.add_zero] at within
    omega
  | succ fuel ih =>
    rw [monthOf]
    by_cases here : days < daysInMonth year month
    · exact ⟨month,days,if_pos here,⟨le_refl _,by omega⟩,here⟩
    · rw [show month + (fuel + 1) = month + 1 + fuel by omega] at within
      have next : daysBeforeMonth year (month + 1) = daysBeforeMonth year month + daysInMonth year month := month_days first
      obtain ⟨m,rest,found,between,part⟩ := @ih (month + 1) (days - daysInMonth year month) (by omega) (by omega)
      exact ⟨m,rest,by rw [if_neg here,found],by omega,part⟩

theorem months_year (year : Nat) : daysBeforeMonth year 13 = daysInYear year := by
  simp only [daysBeforeMonth,daysInYear,daysInMonth]
  cases isLeap year <;> rfl

theorem years_mono {year later : Nat} (first : 1 ≤ year) (order : year ≤ later) : daysBeforeYear year ≤ daysBeforeYear later := by
  induction later,order using Nat.le_induction with
  | base => exact le_refl _
  | succ later order ih =>
    rw [year_days (first.trans order)]
    exact ih.trans (Nat.le_add_right ..)

theorem months_mono {year month later : Nat} (first : 1 ≤ month) (order : month ≤ later) :
    daysBeforeMonth year month ≤ daysBeforeMonth year later := by
  induction later,order using Nat.le_induction with
  | base => exact le_refl _
  | succ later order ih =>
    rw [month_days (first.trans order)]
    exact ih.trans (Nat.le_add_right ..)

-- The dates are the days of the years from 1 to 9999.
theorem fromordinal_found {n : Nat} (positive : 0 < n) (within : n ≤ daysBeforeYear 10000) : ∃ date, fromordinal n = some date := by
  have start : daysBeforeYear 1 = 0 := rfl
  obtain ⟨year,days,years,⟨early,late⟩,inYear⟩ : ∃ year days, yearOf 9999 1 (n - 1) = some (year,days) ∧ (1 ≤ year ∧ year < 1 + 9999) ∧
      days < daysInYear year := by
    refine yearOf_found (le_refl _) ?_
    show daysBeforeYear 1 + (n - 1) < daysBeforeYear 10000
    omega
  have start' : daysBeforeMonth year 1 = 0 := rfl
  obtain ⟨month,rest,months,⟨low,high⟩,inMonth⟩ : ∃ month rest, monthOf year 12 1 days = some (month,rest) ∧
      (1 ≤ month ∧ month < 1 + 12) ∧ rest < daysInMonth year month := by
    refine monthOf_found (le_refl _) ?_
    show daysBeforeMonth year 1 + days < daysBeforeMonth year 13
    rw [months_year]
    omega
  have valid : (1 ≤ year ∧ year ≤ 9999) ∧ (1 ≤ month ∧ month ≤ 12) ∧ 1 ≤ rest + 1 ∧ rest + 1 ≤ daysInMonth year month :=
    ⟨⟨early,by omega⟩,⟨low,by omega⟩,by omega,inMonth⟩
  refine ⟨⟨year,month,rest + 1,valid⟩,?_⟩
  simp only [fromordinal,if_neg positive.ne',years,months,Option.bind_eq_bind,Option.bind_some]
  exact dif_pos valid

theorem ordinal_bounds (date : CivilDate) : 0 < date.ordinal ∧ date.ordinal ≤ daysBeforeYear 10000 := by
  obtain ⟨⟨early,late⟩,⟨low,high⟩,day,short⟩ := date.valid
  have parts : date.ordinal = daysBeforeYear date.year + daysBeforeMonth date.year date.month + date.day := rfl
  have year := years_mono (show 1 ≤ date.year + 1 by omega) (show date.year + 1 ≤ 10000 by omega)
  have month : daysBeforeMonth date.year (date.month + 1) ≤ daysBeforeMonth date.year 13 := months_mono (by omega) (by omega)
  rw [year_days early] at year
  rw [month_days low,months_year] at month
  omega

theorem clock_whole (r : Nat) :
    ((r / 3600000000 * 60 + r / 60000000 % 60) * 60 + r / 1000000 % 60) * 1000000 + r % 1000000 = r := by omega

theorem utcClock_instant {instant : Instant} {utc : Timestamp} (shown : utcClock instant = some utc) :
    utc.instant = instant ∧ utc.offset = 0 := by
  simp only [utcClock,Option.bind_eq_bind,Option.bind_eq_some_iff] at shown
  obtain ⟨date,found,same⟩ := shown
  obtain ⟨ordinal,positive⟩ := ordinal_found found
  cases same
  have days : ((instant / (MICROSECONDS_OF_DAY : Int) + 719163).toNat : Int) = instant / (MICROSECONDS_OF_DAY : Int) + 719163 := by
    omega
  have micros : ((instant % (MICROSECONDS_OF_DAY : Int)).toNat : Int) = instant % (MICROSECONDS_OF_DAY : Int) :=
    Int.toNat_of_nonneg (Int.emod_nonneg _ (by decide))
  have parts := Int.mul_ediv_add_emod instant (MICROSECONDS_OF_DAY : Int)
  refine ⟨?_,rfl⟩
  unfold Timestamp.instant
  dsimp only
  rw [ordinal,days,clock_whole,micros,Int.add_sub_cancel,Int.sub_zero,Int.mul_comm]
  exact parts

-- UTC shows what a clock can show.
theorem utcClock_shown (instant : Instant) : (utcClock instant).isSome = true ↔ Clocks.Shown instant := by
  have years : daysBeforeYear 10000 = 3652059 := by decide
  constructor
  · intro some
    obtain ⟨utc,shown⟩ := Option.isSome_iff_exists.mp some
    obtain ⟨rfl,offset⟩ := utcClock_instant shown
    obtain ⟨low,high⟩ := ordinal_bounds utc.date
    obtain ⟨hour,minute,second,micro⟩ := utc.clock
    rw [years] at high
    unfold Clocks.Shown Clocks.DATETIME_MIN Clocks.DATETIME_MAX Timestamp.instant MICROSECONDS_OF_DAY
    rw [offset]
    push_cast
    omega
  · rintro ⟨low,high⟩
    unfold Clocks.DATETIME_MIN at low
    unfold Clocks.DATETIME_MAX at high
    obtain ⟨date,found⟩ : ∃ date, fromordinal (instant / (MICROSECONDS_OF_DAY : Int) + 719163).toNat = .some date := by
      refine fromordinal_found ?_ ?_ <;> unfold MICROSECONDS_OF_DAY <;> omega
    simp only [utcClock,found,Option.bind_eq_bind,Option.bind_some,Option.pure_def,Option.isSome_some]

theorem utc_text {utc other : Timestamp} (zone : utc.offset = 0) (zone' : other.offset = 0)
    (same : utcChars utc = utcChars other) : utc = other := by
  have date := congrArg takeDate same
  rw [utcChars,utcChars,date_taken,date_taken] at date
  obtain ⟨dates,rest⟩ := Prod.mk.inj (Option.some.inj date)
  have fields : ∀ width n m rest rest', 0 < width → n < 10 ^ width → m < 10 ^ width →
      fixed 10 width n ++ rest = fixed 10 width m ++ rest' → n = m ∧ rest = rest' := by
    intro width n m rest rest' positive room room' same
    have read := congrArg (takeNumber width) same
    rw [number_read width n room positive,number_read width m room' positive] at read
    exact Prod.mk.inj (Option.some.inj read)
  obtain ⟨hour,minute,second,micros⟩ := utc.clock
  obtain ⟨hour',minute',second',micros'⟩ := other.clock
  obtain ⟨hours,rest⟩ := fields 2 _ _ _ _ (by decide) (by omega) (by omega) (List.tail_eq_of_cons_eq rest)
  obtain ⟨minutes,rest⟩ := fields 2 _ _ _ _ (by decide) (by omega) (by omega) (List.tail_eq_of_cons_eq rest)
  obtain ⟨seconds,rest⟩ := fields 2 _ _ _ _ (by decide) (by omega) (by omega) (List.tail_eq_of_cons_eq rest)
  obtain ⟨microseconds,_⟩ := fields 6 _ _ _ _ (by decide) (by omega) (by omega) (List.tail_eq_of_cons_eq rest)
  cases utc
  cases other
  simp only at dates hours minutes seconds microseconds zone zone'
  subst dates hours minutes seconds microseconds zone zone'
  rfl

end SwapMonitor
