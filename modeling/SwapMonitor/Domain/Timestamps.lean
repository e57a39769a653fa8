import SwapMonitor.Numerals.Digits
import SwapMonitor.Domain.Values
import Mathlib.Tactic.NormNum

namespace SwapMonitor
open Numerals

def isLeap (year : Nat) : Bool := decide (year % 4 = 0 ∧ (year % 100 ≠ 0 ∨ year % 400 = 0))

def daysInMonth (year month : Nat) : Nat :=
  if month = 2 then if isLeap year then 29 else 28
  else if month ∈ [4,6,9,11] then 30 else 31

def daysBeforeMonth (year month : Nat) : Nat := ((List.range (month - 1)).map fun m => daysInMonth year (m + 1)).sum

-- A date object.
structure CivilDate where
  year : Nat
  month : Nat
  day : Nat
  valid : (1 ≤ year ∧ year ≤ 9999) ∧ (1 ≤ month ∧ month ≤ 12) ∧ 1 ≤ day ∧ day ≤ daysInMonth year month
  deriving DecidableEq

-- date.toordinal()
def CivilDate.ordinal (d : CivilDate) : Nat :=
  let years := d.year - 1
  years * 365 + years / 4 - years / 100 + years / 400 + daysBeforeMonth d.year d.month + d.day

def MICROSECONDS_OF_DAY : Nat := 86400000000

-- An aware datetime object: what its clock shows, and by how many microseconds that is ahead of UTC.
structure Timestamp where
  date : CivilDate
  hour : Nat
  minute : Nat
  second : Nat
  microsecond : Nat
  offset : Int
  clock : hour < 24 ∧ minute < 60 ∧ second < 60 ∧ microsecond < 1000000
  near : offset.natAbs < MICROSECONDS_OF_DAY
  deriving DecidableEq

-- What aware datetimes are compared by, in microseconds from 1970.
def Timestamp.instant (t : Timestamp) : Instant :=
  ((t.date.ordinal : Int) - 719163) * MICROSECONDS_OF_DAY +
    (((t.hour * 60 + t.minute) * 60 + t.second) * 1000000 + t.microsecond : Nat) - t.offset

def CivilDate.chars (d : CivilDate) : List Char :=
  fixed 10 4 d.year ++ '-' :: fixed 10 2 d.month ++ '-' :: fixed 10 2 d.day

-- date.isoformat()
def CivilDate.isoformat (d : CivilDate) : String := String.ofList d.chars

def fractionChars (micros : Nat) : List Char := if micros = 0 then [] else '.' :: fixed 10 6 micros

def clockChars (hour minute second micros : Nat) : List Char :=
  fixed 10 2 hour ++ ':' :: fixed 10 2 minute ++ ':' :: fixed 10 2 second ++ fractionChars micros

-- The seconds of an offset are shown only when there are some.
def zoneChars (size : Nat) : List Char :=
  if size % 60000000 = 0 then fixed 10 2 (size / 3600000000) ++ ':' :: fixed 10 2 (size / 60000000 % 60)
  else clockChars (size / 3600000000) (size / 60000000 % 60) (size / 1000000 % 60) (size % 1000000)

def offsetChars (offset : Int) : List Char := (if offset < 0 then '-' else '+') :: zoneChars offset.natAbs

-- datetime.isoformat()
def Timestamp.isoformat (t : Timestamp) : String :=
  String.ofList (t.date.chars ++ 'T' :: clockChars t.hour t.minute t.second t.microsecond ++ offsetChars t.offset)

-- The next characters as a decimal numeral of that many digits.
def takeNumber (width : Nat) (cs : List Char) : Option (Nat × List Char) :=
  if cs.length < width then none else (readNumeral 10 (cs.take width) 0).map fun n => (n,cs.drop width)

def readDate (year month day : Nat) : Option CivilDate :=
  if valid : (1 ≤ year ∧ year ≤ 9999) ∧ (1 ≤ month ∧ month ≤ 12) ∧ 1 ≤ day ∧ day ≤ daysInMonth year month then
    some ⟨year,month,day,valid⟩
  else none

-- The forms YYYY-MM-DD and YYYYMMDD at the start of a text.
def takeDate (cs : List Char) : Option (CivilDate × List Char) := do
  let (year,rest) ← takeNumber 4 cs
  let dashed := rest.head? == some '-'
  let (month,rest) ← takeNumber 2 (if dashed then rest.drop 1 else rest)
  if (rest.head? == some '-') != dashed then none
  else
    let (day,rest) ← takeNumber 2 (if dashed then rest.drop 1 else rest)
    let date ← readDate year month day
    pure (date,rest)

-- date.fromisoformat(text)
def parseDate (text : String) : Option CivilDate := do
  let (date,rest) ← takeDate text.toList
  if rest = [] then pure date else none

-- A point or a comma and digits, of which the first six count.
def readFraction : List Char → Option Nat
  | [] => some 0
  | c :: digits =>
    if (c = '.' ∨ c = ',') ∧ digits ≠ [] then do
      let micros ← readNumeral 10 (digits.take 6) 0
      let _ ← readNumeral 10 (digits.drop 6) 0
      pure (micros * 10 ^ (6 - digits.length))
    else none

-- _parse_hh_mm_ss_ff: the minutes and the seconds may be left out, and the colons.
def readClock (cs : List Char) : Option (Nat × Nat × Nat × Nat) := do
  let (hour,rest) ← takeNumber 2 cs
  if rest = [] then pure (hour,0,0,0)
  else
    let colons := rest.head? == some ':'
    let (minute,rest) ← takeNumber 2 (if colons then rest.drop 1 else rest)
    if rest = [] then pure (hour,minute,0,0)
    else if colons && rest.head? != some ':' then none
    else
      let (second,rest) ← takeNumber 2 (if colons then rest.drop 1 else rest)
      let micros ← readFraction rest
      pure (hour,minute,second,micros)

def isZoneMark (c : Char) : Bool := c == '+' || c == '-' || c == 'Z'

def readOffset (mark : Char) (cs : List Char) : Option Int :=
  if mark = 'Z' then if cs = [] then some 0 else none
  else do
    let (hour,minute,second,micros) ← readClock cs
    let size := ((hour * 60 + minute) * 60 + second) * 1000000 + micros
    if size < MICROSECONDS_OF_DAY then pure (if mark = '-' then -(size : Int) else size) else none

-- The clock a text shows, and its offset when it has one.
def readTime (cs : List Char) : Option ((Nat × Nat × Nat × Nat) × Option Int) := do
  let clock ← readClock (cs.takeWhile fun c => !isZoneMark c)
  match cs.dropWhile fun c => !isZoneMark c with
  | [] => pure (clock,none)
  | mark :: zone => do
    let offset ← readOffset mark zone
    pure (clock,some offset)

-- datetime.fromisoformat(text) of the forms with a month and a day; a naive datetime is none.
def fromisoformat (text : String) : Option (Option Timestamp) := do
  let (date,rest) ← takeDate text.toList
  let ((hour,minute,second,microsecond),offset) ←
    if rest.drop 1 = [] then some ((0,0,0,0),none) else readTime (rest.drop 1)
  if clock : hour < 24 ∧ minute < 60 ∧ second < 60 ∧ microsecond < 1000000 then
    match offset with
    | none => pure none
    | some offset =>
      if near : offset.natAbs < MICROSECONDS_OF_DAY then
        pure (some ⟨date,hour,minute,second,microsecond,offset,clock,near⟩)
      else none
  else none

theorem number_read (width n : Nat) (room : n < 10 ^ width) (some_width : 0 < width) (rest : List Char) :
    takeNumber width (fixed 10 width n ++ rest) = some (n,rest) := by
  have length := fixed_length (by decide) room some_width
  rw [takeNumber,if_neg (by simp [length]),List.take_left' length,List.drop_left' length,
    read_fixed (by decide) (by decide) room some_width]
  simp

theorem two_read {n : Nat} (small : n < 100) (rest : List Char) : takeNumber 2 (fixed 10 2 n ++ rest) = some (n,rest) :=
  number_read 2 n small (by decide) rest

theorem days_bound (year month : Nat) : daysInMonth year month ≤ 31 := by
  unfold daysInMonth
  repeat' split
  all_goals decide

theorem digit_unmarked : ∀ d < 10, isZoneMark (Nat.digitChar d) = false := by decide

theorem date_taken (d : CivilDate) (rest : List Char) : takeDate (d.chars ++ rest) = some (d,rest) := by
  obtain ⟨⟨_,year⟩,⟨_,month⟩,_,day⟩ := d.valid
  have days := days_bound d.year d.month
  simp only [takeDate,CivilDate.chars,List.append_assoc,List.cons_append]
  simp only [number_read 4 d.year (by omega) (by decide),two_read (by omega : d.month < 100),
    two_read (by omega : d.day < 100),Option.bind_eq_bind,Option.bind_some,List.head?_cons,beq_self_eq_true,if_true,
    List.drop_succ_cons,List.drop_zero,bne_self_eq_false,Bool.false_eq_true,if_false]
  rw [readDate,dif_pos d.valid]
  rfl

-- date.fromisoformat undoes date.isoformat.
theorem date_restored (d : CivilDate) : parseDate d.isoformat = some d := by
  have taken := date_taken d []
  rw [List.append_nil] at taken
  simp [parseDate,CivilDate.isoformat,taken]

theorem fraction_read {micros : Nat} (small : micros < 1000000) : readFraction (fractionChars micros) = some micros := by
  unfold fractionChars
  split
  · rename_i none_left
    rw [none_left]
    rfl
  · have length : (fixed 10 6 micros).length = 6 := fixed_length (by decide) small (by decide)
    have digits : readNumeral 10 (fixed 10 6 micros) 0 = some micros := by
      rw [read_fixed (by decide) (by decide) small (by decide)]
      simp
    have nonempty : fixed 10 6 micros ≠ [] := by
      intro empty
      rw [empty] at length
      cases length
    rw [readFraction,if_pos ⟨.inl rfl,nonempty⟩,List.take_of_length_le length.le,List.drop_eq_nil_of_le length.le,digits,
      length]
    simp [readNumeral]

-- A clock is read back whatever it shows, with or without its seconds.
theorem clock_read {hour minute second micros : Nat} (hours : hour < 100) (minutes : minute < 100) (seconds : second < 100)
    (small : micros < 1000000) :
    readClock (clockChars hour minute second micros) = some (hour,minute,second,micros) := by
  simp only [readClock,clockChars,List.append_assoc,List.cons_append]
  simp only [two_read hours,two_read minutes,two_read seconds,fraction_read small,Option.bind_eq_bind,Option.bind_some,
    List.head?_cons,beq_self_eq_true,if_true,List.drop_succ_cons,List.drop_zero,reduceCtorEq,if_false,bne_self_eq_false,
    Bool.and_false,Bool.false_eq_true]
  rfl

theorem short_clock_read {hour minute : Nat} (hours : hour < 100) (minutes : minute < 100) :
    readClock (fixed 10 2 hour ++ ':' :: fixed 10 2 minute) = some (hour,minute,0,0) := by
  have last := two_read minutes []
  rw [List.append_nil] at last
  simp only [readClock,two_read hours,last,Option.bind_eq_bind,Option.bind_some,List.head?_cons,beq_self_eq_true,if_true,
    List.drop_succ_cons,List.drop_zero,reduceCtorEq,if_false]
  rfl

theorem zone_read {size : Nat} (near : size < MICROSECONDS_OF_DAY) :
    readClock (zoneChars size) =
      some (size / 3600000000,size / 60000000 % 60,size / 1000000 % 60,size % 1000000) := by
  unfold MICROSECONDS_OF_DAY at near
  unfold zoneChars
  split
  · rename_i whole
    rw [short_clock_read (by omega) (by omega),show size / 1000000 % 60 = 0 by omega,show size % 1000000 = 0 by omega]
  · exact clock_read (by omega) (by omega) (by omega) (by omega)

theorem mark_read {size : Nat} {mark : Char} (near : size < MICROSECONDS_OF_DAY) (marked : mark ≠ 'Z') :
    readOffset mark (zoneChars size) = some (if mark = '-' then -(size : Int) else size) := by
  have whole : ((size / 3600000000 * 60 + size / 60000000 % 60) * 60 + size / 1000000 % 60) * 1000000 +
      size % 1000000 = size := by omega
  rw [readOffset,if_neg marked,zone_read near,Option.bind_eq_bind,Option.bind_some]
  dsimp only
  rw [whole,if_pos near]
  rfl

theorem offset_read {offset : Int} (near : offset.natAbs < MICROSECONDS_OF_DAY) :
    ∃ mark zone, offsetChars offset = mark :: zone ∧ isZoneMark mark = true ∧ readOffset mark zone = some offset := by
  by_cases negative : offset < 0
  · refine ⟨'-',zoneChars offset.natAbs,by rw [offsetChars,if_pos negative],rfl,?_⟩
    rw [mark_read near (by decide),if_pos rfl]
    exact congrArg some (by omega)
  · refine ⟨'+',zoneChars offset.natAbs,by rw [offsetChars,if_neg negative],rfl,?_⟩
    rw [mark_read near (by decide),if_neg (by decide)]
    exact congrArg some (by omega)

theorem clock_unmarked (hour minute second micros : Nat) :
    ∀ c ∈ clockChars hour minute second micros, (!isZoneMark c) = true := by
  intro c member
  have digits : ∀ width n, c ∈ fixed 10 width n → (!isZoneMark c) = true := by
    intro width n digit
    obtain ⟨d,small,rfl⟩ := fixed_chars (by decide) width n c digit
    rw [digit_unmarked d small]
    rfl
  simp only [clockChars,fractionChars,List.mem_append,List.mem_cons,List.append_assoc,List.cons_append] at member
  rcases member with hour | rfl | minute | rfl | second | fraction
  · exact digits _ _ hour
  · rfl
  · exact digits _ _ minute
  · rfl
  · exact digits _ _ second
  · split at fraction
    · cases fraction
    · rcases List.mem_cons.mp fraction with rfl | micros
      · rfl
      · exact digits _ _ micros

-- datetime.fromisoformat undoes datetime.isoformat, down to the microsecond and the offset.
theorem timestamp_restored (t : Timestamp) : fromisoformat t.isoformat = some (some t) := by
  obtain ⟨hours,minutes,seconds,micros⟩ := t.clock
  obtain ⟨mark,zone,shown,marked,read⟩ := offset_read t.near
  have unmarked := clock_unmarked t.hour t.minute t.second t.microsecond
  have stops : (fun c => !isZoneMark c) mark = false := by simp [marked]
  have time : readTime (clockChars t.hour t.minute t.second t.microsecond ++ offsetChars t.offset) =
      some ((t.hour,t.minute,t.second,t.microsecond),some t.offset) := by
    rw [readTime,shown,List.takeWhile_append_of_pos unmarked,List.dropWhile_append_of_pos unmarked,
      List.takeWhile_cons_of_neg (by simp [marked]),List.dropWhile_cons_of_neg (by simp [marked]),List.append_nil,
      clock_read (by omega) (by omega) (by omega) micros]
    simp [read]
  have some_time : ¬clockChars t.hour t.minute t.second t.microsecond ++ offsetChars t.offset = [] := by
    rw [shown]
    simp
  rw [fromisoformat,Timestamp.isoformat,String.toList_ofList,List.append_assoc,date_taken]
  simp only [Option.bind_eq_bind,Option.bind_some,List.cons_append,List.drop_succ_cons,List.drop_zero,some_time,if_false,
    time,t.clock,t.near,dif_pos]
  rfl

end SwapMonitor
