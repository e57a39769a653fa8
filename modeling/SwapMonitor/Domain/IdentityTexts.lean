import SwapMonitor.Clocks.Datetimes
import SwapMonitor.Domain.Errors
import SwapMonitor.Domain.TextForms
import SwapMonitor.Domain.UtcTexts
import SwapMonitor.JsonText.Rendering
import Mathlib.Data.List.Basic

namespace SwapMonitor.Identities
open Clocks JsonText Numerals

-- value.lower(); of all letters only A to F become hexadecimal digits.
def lower (value : String) : String := String.ofList (value.toList.map Char.toLower)

def isSha256 (value : String) : Bool :=
  value.length == 64 && (lower value).toList.all fun character => "0123456789abcdef".toList.contains character

abbrev Members := List (String × String)

-- json.dumps with ensure_ascii=False and sort_keys=True of members that are in the order of their keys.
def canonicalJson (members : Members) : String := (Tree.obj (members.map fun member => (member.1,.str member.2))).text

-- datetime.isoformat(timespec="microseconds")
def isoformatMicroseconds (t : Timestamp) : String :=
  String.ofList (t.date.chars ++ 'T' :: (fixed 10 2 t.hour ++ ':' :: (fixed 10 2 t.minute ++ ':' :: (fixed 10 2 t.second ++
    '.' :: (fixed 10 6 t.microsecond ++ offsetChars t.offset)))))

section Scans
variable {Zone : Type} [DecidableEq Zone] [Tzinfo Zone]

-- What the clock of a datetime shows, in the years a datetime can have.
def reading (d : Datetime Zone) : Except PyError Timestamp :=
  match utcClock d.wall with
  | none => raise .overflowError "date value out of range"
  | some shown =>
    if near : d.utcoffset.natAbs < MICROSECONDS_OF_DAY then pure {shown with offset := d.utcoffset,near := near}
    else raise .valueError "offset must be a timedelta strictly between -timedelta(hours=24) and timedelta(hours=24)"

def SCAN_IDENTITY_FORMAT_VERSION : String := "1"

structure ScanIdentity (Zone : Type) where
  rotationPlanId : UUID
  marketSessionDate : CivilDate
  scanWindowStart : Datetime Zone
  scanInterval : String
  configurationSnapshotHash : String
  marketTimezone : String
  formatVersion : String := SCAN_IDENTITY_FORMAT_VERSION
  room : rotationPlanId < 2 ^ 128

namespace ScanIdentity
variable (zoneInfo : String → Option Zone)

-- ScanIdentity.__post_init__; a ZoneInfo has the key it was asked for.
def postInit (given : ScanIdentity Zone) : Except PyError (ScanIdentity Zone) := do
  raiseIf (blank given.scanInterval) .valueError "scan_interval must not be blank"
  raiseIf (!isSha256 given.configurationSnapshotHash) .valueError
    "configuration_snapshot_hash must be a SHA-256 hexadecimal digest"
  raiseIf (decide (given.formatVersion ≠ SCAN_IDENTITY_FORMAT_VERSION)) .valueError
    "scan identity format_version is not supported"
  match zoneInfo given.marketTimezone with
  | none => raise .valueError "market_timezone must be a valid IANA timezone"
  | some timezone => do
    let shown ← reading (given.scanWindowStart.astimezone timezone)
    raiseIf (decide (given.marketSessionDate ≠ shown.date)) .valueError
      "market_session_date must match scan_window_start in market_timezone"
    pure {given with configurationSnapshotHash := lower given.configurationSnapshotHash}

def canonicalPayload (identity : ScanIdentity Zone) : Except PyError Members :=
  match zoneInfo identity.marketTimezone with
  | none => raise (.operationFailed "ZoneInfoNotFoundError") ("No time zone found with key " ++ identity.marketTimezone)
  | some timezone => do
    let marketWindowStart ← reading (identity.scanWindowStart.astimezone timezone)
    pure [("configuration_snapshot_hash",identity.configurationSnapshotHash),
      ("format_version",identity.formatVersion),
      ("market_session_date",identity.marketSessionDate.isoformat),
      ("market_timezone",identity.marketTimezone),
      ("rotation_plan_id",uuidText identity.rotationPlanId),
      ("scan_interval",identity.scanInterval),
      ("scan_window_start",isoformatMicroseconds marketWindowStart)]

def key (sha256 : String → Digest) (identity : ScanIdentity Zone) : Except PyError Digest := do
  let canonicalPayload ← identity.canonicalPayload zoneInfo
  pure (sha256 (canonicalJson canonicalPayload))

-- A value the constructor returns.
def Constructible (identity : ScanIdentity Zone) : Prop := ∃ given : ScanIdentity Zone, given.postInit zoneInfo = .ok identity

end ScanIdentity

end Scans

def FINAL_STRATEGY_IDENTITY_FORMAT_VERSION : String := "strategy-run:v1"

structure FinalStrategyIdentity where
  scanLockKey : String
  marketDataSnapshotId : String
  marketDataContentHash : String
  formatVersion : String := FINAL_STRATEGY_IDENTITY_FORMAT_VERSION

-- _require_sha256
def requireSha256 (value fieldName : String) : Except PyError Unit :=
  raiseIf (!isSha256 value) .valueError (fieldName ++ " must be a SHA-256 hexadecimal digest")

-- _validate_snapshot_id
def validateSnapshotId (snapshotId contentHash : String) : Except PyError Unit :=
  match snapshotId.toList.splitOn ':' with
  | [first,second,third] => do
    raiseIf (decide (String.ofList first ≠ "market-data" ∨ String.ofList second ≠ "v1")) .valueError
      "market_data_snapshot_id must use the market-data:v1 format"
    raiseIf (decide (lower (String.ofList third) ≠ lower contentHash)) .valueError
      "market_data_snapshot_id must reference market_data_content_hash"
  | _ => raise .valueError "market_data_snapshot_id must use the market-data:v1 format"

namespace FinalStrategyIdentity

-- FinalStrategyIdentity.__post_init__
def postInit (given : FinalStrategyIdentity) : Except PyError FinalStrategyIdentity := do
  requireSha256 given.scanLockKey "scan_lock_key"
  requireSha256 given.marketDataContentHash "market_data_content_hash"
  raiseIf (decide (given.formatVersion ≠ FINAL_STRATEGY_IDENTITY_FORMAT_VERSION)) .valueError
    "final strategy identity format_version is not supported"
  validateSnapshotId given.marketDataSnapshotId given.marketDataContentHash
  pure {given with scanLockKey := lower given.scanLockKey,marketDataContentHash := lower given.marketDataContentHash}

def canonicalPayload (identity : FinalStrategyIdentity) : Members :=
  [("format_version",identity.formatVersion),
    ("market_data_content_hash",identity.marketDataContentHash),
    ("market_data_snapshot_id",identity.marketDataSnapshotId),
    ("scan_lock_key",identity.scanLockKey)]

def key (sha256 : String → Digest) (identity : FinalStrategyIdentity) : Digest := sha256 (canonicalJson identity.canonicalPayload)

def Constructible (identity : FinalStrategyIdentity) : Prop := ∃ given : FinalStrategyIdentity, given.postInit = .ok identity

end FinalStrategyIdentity

theorem letter_lowered (c : Char) : c.toLower.toLower = c.toLower := by
  by_cases upper : 'A'.val ≤ c.val ∧ c.val ≤ 'Z'.val
  · have letters : ∀ n < 91, 65 ≤ n → (Char.ofNat n).toLower.toLower = (Char.ofNat n).toLower := by decide
    have within := letters c.toNat (Nat.lt_succ_of_le (UInt32.le_iff_toNat_le.mp upper.2)) (UInt32.le_iff_toNat_le.mp upper.1)
    rwa [Char.ofNat_toNat] at within
  · have kept : c.toLower = c := dif_neg upper
    rw [kept,kept]

theorem lower_lower (value : String) : lower (lower value) = lower value := by
  rw [lower,lower,String.toList_ofList,List.map_map]
  congr 1
  exact List.map_congr_left fun c _ => letter_lowered c

theorem json_injective {members others : Members} : canonicalJson members = canonicalJson others ↔ members = others := by
  have numbered : ∀ members : Members, (Tree.obj (members.map fun member => (member.1,.str member.2))).Numbered := by
    intro members
    rw [Tree.Numbered,numberedMembers_each]
    intro member inside
    obtain ⟨_,_,rfl⟩ := List.mem_map.mp inside
    trivial
  have each : Function.Injective fun member : String × String => (member.1,Tree.str member.2) := by
    intro member other same
    obtain ⟨name,value⟩ := Prod.mk.inj same
    exact Prod.ext name (Tree.str.inj value)
  rw [canonicalJson,canonicalJson,text_injective (numbered members) (numbered others),Tree.obj.injEq]
  exact (List.map_injective_iff.mpr each).eq_iff

theorem offset_injective {offset other : Int} (near : offset.natAbs < MICROSECONDS_OF_DAY) (near' : other.natAbs < MICROSECONDS_OF_DAY)
    (same : offsetChars offset = offsetChars other) : offset = other := by
  obtain ⟨mark,zone,shown,_,read⟩ := offset_read near
  obtain ⟨mark',zone',shown',_,read'⟩ := offset_read near'
  rw [shown,shown'] at same
  obtain ⟨rfl,rfl⟩ := List.cons.inj same
  exact Option.some.inj (read.symm.trans read')

theorem number_injective {width n m : Nat} {rest rest' : List Char} (positive : 0 < width) (room : n < 10 ^ width) (room' : m < 10 ^ width)
    (same : fixed 10 width n ++ rest = fixed 10 width m ++ rest') : n = m ∧ rest = rest' := by
  have taken := congrArg (takeNumber width) same
  rw [number_read width n room positive,number_read width m room' positive] at taken
  exact Prod.mk.inj (Option.some.inj taken)

theorem isoformat_injective : Function.Injective isoformatMicroseconds := by
  intro t other same
  have chars := String.ofList_injective same
  have dates := congrArg takeDate chars
  rw [date_taken,date_taken] at dates
  obtain ⟨date,rest⟩ := Prod.mk.inj (Option.some.inj dates)
  obtain ⟨hour,minute,second,micros⟩ := t.clock
  obtain ⟨hour',minute',second',micros'⟩ := other.clock
  obtain ⟨hours,rest⟩ := number_injective (by decide) (by omega) (by omega) (List.tail_eq_of_cons_eq rest)
  obtain ⟨minutes,rest⟩ := number_injective (by decide) (by omega) (by omega) (List.tail_eq_of_cons_eq rest)
  obtain ⟨seconds,rest⟩ := number_injective (by decide) (by omega) (by omega) (List.tail_eq_of_cons_eq rest)
  obtain ⟨microseconds,rest⟩ := number_injective (by decide) (by omega) (by omega) (List.tail_eq_of_cons_eq rest)
  have offset := offset_injective t.near other.near rest
  cases t
  cases other
  simp only at date hours minutes seconds microseconds offset
  subst date hours minutes seconds microseconds offset
  rfl

theorem date_injective : Function.Injective CivilDate.isoformat := by
  intro date other same
  have read := congrArg parseDate same
  rw [date_restored,date_restored] at read
  exact Option.some.inj read

theorem uuid_injective {id other : UUID} (room : id < 2 ^ 128) (room' : other < 2 ^ 128) (same : uuidText id = uuidText other) : id = other := by
  have read := congrArg parseUUID same
  rw [uuid_restored room,uuid_restored room'] at read
  exact Option.some.inj read

section Scans
variable {Zone : Type} [DecidableEq Zone] [Tzinfo Zone]

omit [DecidableEq Zone] in
theorem reading_clock {d : Datetime Zone} {t : Timestamp} (shown : reading d = .ok t) :
    t.offset = d.utcoffset ∧ t.instant = d.instant := by
  unfold reading at shown
  cases clock : utcClock d.wall with
  | none => simp [clock,raise] at shown
  | some utc =>
    simp only [clock] at shown
    split at shown
    · cases shown
      obtain ⟨instant,offset⟩ := utcClock_instant clock
      refine ⟨rfl,?_⟩
      have walls : utc.instant - d.utcoffset = d.wall - d.utcoffset := by rw [instant]
      rw [Datetime.instant,← walls]
      unfold Timestamp.instant
      dsimp only
      rw [offset,Int.sub_zero]
    · cases shown

-- A reading tells the clock and the offset of a datetime.
omit [DecidableEq Zone] in
theorem reading_injective {d other : Datetime Zone} {t t' : Timestamp} (shown : reading d = .ok t) (shown' : reading other = .ok t') :
    t = t' ↔ d.instant = other.instant ∧ d.wall = other.wall := by
  obtain ⟨offset,instant⟩ := reading_clock shown
  obtain ⟨offset',instant'⟩ := reading_clock shown'
  constructor
  · intro same
    subst same
    have instants : d.instant = other.instant := instant.symm.trans instant'
    have offsets := offset.symm.trans offset'
    refine ⟨instants,?_⟩
    unfold Datetime.instant at instants
    omega
  · intro ⟨instants,walls⟩
    have offsets : d.utcoffset = other.utcoffset := by
      unfold Datetime.instant at instants
      omega
    have readings : reading d = reading other := by simp only [reading,walls,offsets]
    exact Except.ok.inj (shown.symm.trans (readings.trans shown'))

namespace ScanIdentity
variable {zoneInfo : String → Option Zone}

-- The market clock of a scan, and what it shows.
structure Located (zoneInfo : String → Option Zone) (identity : ScanIdentity Zone) (timezone : Zone) (shown : Timestamp) : Prop where
  zone : zoneInfo identity.marketTimezone = some timezone
  read : reading (identity.scanWindowStart.astimezone timezone) = .ok shown
  date : identity.marketSessionDate = shown.date
  format : identity.formatVersion = SCAN_IDENTITY_FORMAT_VERSION
  hash : lower identity.configurationSnapshotHash = identity.configurationSnapshotHash

theorem constructible_located {identity : ScanIdentity Zone} (made : identity.Constructible zoneInfo) :
    ∃ timezone shown, Located zoneInfo identity timezone shown := by
  obtain ⟨given,did⟩ := made
  simp only [postInit,check_ok,raiseIf_ok,decide_eq_false_iff_not,ne_eq,not_not] at did
  obtain ⟨_,_,format,did⟩ := did
  cases zone : zoneInfo given.marketTimezone with
  | none => simp [zone,raise] at did
  | some timezone =>
    simp only [zone,bind_ok,raiseIf_ok,exists_const,decide_eq_false_iff_not,not_not,pure_ok] at did
    obtain ⟨shown,read,date,rfl⟩ := did
    exact ⟨timezone,shown,zone,read,date,format,lower_lower _⟩

end ScanIdentity

end Scans

end SwapMonitor.Identities
