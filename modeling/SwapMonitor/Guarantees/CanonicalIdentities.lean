import SwapMonitor.Domain.IdentityTexts
import Mathlib.Logic.Equiv.List

namespace SwapMonitor.Identities
open Clocks

variable {Zone : Type} [DecidableEq Zone] [Tzinfo Zone]

-- The same scan, in whatever zone its window is given.
structure SameScan (a b : ScanIdentity Zone) : Prop where
  plan : a.rotationPlanId = b.rotationPlanId
  date : a.marketSessionDate = b.marketSessionDate
  timezone : a.marketTimezone = b.marketTimezone
  interval : a.scanInterval = b.scanInterval
  hash : lower a.configurationSnapshotHash = lower b.configurationSnapshotHash
  window : a.scanWindowStart.instant = b.scanWindowStart.instant

-- The same run.
structure SameRun (x y : FinalStrategyIdentity) : Prop where
  lock : lower x.scanLockKey = lower y.scanLockKey
  content : lower x.marketDataContentHash = lower y.marketDataContentHash

-- A reading of the market clock that this clock never shows; astimezone takes it as it is.
def Skipped (zoneInfo : String → Option Zone) (identity : ScanIdentity Zone) : Prop :=
  ∃ timezone, zoneInfo identity.marketTimezone = some timezone ∧ identity.scanWindowStart.tzinfo = timezone ∧
    (Tzinfo.fromutc timezone identity.scanWindowStart.instant).1 ≠ identity.scanWindowStart.wall

-- If one is a skipped reading, both are the same one.
def Unskipped (zoneInfo : String → Option Zone) (a b : ScanIdentity Zone) : Prop :=
  (Skipped zoneInfo a ↔ Skipped zoneInfo b) ∧ (Skipped zoneInfo a → a.scanWindowStart.wall = b.scanWindowStart.wall)

-- Both have the same payload.
def SamePayload (zoneInfo : String → Option Zone) (a b : ScanIdentity Zone) : Prop :=
  ∃ payload, a.canonicalPayload zoneInfo = .ok payload ∧ b.canonicalPayload zoneInfo = .ok payload

section Scans
variable {zoneInfo : String → Option Zone} {a b : ScanIdentity Zone} {timezone timezone' : Zone} {shown shown' : Timestamp}
open SwapMonitor.Identities.ScanIdentity

theorem payload_shown (located : Located zoneInfo a timezone shown) : a.canonicalPayload zoneInfo = .ok
    [("configuration_snapshot_hash",a.configurationSnapshotHash),("format_version",SCAN_IDENTITY_FORMAT_VERSION),
      ("market_session_date",a.marketSessionDate.isoformat),("market_timezone",a.marketTimezone),
      ("rotation_plan_id",uuidText a.rotationPlanId),("scan_interval",a.scanInterval),
      ("scan_window_start",isoformatMicroseconds shown)] := by
  simp only [canonicalPayload,located.zone,located.read,located.format]
  rfl

-- Payloads agree in their components and in what the market clock shows.
theorem payload_parts (located : Located zoneInfo a timezone shown) (located' : Located zoneInfo b timezone' shown') :
    SamePayload zoneInfo a b ↔
      SameScan a b ∧ (a.scanWindowStart.astimezone timezone).wall = (b.scanWindowStart.astimezone timezone').wall := by
  have readings := reading_injective located.read located'.read
  rw [Datetime.astimezone_instant,Datetime.astimezone_instant] at readings
  simp only [SamePayload,payload_shown located,payload_shown located',Except.ok.injEq,exists_eq_left']
  constructor
  · intro same
    simp only [List.cons.injEq,Prod.mk.injEq,true_and,and_true] at same
    obtain ⟨hash,date,zone,plan,interval,window⟩ := same
    obtain ⟨instant,wall⟩ := readings.mp (isoformat_injective window.symm)
    exact ⟨⟨uuid_injective a.room b.room plan.symm,date_injective date.symm,zone.symm,interval.symm,congrArg lower hash.symm,instant⟩,wall⟩
  · intro ⟨same,wall⟩
    have shows := readings.mpr ⟨same.window,wall⟩
    have hash := same.hash
    rw [located.hash,located'.hash] at hash
    rw [hash,same.date,same.timezone,same.plan,same.interval,shows]

-- The market clock as astimezone reads it.
theorem market_wall (located : Located zoneInfo a timezone shown) :
    (Skipped zoneInfo a ∧ (a.scanWindowStart.astimezone timezone).wall = a.scanWindowStart.wall ∧
        (Tzinfo.fromutc timezone a.scanWindowStart.instant).1 ≠ a.scanWindowStart.wall) ∨
      ¬Skipped zoneInfo a ∧ (a.scanWindowStart.astimezone timezone).wall = (Tzinfo.fromutc timezone a.scanWindowStart.instant).1 := by
  unfold Datetime.astimezone
  by_cases own : a.scanWindowStart.tzinfo = timezone
  · rw [if_pos own]
    by_cases kept : (Tzinfo.fromutc timezone a.scanWindowStart.instant).1 = a.scanWindowStart.wall
    · refine .inr ⟨?_,kept.symm⟩
      intro ⟨zone,known,_,moved⟩
      obtain rfl : timezone = zone := Option.some.inj (located.zone.symm.trans known)
      exact moved kept
    · exact .inl ⟨⟨timezone,located.zone,own,kept⟩,rfl,kept⟩
  · rw [if_neg own]
    refine .inr ⟨?_,rfl⟩
    intro ⟨zone,known,same,_⟩
    obtain rfl : timezone = zone := Option.some.inj (located.zone.symm.trans known)
    exact own same

theorem walls_agree (located : Located zoneInfo a timezone shown) (located' : Located zoneInfo b timezone' shown') (same : SameScan a b) :
    (a.scanWindowStart.astimezone timezone).wall = (b.scanWindowStart.astimezone timezone').wall ↔ Unskipped zoneInfo a b := by
  obtain rfl : timezone = timezone' := by
    have zone := located.zone
    rw [same.timezone,located'.zone] at zone
    exact (Option.some.inj zone).symm
  rcases market_wall located with ⟨skipped,wall,moved⟩ | ⟨kept,wall⟩
  · rcases market_wall located' with ⟨skipped',wall',_⟩ | ⟨kept',wall'⟩
    · rw [wall,wall']
      exact ⟨fun equal => ⟨iff_of_true skipped skipped',fun _ => equal⟩,fun alike => alike.2 skipped⟩
    · rw [wall,wall',← same.window]
      exact iff_of_false (fun equal => moved equal.symm) fun alike => kept' (alike.1.mp skipped)
  · rcases market_wall located' with ⟨skipped',wall',moved'⟩ | ⟨kept',wall'⟩
    · rw [wall,wall',same.window]
      exact iff_of_false moved' fun alike => kept (alike.1.mpr skipped')
    · rw [wall,wall',same.window]
      exact iff_of_true rfl ⟨iff_of_false kept kept',fun skipped => absurd skipped kept⟩

-- Payloads of scans are canonical unless a skipped reading is among them.
theorem scan_payloads (made : a.Constructible zoneInfo) (made' : b.Constructible zoneInfo) :
    (SamePayload zoneInfo a b ↔ SameScan a b) ↔ (SameScan a b → Unskipped zoneInfo a b) := by
  obtain ⟨timezone,shown,located⟩ := constructible_located made
  obtain ⟨timezone',shown',located'⟩ := constructible_located made'
  rw [payload_parts located located']
  constructor
  · intro canonical same
    exact (walls_agree located located' same).mp (canonical.mpr same).2
  · intro unskipped
    exact ⟨fun both => both.1,fun same => ⟨same,(walls_agree located located' same).mpr (unskipped same)⟩⟩

end Scans

section Runs
variable {x y : FinalStrategyIdentity}

theorem constructible_parts (made : x.Constructible) : x.formatVersion = FINAL_STRATEGY_IDENTITY_FORMAT_VERSION ∧
    lower x.scanLockKey = x.scanLockKey ∧ lower x.marketDataContentHash = x.marketDataContentHash := by
  obtain ⟨given,did⟩ := made
  simp only [FinalStrategyIdentity.postInit,check_ok,raiseIf_ok,requireSha256,decide_eq_false_iff_not,ne_eq,not_not,pure_ok] at did
  obtain ⟨_,_,format,_,rfl⟩ := did
  exact ⟨format,lower_lower _,lower_lower _⟩

-- Payloads of runs are canonical unless one hash is spelled in two ways.
theorem run_payloads (made : x.Constructible) (made' : y.Constructible) :
    (x.canonicalPayload = y.canonicalPayload ↔ SameRun x y) ↔ (SameRun x y → x.marketDataSnapshotId = y.marketDataSnapshotId) := by
  obtain ⟨format,lock,content⟩ := constructible_parts made
  obtain ⟨format',lock',content'⟩ := constructible_parts made'
  have parts : x.canonicalPayload = y.canonicalPayload ↔ SameRun x y ∧ x.marketDataSnapshotId = y.marketDataSnapshotId := by
    simp only [FinalStrategyIdentity.canonicalPayload,List.cons.injEq,Prod.mk.injEq,true_and,and_true,format,format']
    constructor
    · intro ⟨contents,ids,locks⟩
      exact ⟨⟨congrArg lower locks,congrArg lower contents⟩,ids⟩
    · intro ⟨same,ids⟩
      have locks := same.lock
      have contents := same.content
      rw [lock,lock'] at locks
      rw [content,content'] at contents
      exact ⟨contents,ids,locks⟩
  rw [parts]
  constructor
  · intro canonical same
    exact (canonical.mpr same).2
  · intro spelled
    exact ⟨fun both => both.1,fun same => ⟨same,spelled same⟩⟩

-- The hash tells two texts apart.
def Told (sha256 : String → Digest) (text other : String) : Prop := sha256 text = sha256 other → text = other

theorem run_keys {sha256 : String → Digest} (told : Told sha256 (canonicalJson x.canonicalPayload) (canonicalJson y.canonicalPayload)) :
    x.key sha256 = y.key sha256 ↔ x.canonicalPayload = y.canonicalPayload := by
  constructor
  · intro same
    exact json_injective.mp (told same)
  · intro same
    rw [FinalStrategyIdentity.key,FinalStrategyIdentity.key,same]

end Runs

theorem identities_canonical {zoneInfo : String → Option Zone} {a b : ScanIdentity Zone} {x y : FinalStrategyIdentity}
    {sha256 : String → Digest} (scan : a.Constructible zoneInfo) (scan' : b.Constructible zoneInfo) (run : x.Constructible)
    (run' : y.Constructible) (told : Told sha256 (canonicalJson x.canonicalPayload) (canonicalJson y.canonicalPayload)) :
    ((SamePayload zoneInfo a b ↔ SameScan a b) ∧ (x.canonicalPayload = y.canonicalPayload ↔ SameRun x y) ∧
        (x.key sha256 = y.key sha256 ↔ SameRun x y)) ↔
      (SameScan a b → Unskipped zoneInfo a b) ∧ (SameRun x y → x.marketDataSnapshotId = y.marketDataSnapshotId) := by
  rw [run_keys told,and_self_iff]
  exact and_congr (scan_payloads scan scan') (run_payloads run run')

-- UTC, and a clock that is an hour ahead of it from 2026-03-29 01:00 on.
inductive Springing where
  | utc
  | market
  deriving DecidableEq

def springForward : Int := 20541 * DAY + 3600000000

instance : Tzinfo Springing where
  utcoffset zone wall fold := match zone with
    | .utc => 0
    | .market => if wall < springForward ∨ (wall < springForward + 3600000000 ∧ fold = false) then 0 else 3600000000
  fromutc zone instant := match zone with
    | .utc => (instant,false)
    | .market => if instant < springForward then (instant,false) else (instant + 3600000000,false)
  exact zone instant := by
    cases zone with
    | utc => exact Int.sub_zero _
    | market =>
      by_cases before : instant < springForward
      · simp [before]
      · have shown : ¬instant + 3600000000 < springForward ∧ ¬instant + 3600000000 < springForward + 3600000000 := by omega
        simp [before,shown]

def springZones (key : String) : Option Springing := if key = "Europe/London" then some .market else none

def hashOf (letter : Char) : String := String.ofList (List.replicate 64 letter)

-- The window starts at 01:30 on the market clock, which that day shows no such time, or at the same instant in UTC.
def springScan (zone : Springing) : ScanIdentity Springing where
  rotationPlanId := 1
  marketSessionDate := ⟨2026,3,29,by decide⟩
  scanWindowStart := ⟨springForward + 1800000000,false,zone⟩
  scanInterval := "PT5M"
  configurationSnapshotHash := hashOf 'a'
  marketTimezone := "Europe/London"
  room := by decide

def spelledRun (letter : Char) : FinalStrategyIdentity where
  scanLockKey := hashOf 'b'
  marketDataSnapshotId := "market-data:v1:" ++ hashOf letter
  marketDataContentHash := hashOf 'a'

-- What the constructor accepts it leaves as it is when the hash is in small letters.
theorem accepted_constructible {zoneInfo : String → Option Zone} {given : ScanIdentity Zone}
    (accepted : (given.postInit zoneInfo).toOption.isSome = true) (small : lower given.configurationSnapshotHash = given.configurationSnapshotHash) :
    given.Constructible zoneInfo := by
  cases did : given.postInit zoneInfo with
  | error _ => rw [did] at accepted; cases accepted
  | ok identity =>
    refine ⟨given,did.trans ?_⟩
    simp only [ScanIdentity.postInit,check_ok] at did
    obtain ⟨_,_,_,did⟩ := did
    cases zone : zoneInfo given.marketTimezone with
    | none => simp [zone,raise] at did
    | some timezone =>
      simp only [zone,bind_ok,pure_ok,small] at did
      obtain ⟨_,_,_,_,same⟩ := did
      rw [← same]

theorem spring_constructible (zone : Springing) : (springScan zone).Constructible springZones := by
  cases zone <;> exact accepted_constructible (by decide +kernel) (by decide +kernel)

theorem accepted_run {run : FinalStrategyIdentity} (accepted : run.postInit.toOption.isSome = true)
    (small : lower run.scanLockKey = run.scanLockKey ∧ lower run.marketDataContentHash = run.marketDataContentHash) :
    run.Constructible := by
  cases did : run.postInit with
  | error _ => rw [did] at accepted; cases accepted
  | ok identity =>
    refine ⟨run,did.trans ?_⟩
    simp only [FinalStrategyIdentity.postInit,check_ok,pure_ok,small] at did
    obtain ⟨_,_,_,_,same⟩ := did
    rw [← same]

theorem spelled_constructible {letter : Char} (accepted : (spelledRun letter).postInit.toOption.isSome = true) :
    (spelledRun letter).Constructible :=
  accepted_run accepted
    ⟨(by decide +kernel : lower (hashOf 'b') = hashOf 'b'),(by decide +kernel : lower (hashOf 'a') = hashOf 'a')⟩

theorem small_constructible : (spelledRun 'a').Constructible := spelled_constructible (by decide +kernel)

theorem capital_constructible : (spelledRun 'A').Constructible := spelled_constructible (by decide +kernel)

-- Another lock, and a digest that no two texts share.
def otherRun : FinalStrategyIdentity := {spelledRun 'a' with scanLockKey := hashOf 'c'}

def textCode (text : String) : Digest := Encodable.encode (text.toList.map Char.toNat)

theorem text_code {text other : String} (same : textCode text = textCode other) : text = other :=
  String.toList_injective (List.map_injective_iff.mpr (fun _ _ => Char.toNat_inj.mp) (Encodable.encode_injective same))

theorem other_constructible : otherRun.Constructible := accepted_run (by decide +kernel)
  ⟨(by decide +kernel : lower (hashOf 'c') = hashOf 'c'),(by decide +kernel : lower (hashOf 'a') = hashOf 'a')⟩

theorem identities_canonical_sample :
    ((SamePayload springZones (springScan .utc) (springScan .market) ↔ SameScan (springScan .utc) (springScan .market)) ∧
        ((spelledRun 'a').canonicalPayload = otherRun.canonicalPayload ↔ SameRun (spelledRun 'a') otherRun) ∧
        ((spelledRun 'a').key textCode = otherRun.key textCode ↔ SameRun (spelledRun 'a') otherRun)) ↔
      (SameScan (springScan .utc) (springScan .market) → Unskipped springZones (springScan .utc) (springScan .market)) ∧
        (SameRun (spelledRun 'a') otherRun → (spelledRun 'a').marketDataSnapshotId = otherRun.marketDataSnapshotId) :=
  identities_canonical (spring_constructible .utc) (spring_constructible .market) small_constructible other_constructible
    text_code

theorem spring_same : SameScan (springScan .utc) (springScan .market) := ⟨rfl,rfl,rfl,rfl,rfl,by decide⟩

theorem spring_skipped : ¬Unskipped springZones (springScan .utc) (springScan .market) := by
  intro alike
  have skipped : Skipped springZones (springScan .market) := ⟨.market,rfl,rfl,by decide⟩
  obtain ⟨zone,known,own,_⟩ := alike.1.mpr skipped
  obtain rfl : Springing.market = zone := Option.some.inj known
  cases own

-- A window that starts at a skipped reading, and an id that spells its hash in capitals.
theorem payloads_vary :
    (¬∀ a b : ScanIdentity Springing, a.Constructible springZones → b.Constructible springZones →
      (SamePayload springZones a b ↔ SameScan a b)) ∧
    ¬∀ x y : FinalStrategyIdentity, x.Constructible → y.Constructible → (x.canonicalPayload = y.canonicalPayload ↔ SameRun x y) := by
  constructor
  · intro canonical
    have claimed := canonical _ _ (spring_constructible .utc) (spring_constructible .market)
    exact spring_skipped ((scan_payloads (spring_constructible .utc) (spring_constructible .market)).mp claimed spring_same)
  · intro canonical
    have claimed := canonical _ _ small_constructible capital_constructible
    have spelled := (run_payloads small_constructible capital_constructible).mp claimed ⟨rfl,rfl⟩
    exact absurd spelled (by decide +kernel)

end SwapMonitor.Identities
