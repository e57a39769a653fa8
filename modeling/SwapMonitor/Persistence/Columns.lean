import SwapMonitor.Application.Identities
import SwapMonitor.Numerals.Digits
import SwapMonitor.StateMachine.States

namespace SwapMonitor
open Clocks Numerals

-- What a driver hands back of a timestamp column.
inductive ColumnDatetime where
  | naive (clock : Int)
  | aware (value : AwareDatetime)
  deriving DecidableEq, Repr

-- SQLite keeps the clock of a datetime without its zone; PostgreSQL keeps the instant and shows it in the session's zone.
inductive Dialect where
  | sqlite
  | postgresql (sessionOffset : Int)
  deriving DecidableEq, Repr

def Dialect.column : Dialect → AwareDatetime → ColumnDatetime
  | .sqlite,value => .naive (value.instant + value.offset)
  | .postgresql sessionOffset,value => .aware ⟨value.instant,{offset := sessionOffset}⟩

-- _persist_datetime
def persistDatetime (value : AwareDatetime) : Except PyError AwareDatetime := value.astimezoneUtc

-- _restore_datetime
def restoreDatetime : ColumnDatetime → Except PyError AwareDatetime
  | .naive clock => pure ⟨clock,{}⟩
  | .aware value => value.astimezoneUtc

def ColumnDatetime.restored : ColumnDatetime → Instant
  | .naive clock => clock
  | .aware value => value.instant

def ColumnDatetime.Readable : ColumnDatetime → Prop
  | .naive _ => True
  | .aware value => Shown value.instant

theorem restore_ok {column : ColumnDatetime} {value : AwareDatetime} :
    restoreDatetime column = .ok value ↔ column.Readable ∧ ⟨column.restored,{}⟩ = value := by
  cases column with
  | naive clock => simp [restoreDatetime,ColumnDatetime.Readable,ColumnDatetime.restored]
  | aware value => simp [restoreDatetime,ColumnDatetime.Readable,ColumnDatetime.restored]

-- The column of what _persist_datetime returns.
def Dialect.persisted (dialect : Dialect) (value : Instant) : ColumnDatetime := dialect.column ⟨value,{}⟩

@[simp] theorem persisted_restored (dialect : Dialect) (value : Instant) : (dialect.persisted value).restored = value := by
  cases dialect with
  | sqlite => exact Int.add_zero value
  | postgresql sessionOffset => rfl

theorem persisted_readable (dialect : Dialect) {value : Instant} (shown : Shown value) : (dialect.persisted value).Readable := by
  cases dialect with
  | sqlite => trivial
  | postgresql sessionOffset => exact shown

-- A timestamp that is stored as it is given comes back as it was when its dialect keeps instants or its offset is none.
theorem column_restored (dialect : Dialect) (value : AwareDatetime) :
    (dialect.column value).restored = value.instant ↔ (dialect = .sqlite → value.offset = 0) := by
  cases dialect with
  | sqlite => simp [Dialect.column,ColumnDatetime.restored]
  | postgresql sessionOffset => simp [Dialect.column,ColumnDatetime.restored]

-- The hexadecimal digits of a digest, as a text column holds them.
def digestText (value : Digest) : String := String.ofList (fixed 16 64 value)

theorem digest_injective {a b : Digest} (same : digestText a = digestText b) : a = b := by
  have read : ∀ value : Digest, readNumeral 16 (fixed 16 64 value) 0 = some value := by
    intro value
    rw [fixed,read_append,read_zeros (by decide),Option.bind_some,read_digits (by decide) (by decide)]
    simp
  have digits := congrArg String.toList same
  rw [digestText,digestText,String.toList_ofList,String.toList_ofList] at digits
  exact Option.some.inj ((read a).symm.trans ((congrArg (readNumeral 16 · 0) digits).trans (read b)))

theorem digit_dark : ∀ d < 16, isSpace (Nat.digitChar d) = false := by decide

theorem digest_named (value : Digest) : blank (digestText value) = false := by
  have digits : Nat.toDigits 16 value ≠ [] := Nat.toDigits_ne_nil
  obtain ⟨c,member⟩ : ∃ c, c ∈ fixed 16 64 value := by
    obtain ⟨c,member⟩ := List.exists_mem_of_ne_nil _ digits
    exact ⟨c,List.mem_append_right _ member⟩
  obtain ⟨d,small,rfl⟩ := fixed_chars (by decide) 64 value c member
  rw [blank,digestText,String.toList_ofList,List.all_eq_false]
  exact ⟨_,member,by simp [digit_dark d small]⟩

-- The members of a str Enum, which is what a column keeps of it.
class StrEnum (α : Type) where
  name : String
  value : α → String
  members : List α
  complete : ∀ member, member ∈ members
  distinct : ∀ a b, value a = value b → a = b

namespace StrEnum
variable {α : Type} [StrEnum α]

-- Enum(value)
def ofValue (text : String) : Except PyError α :=
  match (members : List α).find? fun member => value member == text with
  | some member => .ok member
  | none => raise .valueError ("'" ++ text ++ "' is not a valid " ++ name α)

@[simp] theorem value_read (member : α) : ofValue (value member) = .ok member := by
  unfold ofValue
  cases found : (members : List α).find? fun other => value other == value member with
  | none =>
    have missed := List.find?_eq_none.mp found member (complete member)
    exact absurd (beq_self_eq_true _) missed
  | some other =>
    have same := List.find?_some found
    exact congrArg Except.ok (distinct other member (beq_iff_eq.mp same))

-- None stays None.
def ofColumn : Option String → Except PyError (Option α)
  | none => .ok none
  | some text => (ofValue text).map some

@[simp] theorem column_read (member : Option α) : ofColumn (member.map value) = .ok member := by
  cases member with
  | none => rfl
  | some member => simp [ofColumn,Except.map]

end StrEnum

instance : StrEnum LogicalScanStatus where
  name := "LogicalScanStatus"
  value
    | .running => "RUNNING"
    | .completed => "COMPLETED"
  members := [.running,.completed]
  complete member := by cases member <;> decide
  distinct a b same := by cases a <;> cases b <;> first | rfl | simp at same

instance : StrEnum ScanAttemptStatus where
  name := "ScanAttemptStatus"
  value
    | .running => "RUNNING"
    | .failed => "FAILED"
    | .degraded => "DEGRADED"
    | .succeeded => "SUCCEEDED"
  members := [.running,.failed,.degraded,.succeeded]
  complete member := by cases member <;> decide
  distinct a b same := by cases a <;> cases b <;> first | rfl | simp at same

instance : StrEnum FinalizationDisposition where
  name := "FinalizationDisposition"
  value
    | .applied => "APPLIED"
    | .superseded => "SUPERSEDED"
  members := [.applied,.superseded]
  complete member := by cases member <;> decide
  distinct a b same := by cases a <;> cases b <;> first | rfl | simp at same

instance : StrEnum LegacyFinalizationClaimStatus where
  name := "LegacyFinalizationClaimStatus"
  value
    | .notApplicable => "NOT_APPLICABLE"
    | .claimed => "CLAIMED"
    | .noClaim => "NO_CLAIM"
    | .ambiguous => "AMBIGUOUS"
  members := [.notApplicable,.claimed,.noClaim,.ambiguous]
  complete member := by cases member <;> decide
  distinct a b same := by cases a <;> cases b <;> first | rfl | simp at same

instance : StrEnum RecommendationState where
  name := "RecommendationState"
  value := RecommendationState.value
  members := RecommendationState.all
  complete member := by cases member <;> decide
  distinct a b same := by
    have read := parse_value a
    rw [same,parse_value] at read
    exact (Option.some.inj read).symm

instance : StrEnum ChildIntentPurpose where
  name := "ChildIntentPurpose"
  value := ChildIntentPurpose.value
  members := [.notification]
  complete member := by cases member; decide
  distinct a b _ := by cases a; cases b; rfl

instance : StrEnum PositionRole where
  name := "PositionRole"
  value
    | .rotationSource => "ROTATION_SOURCE"
    | .protectedCore => "PROTECTED_CORE"
    | .normal => "NORMAL"
    | .cashProxy => "CASH_PROXY"
  members := [.rotationSource,.protectedCore,.normal,.cashProxy]
  complete member := by cases member <;> decide
  distinct a b same := by cases a <;> cases b <;> first | rfl | simp at same

instance : StrEnum PositionStatus where
  name := "PositionStatus"
  value
    | .opened => "OPEN"
    | .closed => "CLOSED"
  members := [.opened,.closed]
  complete member := by cases member <;> decide
  distinct a b same := by cases a <;> cases b <;> first | rfl | simp at same

end SwapMonitor
