import SwapMonitor.Application.Admissions
import SwapMonitor.Interleaving.Solo

namespace SwapMonitor
open Interleaving

def Calm (input : Input) : Prop := input.fault = .none

-- What the holder of a lease enters by the time t.
def Fact.Entered (t : Instant) : Fact → Prop
  | .attemptRecorded a => a.startedAt ≤ t
  | .scanCreated scan | .completed scan => scan.createdAt ≤ t
  | .acquired _ | .released => False
  | _ => True

theorem after_cons (L : ScanLedger) (thread : Nat) (fact : Fact) (facts : List Fact) :
    L.after thread (fact :: facts) = (L.after thread facts).enter (some thread) fact := rfl

theorem entered_holder {t : Instant} {L : ScanLedger} {thread : Nat} {facts : List Fact}
    (entered : ∀ fact ∈ facts, fact.Entered t) : (L.after thread facts).holder = L.holder := by
  induction facts with
  | nil => rfl
  | cons fact facts ih =>
    have newest := entered fact List.mem_cons_self
    rw [after_cons,enter_holder]
    have older := ih fun fact present => entered fact (List.mem_cons_of_mem _ present)
    cases fact <;> first | exact older | exact newest.elim

theorem entered_timed {t : Instant} {L : ScanLedger} {thread : Nat} {facts : List Fact} (timed : Timed t L)
    (entered : ∀ fact ∈ facts, fact.Entered t) : Timed t (L.after thread facts) := by
  induction facts with
  | nil => exact timed
  | cons fact facts ih =>
    obtain ⟨attempts,scan⟩ := ih fun fact present => entered fact (List.mem_cons_of_mem _ present)
    have newest := entered fact List.mem_cons_self
    refine ⟨?_,?_⟩
    · intro a present
      rw [after_cons,enter_attempts] at present
      cases fact with
      | attemptRecorded new =>
        rcases List.mem_append.mp present with old | last
        · exact attempts a old
        · cases List.mem_singleton.mp last
          exact newest
      | _ => exact attempts a present
    · intro found known
      rw [after_cons,enter_scan] at known
      cases fact with
      | scanCreated | completed => cases known; exact newest
      | _ => exact scan found known

-- Left to itself from a journal j with books L on, the rest of a call that holds its scan's
-- lease ends, with an outcome, books and a journal as Q says.
def Concludes (s : Session) (lease : LockLease) (seed : UUID → Option RecommendationStateRecord) (t : Instant)
    (L : ScanLedger) (j : Log) (p : Run β) (Q : Except PyError β → ScanLedger → Log → Prop) : Prop :=
  ∀ w, w.journal = j → Kept s seed w → Held s lease L w → Timed t L → Returns Calm Input.now (Kept s seed)
    (fun t' outcome w' => ∃ L', Held s lease L' w' ∧ Timed t' L' ∧ Q outcome L' w'.journal) p t w

-- A value, as good says.
def Gives (good : β → ScanLedger → Log → Prop) : Except PyError β → ScanLedger → Log → Prop
  | .ok value,L,j => good value L j
  | .error _,_,_ => False

-- A value, as good says, or an exception that left books as bad says.
def Tries (bad : ScanLedger → Prop) (good : β → ScanLedger → Log → Prop) : Except PyError β → ScanLedger → Log → Prop
  | .ok value,L,j => good value L j
  | .error error,L,_ => error.isException = true ∧ bad L

section Rules
variable {s : Session} {lease : LockLease} {seed : UUID → Option RecommendationStateRecord} {t : Instant}
  {L : ScanLedger} {j : Log} {α β : Type} {M : Except PyError α → ScanLedger → Log → Prop}
  {Q R : Except PyError β → ScanLedger → Log → Prop} {good : α → ScanLedger → Log → Prop}

theorem Concludes.done {outcome : Except PyError β} (holds : Q outcome L j) :
    Concludes s lease seed t L j (.done outcome) Q := by
  rintro w rfl _ held timed
  exact ⟨L,held,timed,holds⟩

theorem Concludes.pure {value : β} (holds : Q (.ok value) L j) : Concludes s lease seed t L j (pure value) Q :=
  Concludes.done holds

theorem Concludes.throw {error : PyError} (holds : Q (.error error) L j) :
    Concludes s lease seed t L j (Program.throw error) Q := Concludes.done holds

theorem Concludes.value {value : α} {rest : α → Run β} (concludes : Concludes s lease seed t L j (rest value) Q) :
    Concludes s lease seed t L j (Program.done (.ok value) >>= rest) Q := concludes

theorem Concludes.mono {p : Run β} (concludes : Concludes s lease seed t L j p R)
    (weaken : ∀ outcome L' j', R outcome L' j' → Q outcome L' j') : Concludes s lease seed t L j p Q := by
  intro w same kept held timed
  refine (concludes w same kept held timed).mono kept ?_
  rintro t' outcome w' _ _ ⟨L',held',timed',holds⟩
  exact ⟨L',held',timed',weaken outcome L' _ holds⟩

theorem Concludes.bind {p : Run α} {rest : α → Run β} (first : Concludes s lease seed t L j p M)
    (failed : ∀ error L' j', M (.error error) L' j' → Q (.error error) L' j')
    (second : ∀ t' value L' j', M (.ok value) L' j' → Concludes s lease seed t' L' j' (rest value) Q) :
    Concludes s lease seed t L j (p >>= rest) Q := by
  intro w same kept held timed
  refine Returns.bind kept (first w same kept held timed) ?_ ?_
  · rintro t' error w' _ _ ⟨L',held',timed',holds⟩
    exact ⟨L',held',timed',failed error L' _ holds⟩
  · rintro t' value w' _ kept' ⟨L',held',timed',holds⟩
    exact second t' value L' w'.journal holds w' rfl kept' held' timed'

-- What is sure to give a value.
theorem Concludes.next {p : Run α} {rest : α → Run β} (first : Concludes s lease seed t L j p (Gives good))
    (second : ∀ t' value L' j', good value L' j' → Concludes s lease seed t' L' j' (rest value) Q) :
    Concludes s lease seed t L j (p >>= rest) Q := Concludes.bind first (fun _ _ _ no => no.elim) second

theorem Concludes.catching {caught : PyError → Bool} {p : Run β}
    {Q : Except PyError (Except PyError β) → ScanLedger → Log → Prop} (body : Concludes s lease seed t L j p R)
    (returned : ∀ value L' j', R (.ok value) L' j' → Q (.ok (.ok value)) L' j')
    (handled : ∀ error L' j', R (.error error) L' j' → caught error = true ∧ Q (.ok (.error error)) L' j') :
    Concludes s lease seed t L j (p.catching caught) Q := by
  intro w same kept held timed
  refine Returns.catching kept (body w same kept held timed) ?_ ?_
  · rintro t' value w' _ _ ⟨L',held',timed',holds⟩
    exact ⟨L',held',timed',returned value L' _ holds⟩
  · rintro t' error w' _ _ ⟨L',held',timed',holds⟩
    obtain ⟨known,ends⟩ := handled error L' _ holds
    exact ⟨known,L',held',timed',ends⟩

-- What the guarded part of a call raises is caught.
theorem Concludes.guarded {p : Run β} {bad : ScanLedger → Prop} {good : β → ScanLedger → Log → Prop}
    (body : Concludes s lease seed t L j p (Tries bad good)) :
    Concludes s lease seed t L j (p.catching PyError.isException) (Gives (Tries bad good)) :=
  Concludes.catching body (fun _ _ _ holds => holds) fun _ _ _ raised => ⟨raised.1,raised⟩

-- A computation that touches no store, and whose errors are exceptions.
theorem Concludes.computed {x : Except PyError α} {rest : α → Run β} {bad : ScanLedger → Prop}
    {good : β → ScanLedger → Log → Prop} (caught : Caught x) (left : bad L)
    (second : ∀ value, x = .ok value → Concludes s lease seed t L j (rest value) (Tries bad good)) :
    Concludes s lease seed t L j (Program.done x >>= rest) (Tries bad good) := by
  cases x with
  | ok value => exact second value rfl
  | error error => exact Concludes.done ⟨caught error rfl,left⟩

-- A law of the books and the world may be used of the ones at hand.
theorem Concludes.using {P : Prop} {p : Run β} (law : ∀ w, w.journal = j → Kept s seed w → Held s lease L w → P)
    (concludes : P → Concludes s lease seed t L j p Q) : Concludes s lease seed t L j p Q :=
  fun w same kept held timed => concludes (law w same kept held) w same kept held timed

-- On a calm input an operation that raises nothing takes effect.
theorem outcome_calm {op : Session.Operation β} {input : Input} {w : World} {value : β} {stores : Stores}
    {facts : List Fact} (calm : Calm input) (ran : op input w.stores = .ok (value,stores,facts)) :
    s.outcome op input w = (.ok value,⟨stores,s.note facts w.journal⟩) := by
  have unfaulted : input.fault = .none := calm
  simp only [Session.outcome,ran,unfaulted]

-- An act of the holder on a calm input takes effect, or raises an error of its own.
theorem Concludes.attempt {op : Session.Operation β} (serves : ∀ input w, Timed input.now L → Kept s seed ⟨w,j⟩ →
      Held s lease L ⟨w,j⟩ → (∃ error, op input w = .error error ∧ Q (.error error) L.break (s.note [.failed error] j)) ∨
        ∃ value w' facts, op input w = .ok (value,w',facts) ∧ (∀ fact ∈ facts, fact.Entered input.now) ∧
          Q (.ok value) (L.after s.thread facts) (s.note facts j)) :
    Concludes s lease seed t L j (s.perform op) Q := by
  rintro ⟨w,j⟩ rfl kept held timed input calm later _
  have calm' : input.fault = .none := calm
  rcases serves input w (timed.later later) kept held with ⟨error,ran,ends⟩ | ⟨value,w',facts,ran,entered,holds⟩
  · have did : s.outcome op input ⟨w,j⟩ = (.error error,⟨w,s.note [.failed error] j⟩) := by
      simp only [Session.outcome,ran,calm']
    simp only [did]
    refine ⟨L.break,⟨?_,held.holder,note_single _ held.single⟩,⟨(timed.later later).attempts,(timed.later later).scan⟩,
      ends⟩
    rw [ledger_note,held.books]
    exact break_enter (L := L) (some s.thread) error (by rw [held.holder]; rfl)
  · have did : s.outcome op input ⟨w,j⟩ = (.ok value,⟨w',s.note facts j⟩) := outcome_calm calm ran
    simp only [did]
    exact ⟨L.after s.thread facts,⟨by rw [ledger_note,held.books],(entered_holder entered).trans held.holder,
      note_single _ held.single⟩,entered_timed (timed.later later) entered,holds⟩

-- The same of an act that raises nothing.
theorem Concludes.perform {op : Session.Operation β} {good : β → ScanLedger → Log → Prop}
    (serves : ∀ input w, Timed input.now L → Kept s seed ⟨w,j⟩ → Held s lease L ⟨w,j⟩ →
      ∃ value w' facts, op input w = .ok (value,w',facts) ∧ (∀ fact ∈ facts, fact.Entered input.now) ∧
        good value (L.after s.thread facts) (s.note facts j)) :
    Concludes s lease seed t L j (s.perform op) (Gives good) :=
  Concludes.attempt fun input w timed kept held => .inr (serves input w timed kept held)

theorem Concludes.read {op : Stores → Except PyError β} {good : β → Prop}
    (finds : ∀ w, Kept s seed ⟨w,j⟩ → Held s lease L ⟨w,j⟩ → ∃ value, op w = .ok value ∧ good value) :
    Concludes s lease seed t L j (s.read op) (Gives fun value L' j' => good value ∧ L' = L ∧ j' = j) := by
  refine Concludes.perform ?_
  intro input w timed kept held
  obtain ⟨value,read,holds⟩ := finds w kept held
  refine ⟨value,w,[],?_,(by intro _ h; cases h),holds,rfl,rfl⟩
  rw [read]
  rfl

end Rules

-- A scan that is still to be completed.
def Pending (scan : LogicalScanRun) (L : ScanLedger) : Prop :=
  ∃ cur, L.scan = some cur ∧ cur.logicalScanRunId = scan.logicalScanRunId ∧ cur.status = .running

-- Books that differ in nothing a later operation of the stores is checked against.
structure Alike (L L' : ScanLedger) : Prop where
  scan : L'.scan = L.scan
  stored : L'.stored = L.stored
  attempts : L'.attempts = L.attempts

theorem Alike.refl (L : ScanLedger) : Alike L L := ⟨rfl,rfl,rfl⟩

theorem Alike.trans {L L' L'' : ScanLedger} (one : Alike L L') (two : Alike L' L'') : Alike L L'' :=
  ⟨two.scan.trans one.scan,two.stored.trans one.stored,two.attempts.trans one.attempts⟩

section Operations
variable {s : Session} {lease : LockLease} {seed : UUID → Option RecommendationStateRecord} {t : Instant}
  {L : ScanLedger} {j : Log} {scan : LogicalScanRun} {plan : RotationPlan} {x : StoredRun}

theorem Pending.scanned (pending : Pending scan L) : Scanned scan L := by
  obtain ⟨cur,found,same,_⟩ := pending
  exact ⟨cur,found,same⟩

theorem Pending.alike {L' : ScanLedger} (pending : Pending scan L) (same : L'.scan = L.scan) : Pending scan L' := by
  obtain ⟨cur,found,rest⟩ := pending
  exact ⟨cur,same.trans found,rest⟩

theorem Held.found {w : World} (held : Held s lease L w) (scanned : Scanned scan L) :
    ∃ cur, (ledger s.scanLockKey w.journal).scan = some cur ∧ cur.logicalScanRunId = scan.logicalScanRunId := by
  rw [held.books]
  exact scanned

end Operations
end SwapMonitor
