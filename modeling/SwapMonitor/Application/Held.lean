import SwapMonitor.Application.StoreSteps

namespace SwapMonitor
open Interleaving

-- Every act keeps the journal lawful and the stores in step with it, and between two acts
-- of a call only the others write.
def contract (c : Coordinator) (seed : UUID → Option RecommendationStateRecord) : Contract World where
  invariant w := Represents seed w.stores w.journal ∧ Lawful (Legal c seed) w.journal
  rely thread w w' := Others thread w.journal w'.journal
  refl thread w := Others.refl thread w.journal
  trans _ _ _ _ one two := one.trans two

-- The call holds its scan's lease, the scan's books are L, and it wrote about no other scan.
structure Held (s : Session) (lease : LockLease) (L : ScanLedger) (w : World) : Prop where
  books : ledger s.scanLockKey w.journal = L
  holder : L.holder = some (s.thread,lease)
  single : ∀ e ∈ w.journal, e.actor = some s.thread → e.key = s.scanLockKey

-- The books after the facts of one operation, newest first.
def ScanLedger.after (L : ScanLedger) (thread : Nat) (facts : List Fact) : ScanLedger :=
  facts.foldr (fun fact L => L.enter (some thread) fact) L

def ScanLedger.break (L : ScanLedger) : ScanLedger := {L with broken := true}

-- What no later step takes away.
structure Grown (L L' : ScanLedger) : Prop where
  stored : ∀ s, L.stored = some s → L'.stored = some s
  scan : ∀ scan, L.scan = some scan → ∃ cur, L'.scan = some cur ∧
    cur.logicalScanRunId = scan.logicalScanRunId ∧ cur.rotationPlanId = scan.rotationPlanId
  completed : L.completed → L'.completed
  attempts : ∀ a ∈ L.attempts, a ∈ L'.attempts
  broken : L.broken = true → L'.broken = true

section Journals
variable {s : Session} {lease : LockLease} {seed : UUID → Option RecommendationStateRecord} {L : ScanLedger}

theorem ledger_note (facts : List Fact) (j : Log) :
    ledger s.scanLockKey (s.note facts j) = (ledger s.scanLockKey j).after s.thread facts := by
  induction facts with
  | nil => rfl
  | cons fact facts ih =>
    have newest : s.note (fact :: facts) j = ⟨some s.thread,s.scanLockKey,fact⟩ :: s.note facts j := rfl
    rw [newest,ledger_same,ih]
    rfl

theorem note_suffix (facts : List Fact) (j : Log) : j <:+ s.note facts j := List.suffix_append _ _

theorem note_others {other : Nat} (facts : List Fact) (j : Log) (different : other ≠ s.thread) :
    Others other j (s.note facts j) := by
  refine ⟨_,rfl,?_⟩
  intro e present
  obtain ⟨_,_,rfl⟩ := List.mem_map.mp present
  exact fun same => different (Option.some.inj same).symm

theorem note_single (facts : List Fact) {j : Log}
    (single : ∀ e ∈ j, e.actor = some s.thread → e.key = s.scanLockKey) :
    ∀ e ∈ s.note facts j, e.actor = some s.thread → e.key = s.scanLockKey := by
  intro e present acting
  rcases List.mem_append.mp present with new | old
  · obtain ⟨_,_,rfl⟩ := List.mem_map.mp new
    rfl
  · exact single e old acting

-- A fact that says what its law asks for is a lawful entry.
theorem note_lawful {j : Log} {fact : Fact} (single : ∀ e ∈ j, e.actor = some s.thread → e.key = s.scanLockKey)
    (lawful : Lawful (Legal s.self seed) j)
    (legal : LegalFact s.self seed ⟨some s.thread,s.scanLockKey,fact⟩ j fact) :
    Lawful (Legal s.self seed) (s.note [fact] j) := ⟨⟨single,legal⟩,lawful⟩

-- The lease keeps the books of the scan from everybody else.
theorem Held.others {w w' : World} (held : Held s lease L w) (moved : Others s.thread w.journal w'.journal)
    (lawful : Lawful (Legal s.self seed) w'.journal) : Held s lease L w' := by
  have books := ledger_settled s.scanLockKey moved lawful ⟨lease,by rw [held.books]; exact held.holder⟩
  refine ⟨books.trans held.books,held.holder,?_⟩
  obtain ⟨new,grown,strangers⟩ := moved
  intro e present acting
  rw [grown] at present
  rcases List.mem_append.mp present with fresh | old
  · exact absurd acting (strangers e fresh)
  · exact held.single e old acting

theorem Held.grown {w w' : World} {L' : ScanLedger} (before : Held s lease L w) (after : Held s lease L' w')
    (later : w.journal <:+ w'.journal) (lawful : Lawful (Legal s.self seed) w'.journal) : Grown L L' := by
  obtain ⟨rfl,_,_⟩ := before
  obtain ⟨rfl,_,_⟩ := after
  refine ⟨fun _ stored => stored_kept later lawful stored,fun _ found => scan_kept later lawful found,?_,
    fun _ present => attempt_kept later lawful present,fun broke => broken_kept later lawful broke⟩
  rintro ⟨scan,found,done⟩
  exact ⟨scan,completed_kept later lawful found done,done⟩

end Journals

-- An act took effect, or it failed before it did, or after.
theorem outcome_parts {β : Type} (s : Session) (op : Session.Operation β) (input : Input) (w : World) :
    (∃ error, s.outcome op input w = (.error error,⟨w.stores,s.note [.failed error] w.journal⟩) ∧
      ((∃ cause : Interruption, error = cause.error) ∨ op input w.stores = .error error)) ∨
    ∃ value stores facts, op input w.stores = .ok (value,stores,facts) ∧
      (s.outcome op input w = (.ok value,⟨stores,s.note facts w.journal⟩) ∨ ∃ cause : Interruption,
        s.outcome op input w = (.error cause.error,⟨stores,s.note (.failed cause.error :: facts) w.journal⟩)) := by
  cases ran : op input w.stores with
  | error error =>
    cases fault : input.fault with
    | before cause => exact .inl ⟨_,by simp only [Session.outcome,ran,fault],.inl ⟨cause,rfl⟩⟩
    | none => exact .inl ⟨error,by simp only [Session.outcome,ran,fault],.inr rfl⟩
    | after cause => exact .inl ⟨error,by simp only [Session.outcome,ran,fault],.inr rfl⟩
  | ok result =>
    obtain ⟨value,stores,facts⟩ := result
    cases fault : input.fault with
    | before cause => exact .inl ⟨_,by simp only [Session.outcome,ran,fault],.inl ⟨cause,rfl⟩⟩
    | none => exact .inr ⟨value,stores,facts,rfl,.inl (by simp only [Session.outcome,ran,fault])⟩
    | after cause => exact .inr ⟨value,stores,facts,rfl,.inr ⟨cause,by simp only [Session.outcome,ran,fault]⟩⟩

-- Started with books L, the rest of a call ends with an outcome and books as Q says.
def Spec (s : Session) (lease : LockLease) (seed : UUID → Option RecommendationStateRecord) (L : ScanLedger)
    (p : Run β) (Q : Except PyError β → ScanLedger → Prop) : Prop :=
  ∀ w, (contract s.self seed).invariant w → Held s lease L w → Safe (contract s.self seed) s.thread
    (fun outcome w' => ∃ L', Held s lease L' w' ∧ w.journal <:+ w'.journal ∧ Q outcome L') p w

-- A value as good says, or an error of the kind E that left the scan's books broken.
def Ends (E : PyError → Prop) (good : β → ScanLedger → Prop) : Except PyError β → ScanLedger → Prop
  | .ok value,L => good value L
  | .error error,L => E error ∧ L.broken = true

-- Anything but the verdict that a finalization is superseded.
def Ordinary (error : PyError) : Prop := error.kind ≠ .finalizationSuperseded

theorem ordinary_exact (error : PyError) : Ordinary error ↔ error.isSuperseded = false := by
  simp [Ordinary,PyError.isSuperseded]

section Rules
variable {s : Session} {lease : LockLease} {seed : UUID → Option RecommendationStateRecord} {L : ScanLedger}
  {α β : Type} {M : Except PyError α → ScanLedger → Prop} {Q R : Except PyError β → ScanLedger → Prop}

theorem Spec.done {outcome : Except PyError β} (holds : Q outcome L) : Spec s lease seed L (.done outcome) Q :=
  fun _ _ held => ⟨L,held,List.suffix_refl _,holds⟩

theorem Spec.pure {value : β} (holds : Q (.ok value) L) : Spec s lease seed L (pure value) Q := Spec.done holds

theorem Spec.throw {error : PyError} (holds : Q (.error error) L) :
    Spec s lease seed L (Program.throw error) Q := Spec.done holds

theorem Spec.mono {p : Run β} (spec : Spec s lease seed L p R) (weaken : ∀ outcome L', R outcome L' → Q outcome L') :
    Spec s lease seed L p Q := by
  intro w valid held
  refine (spec w valid held).mono valid ?_
  rintro outcome w' _ ⟨L',held',later,holds⟩
  exact ⟨L',held',later,weaken outcome L' holds⟩

-- A spec with what nothing takes away.
theorem Spec.grown {p : Run β} (spec : Spec s lease seed L p Q) :
    Spec s lease seed L p fun outcome L' => Grown L L' ∧ Q outcome L' := by
  intro w valid held
  refine (spec w valid held).mono valid ?_
  rintro outcome w' valid' ⟨L',held',later,holds⟩
  exact ⟨L',held',later,held.grown held' later valid'.2,holds⟩

-- A law of the books may be used of the books at hand.
theorem Spec.known {P : ScanLedger → Prop} {p : Run β}
    (law : ∀ j, Lawful (Legal s.self seed) j → P (ledger s.scanLockKey j))
    (spec : P L → Spec s lease seed L p Q) : Spec s lease seed L p Q :=
  fun w valid held => spec (held.books ▸ law w.journal valid.2) w valid held

theorem Spec.bind {p : Run α} {rest : α → Run β} (first : Spec s lease seed L p M)
    (failed : ∀ error L', M (.error error) L' → Q (.error error) L')
    (second : ∀ value L', M (.ok value) L' → Spec s lease seed L' (rest value) Q) :
    Spec s lease seed L (p >>= rest) Q := by
  intro w valid held
  refine Safe.bind valid (first w valid held) ?_ ?_
  · rintro error w' _ ⟨L',held',later,holds⟩
    exact ⟨L',held',later,failed error L' holds⟩
  · rintro value w' valid' ⟨L',held',later,holds⟩
    refine (second value L' holds w' valid' held').mono valid' ?_
    rintro outcome w'' _ ⟨L'',held'',later',holds'⟩
    exact ⟨L'',held'',later.trans later',holds'⟩

theorem Spec.value {value : α} {rest : α → Run β} (spec : Spec s lease seed L (rest value) Q) :
    Spec s lease seed L (Program.done (.ok value) >>= rest) Q := spec

theorem Spec.catching {caught : PyError → Bool} {p : Run β} {Q : Except PyError (Except PyError β) → ScanLedger → Prop}
    (body : Spec s lease seed L p R)
    (returned : ∀ value L', R (.ok value) L' → Q (.ok (.ok value)) L')
    (handled : ∀ error L', caught error = true → R (.error error) L' → Q (.ok (.error error)) L')
    (passed : ∀ error L', caught error = false → R (.error error) L' → Q (.error error) L') :
    Spec s lease seed L (p.catching caught) Q := by
  intro w valid held
  refine Safe.catching valid (body w valid held) ?_ ?_ ?_
  · rintro value w' _ ⟨L',held',later,holds⟩
    exact ⟨L',held',later,returned value L' holds⟩
  · rintro error w' _ known ⟨L',held',later,holds⟩
    exact ⟨L',held',later,handled error L' known holds⟩
  · rintro error w' _ known ⟨L',held',later,holds⟩
    exact ⟨L',held',later,passed error L' known holds⟩

-- except Exception: the error is handed on as a value, and so is what is left when it is not.
theorem Spec.guarded {p : Run β} {bad : ScanLedger → Prop} (body : Spec s lease seed L p R)
    (fails : ∀ error L', R (.error error) L' → bad L') :
    Spec s lease seed L (p.catching PyError.isException) fun outcome L' => Grown L L' ∧ match outcome with
      | .ok (.ok value) => R (.ok value) L'
      | _ => bad L' :=
  Spec.catching body.grown (fun _ _ holds => holds) (fun error L' _ holds => ⟨holds.1,fails error L' holds.2⟩)
    fun error L' _ holds => ⟨holds.1,fails error L' holds.2⟩

end Rules

-- What an operation of the holder does when it takes effect: the stores go on holding what
-- the journal says, its facts are lawful, and the books are as good says.
def Serves (s : Session) (lease : LockLease) (seed : UUID → Option RecommendationStateRecord) (L : ScanLedger)
    (op : Session.Operation β) (good : β → ScanLedger → Prop) : Prop :=
  ∀ input w j, Represents seed w j → Lawful (Legal s.self seed) j → Held s lease L ⟨w,j⟩ →
    ∀ value w' facts, op input w = .ok (value,w',facts) → Represents seed w' (s.note facts j) ∧
      Lawful (Legal s.self seed) (s.note facts j) ∧ (L.after s.thread facts).holder = L.holder ∧
      good value (L.after s.thread facts)

section Operations
variable {s : Session} {lease : LockLease} {seed : UUID → Option RecommendationStateRecord} {L : ScanLedger}
  {β : Type} {E : PyError → Prop} {good : β → ScanLedger → Prop} {op : Session.Operation β}

theorem break_enter (actor : Option Nat) (error : PyError) (mine : actor = L.holder.map (·.1)) :
    L.enter actor (.failed error) = L.break := by
  simp only [ScanLedger.enter]
  exact if_pos mine

-- An interrupted operation is entered as one, after what it may have done.
theorem fail_noted {w : Stores} {j : Log} (facts : List Fact) (error : PyError)
    (rep : Represents seed w (s.note facts j)) (lawful : Lawful (Legal s.self seed) (s.note facts j))
    (held : Held s lease (L.after s.thread facts) ⟨w,s.note facts j⟩) :
    Represents seed w (s.note (.failed error :: facts) j) ∧
      Lawful (Legal s.self seed) (s.note (.failed error :: facts) j) ∧
      Held s lease (L.after s.thread facts).break ⟨w,s.note (.failed error :: facts) j⟩ := by
  have single := note_single [.failed error] held.single
  refine ⟨rep.quietly rfl,⟨⟨held.single,rfl⟩,lawful⟩,?_,held.holder,single⟩
  have books : ledger s.scanLockKey (s.note (.failed error :: facts) j) = _ :=
    ledger_same s.scanLockKey (some s.thread) (.failed error) (s.note facts j)
  rw [books,held.books]
  exact break_enter _ _ (by rw [held.holder]; rfl)

-- Whatever an act notes, it notes in the call's own name.
theorem outcome_lands {w : Stores} {j : Log} (input : Input) (serves : Serves s lease seed L op good)
    (raises : ∀ error, op input w = .error error → E error) (interrupts : ∀ cause : Interruption, E cause.error)
    (rep : Represents seed w j) (lawful : Lawful (Legal s.self seed) j) (held : Held s lease L ⟨w,j⟩) :
    ∃ outcome stores facts L', s.outcome op input ⟨w,j⟩ = (outcome,⟨stores,s.note facts j⟩) ∧
      Represents seed stores (s.note facts j) ∧ Lawful (Legal s.self seed) (s.note facts j) ∧
      Held s lease L' ⟨stores,s.note facts j⟩ ∧ Ends E good outcome L' := by
  rcases outcome_parts s op input ⟨w,j⟩ with ⟨error,did,cause⟩ | ⟨value,stores,facts,effect,did⟩
  · obtain ⟨rep',lawful',held'⟩ := fail_noted [] error rep lawful held
    refine ⟨.error error,_,_,_,did,rep',lawful',held',?_,rfl⟩
    rcases cause with ⟨cause,rfl⟩ | raised
    · exact interrupts cause
    · exact raises error raised
  · obtain ⟨rep',lawful',leased,holds⟩ := serves input w j rep lawful held value stores facts effect
    have held' : Held s lease (L.after s.thread facts) ⟨stores,s.note facts j⟩ :=
      ⟨by rw [ledger_note,held.books],leased.trans held.holder,note_single _ held.single⟩
    rcases did with did | ⟨cause,did⟩
    · exact ⟨.ok value,_,_,_,did,rep',lawful',held',holds⟩
    · obtain ⟨rep'',lawful'',held''⟩ := fail_noted facts cause.error rep' lawful' held'
      exact ⟨.error cause.error,_,_,_,did,rep'',lawful'',held'',interrupts cause,rfl⟩

theorem Spec.perform (serves : Serves s lease seed L op good)
    (raises : ∀ input w error, op input w = .error error → E error)
    (interrupts : ∀ cause : Interruption, E cause.error) :
    Spec s lease seed L (s.perform op) (Ends E good) := by
  intro w _ held w' valid moved input
  obtain ⟨outcome,stores,facts,L',did,rep,lawful,held',holds⟩ := outcome_lands input serves
    (raises input w'.stores) interrupts valid.1 valid.2 (held.others moved valid.2)
  simp only [did]
  exact ⟨⟨rep,lawful⟩,fun other different => note_others facts _ different,L',held',
    moved.suffix.trans (note_suffix facts _),holds⟩

-- An operation that only reads.
theorem Spec.read {op : Stores → Except PyError β}
    (finds : ∀ w j, Represents seed w j → Lawful (Legal s.self seed) j → Held s lease L ⟨w,j⟩ →
      ∀ value, op w = .ok value → good value L)
    (raises : ∀ w error, op w = .error error → E error) (interrupts : ∀ cause : Interruption, E cause.error) :
    Spec s lease seed L (s.read op) (Ends E good) := by
  refine Spec.perform ?_ ?_ interrupts
  · intro input w j rep lawful held value w' facts did
    simp only [bind_ok,pure_ok,Prod.mk.injEq] at did
    obtain ⟨_,read,rfl,rfl,rfl⟩ := did
    exact ⟨rep,lawful,rfl,finds w j rep lawful held _ read⟩
  · intro input w error did
    cases known : op w with
    | error error' =>
      rw [known] at did
      cases did
      exact raises w _ known
    | ok value => rw [known] at did; cases did

end Operations
end SwapMonitor
