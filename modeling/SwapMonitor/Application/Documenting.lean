import SwapMonitor.Application.Documents
import SwapMonitor.Application.Reachable
import SwapMonitor.Interleaving.Strengthening

namespace SwapMonitor
open Interleaving
open Function (update update_self update_of_ne)

-- A part of a call that starts after base keeps what is documented, and the values it ends
-- with are as Q says of the journal by then.
def Keeping (s : Session) (seed : UUID → Option RecommendationStateRecord) (base : Log) (p : Run β)
    (Q : β → Log → Prop) : Prop :=
  ∀ w, (contract s.self seed).invariant w → base <:+ w.journal →
    Keeps (contract s.self seed) (Documented s.self) s.thread
      (fun outcome w' => w.journal <:+ w'.journal ∧ ∀ value, outcome = .ok value → Q value w'.journal) p w

section Rules
variable {s : Session} {seed : UUID → Option RecommendationStateRecord} {base : Log} {α β : Type}
  {M : α → Log → Prop} {Q R : β → Log → Prop}

theorem Keeping.pure {value : β} (holds : ∀ j, base <:+ j → Lawful (Legal s.self seed) j → Q value j) :
    Keeping s seed base (pure value) Q := by
  intro w valid later
  refine ⟨List.suffix_refl _,?_⟩
  rintro _ ⟨⟩
  exact holds w.journal later valid.2

theorem Keeping.throw {error : PyError} : Keeping s seed base (Program.throw error) Q :=
  fun _ _ _ => ⟨List.suffix_refl _,by intro _ h; cases h⟩

theorem Keeping.mono {p : Run β} (keeping : Keeping s seed base p R) (weaken : ∀ value j, R value j → Q value j) :
    Keeping s seed base p Q := by
  intro w valid later
  refine (keeping w valid later).mono valid ?_
  rintro outcome w' _ ⟨grown,holds⟩
  exact ⟨grown,fun value same => weaken value _ (holds value same)⟩

theorem Keeping.bind {p : Run α} {rest : α → Run β} (first : Keeping s seed base p M)
    (second : ∀ value base', base <:+ base' → Lawful (Legal s.self seed) base' → M value base' →
      Keeping s seed base' (rest value) Q) : Keeping s seed base (p >>= rest) Q := by
  intro w valid later
  refine Keeps.bind valid (first w valid later) ?_ ?_
  · rintro error w' _ ⟨grown,_⟩
    exact ⟨grown,by intro _ h; cases h⟩
  · rintro value w' valid' ⟨grown,holds⟩
    refine (second value w'.journal (later.trans grown) valid'.2 (holds value rfl) w' valid'
      (List.suffix_refl _)).mono valid' ?_
    rintro outcome w'' _ ⟨grown',holds'⟩
    exact ⟨grown.trans grown',holds'⟩

theorem Keeping.value {value : α} {rest : α → Run β} (keeping : Keeping s seed base (rest value) Q) :
    Keeping s seed base (Program.done (.ok value) >>= rest) Q := keeping

-- A computation that touches no store.
theorem Keeping.computed {x : Except PyError α} {rest : α → Run β}
    (second : ∀ value, x = .ok value → Keeping s seed base (rest value) Q) :
    Keeping s seed base (Program.done x >>= rest) Q := by
  cases x with
  | ok value => exact second value rfl
  | error error => exact Keeping.throw

theorem Keeping.catching {caught : PyError → Bool} {p : Run β} (body : Keeping s seed base p R) :
    Keeping s seed base (p.catching caught) fun result j => ∀ value, result = .ok value → R value j := by
  intro w valid later
  refine Keeps.catching valid (body w valid later) ?_ ?_
  · rintro value w' _ ⟨grown,holds⟩
    refine ⟨grown,?_⟩
    rintro _ ⟨⟩ _ ⟨⟩
    exact holds value rfl
  · rintro error w' _ ⟨grown,_⟩
    refine ⟨⟨grown,?_⟩,grown,by intro _ h; cases h⟩
    rintro _ ⟨⟩ _ h
    cases h

theorem Keeping.ensuring {p : Run β} {cleanup : Run Unit} (body : Keeping s seed base p R)
    (cleaned : Keeping s seed base cleanup fun _ _ => True) :
    Keeping s seed base (p.ensuring cleanup) fun _ _ => True := by
  intro w valid later
  refine Keeps.ensuring valid (body w valid later) ?_
  rintro outcome w' valid' ⟨grown,_⟩
  refine Keeps.bind valid' (cleaned w' valid' (later.trans grown)) ?_ ?_
  · exact fun error w'' _ grown' => ⟨grown.trans grown'.1,fun _ _ => trivial⟩
  · exact fun value w'' _ grown' => ⟨grown.trans grown'.1,fun _ _ => trivial⟩

theorem Keeping.perform {op : Session.Operation β}
    (adds : ∀ input w j, Represents seed w j → Lawful (Legal s.self seed) j → Documented s.self ⟨w,j⟩ → base <:+ j →
      ∀ value w' facts, op input w = .ok (value,w',facts) →
        Documented s.self ⟨w',s.note facts j⟩ ∧ Q value (s.note facts j)) :
    Keeping s seed base (s.perform op) Q := by
  intro w _ later w' valid documented moved input _
  rcases outcome_parts s op input w' with ⟨error,did,_⟩ | ⟨value,stores,facts,ran,did⟩
  · simp only [did]
    exact ⟨documented.quietly rfl,moved.suffix.trans (note_suffix _ _),by intro _ h; cases h⟩
  · obtain ⟨documented',holds⟩ := adds input w'.stores w'.journal valid.1 valid.2 documented
      (later.trans moved.suffix) value stores facts ran
    rcases did with did | ⟨cause,did⟩
    · simp only [did]
      refine ⟨documented',moved.suffix.trans (note_suffix _ _),?_⟩
      rintro _ ⟨⟩
      exact holds
    · simp only [did]
      exact ⟨documented'.quietly rfl,moved.suffix.trans (note_suffix _ _),by intro _ h; cases h⟩

theorem Keeping.read {op : Stores → Except PyError β}
    (finds : ∀ w j, Represents seed w j → Lawful (Legal s.self seed) j → base <:+ j → ∀ value, op w = .ok value →
      Q value j) : Keeping s seed base (s.read op) Q := by
  refine Keeping.perform ?_
  intro input w j rep lawful documented later value w' facts did
  simp only [bind_ok,pure_ok,Prod.mk.injEq] at did
  obtain ⟨_,read,rfl,rfl,rfl⟩ := did
  exact ⟨documented,finds w j rep lawful later _ read⟩

end Rules

-- The plan a call was asked for is the one it was authorized for, and the scan is the plan's.
structure Session.Asks (s : Session) (plan : RotationPlan) : Prop where
  own : s.scanRequest.plan = plan
  identified : s.scanRequest.identity.rotationPlanId = plan.rotationPlanId
  authorized : s.self.rotationPlans plan.rotationPlanId = some plan

section Knowledge
variable {s : Session} {seed : UUID → Option RecommendationStateRecord} {base later : Log} {scan : LogicalScanRun}
  {plan : RotationPlan}

theorem Session.Asks.filed (asks : s.Asks plan) : Filed s.self plan.rotationPlanId plan.portfolioId := by
  intro plan' known
  rw [asks.authorized] at known
  cases known
  rfl

end Knowledge

-- The operations of a call, and what each leaves documented.
section Operations
variable {s : Session} {seed : UUID → Option RecommendationStateRecord} {base : Log} {scan : LogicalScanRun}
  {plan : RotationPlan}

end Operations
end SwapMonitor
