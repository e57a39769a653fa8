import Mathlib.Tactic.Common
import Mathlib.Data.List.Forall2

namespace Exceptions

variable {α β ε : Type} {x : Except ε α} {f : α → Except ε β} {returns returns' : α → Prop} {raises raises' : ε → Prop}

-- How a computation may end: what holds of a value it returns and of an error it raises.
def Finishes (x : Except ε α) (returns : α → Prop) (raises : ε → Prop) : Prop :=
  match x with
  | .ok value => returns value
  | .error error => raises error

theorem finishes_exact : Finishes x returns raises ↔
    (∀ value, x = .ok value → returns value) ∧ ∀ error, x = .error error → raises error := by
  cases x <;> simp [Finishes]

theorem finishes_returned {value : α} (ends : Finishes x returns raises) (returned : x = .ok value) : returns value :=
  (finishes_exact.mp ends).1 value returned

theorem finishes_raised {error : ε} (ends : Finishes x returns raises) (raised : x = .error error) : raises error :=
  (finishes_exact.mp ends).2 error raised

@[simp] theorem finishes_ok {value : α} : Finishes (.ok value : Except ε α) returns raises ↔ returns value := Iff.rfl

@[simp] theorem finishes_pure {value : α} : Finishes (pure value : Except ε α) returns raises ↔ returns value := Iff.rfl

@[simp] theorem finishes_error {error : ε} : Finishes (.error error : Except ε α) returns raises ↔ raises error := Iff.rfl

theorem finishes_mono (ends : Finishes x returns raises) (weaker : ∀ value, returns value → returns' value)
    (wider : ∀ error, raises error → raises' error) : Finishes x returns' raises' := by
  cases x with
  | ok value => exact weaker value ends
  | error error => exact wider error ends

theorem finishes_imp (ends : Finishes x returns raises) (weaker : ∀ value, returns value → returns' value) :
    Finishes x returns' raises := finishes_mono ends weaker fun _ raised => raised

-- What is returned along with the fact that it was.
theorem finishes_noted (ends : Finishes x returns raises) : Finishes x (fun value => x = .ok value ∧ returns value) raises := by
  cases x with
  | ok value => exact ⟨rfl,ends⟩
  | error error => exact ends

theorem finishes_bind {after : β → Prop} (first : Finishes x returns raises) (next : ∀ value, returns value → Finishes (f value) after raises) :
    Finishes (x >>= f) after raises := by
  cases x with
  | ok value => exact next value first
  | error error => exact first

-- Whatever the first part returns.
theorem finishes_any {after : β → Prop} (first : Finishes x (fun _ => True) raises) (next : ∀ value, Finishes (f value) after raises) :
    Finishes (x >>= f) after raises := finishes_bind first fun value _ => next value

theorem finishes_after {value : α} {after : β → Prop} (returned : x = .ok value) (next : Finishes (f value) after raises) :
    Finishes (x >>= f) after raises := by
  subst returned
  exact next

theorem finishes_stopped {error : ε} {after : β → Prop} (raised : x = .error error) (holds : raises error) :
    Finishes (x >>= f) after raises := by
  subst raised
  exact holds

-- A list worked through in order stops at the first error.
theorem finishes_mapM {related : α → β → Prop} {g : α → Except ε β} {items : List α}
    (each : ∀ item ∈ items, Finishes (g item) (related item) raises) :
    Finishes (items.mapM g) (List.Forall₂ related items) raises := by
  induction items with
  | nil => exact .nil
  | cons item rest ih =>
    rw [List.mapM_cons]
    apply finishes_bind (each item (List.mem_cons_self ..))
    intro made first
    apply finishes_bind (ih fun other member => each other (List.mem_cons_of_mem _ member))
    intro others following
    exact finishes_pure.mpr (.cons first following)

theorem forall₂_right {holds : β → Prop} {items : List α} {made : List β} (each : List.Forall₂ (fun _ value => holds value) items made) :
    made.length = items.length ∧ ∀ value ∈ made, holds value := by
  induction each with
  | nil => simp
  | cons first _ ih =>
    refine ⟨by simp [ih.1],?_⟩
    intro value member
    rcases List.mem_cons.mp member with rfl | later
    · exact first
    · exact ih.2 value later

end Exceptions
