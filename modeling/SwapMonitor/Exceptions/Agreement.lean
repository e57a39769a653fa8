import SwapMonitor.Exceptions.Checks

namespace Exceptions

variable {α β γ δ ε : Type} {related : α → β → Prop} {after : γ → δ → Prop}

-- Two computations raise the same, or return related values.
inductive Agree (related : α → β → Prop) : Except ε α → Except ε β → Prop where
  | returned {a : α} {b : β} : related a b → Agree related (.ok a) (.ok b)
  | raised (error : ε) : Agree related (.error error) (.error error)

theorem agree_imp {related' : α → β → Prop} {x : Except ε α} {y : Except ε β} (agree : Agree related x y)
    (weaker : ∀ a b, related a b → related' a b) : Agree related' x y := by
  cases agree with
  | returned holds => exact .returned (weaker _ _ holds)
  | raised error => exact .raised error

-- Steps that do not tell related values apart make agreeing computations the same.
theorem agree_equal {x : Except ε α} {y : Except ε β} {f : α → Except ε γ} {g : β → Except ε γ} (agree : Agree related x y)
    (next : ∀ a b, x = .ok a → y = .ok b → related a b → f a = g b) : (x >>= f) = (y >>= g) := by
  cases agree with
  | returned holds => exact next _ _ rfl rfl holds
  | raised error => rfl

-- What follows one step is the same for what it returned.
theorem equal_check {x : Except ε α} {f g : α → Except ε γ} (next : ∀ a, x = .ok a → f a = g a) : (x >>= f) = (x >>= g) := by
  cases x with
  | error error => rfl
  | ok a => exact next a rfl

-- The second steps agree on what the first ones returned.
theorem agree_bind {x : Except ε α} {y : Except ε β} {f : α → Except ε γ} {g : β → Except ε δ} (agree : Agree related x y)
    (next : ∀ a b, x = .ok a → related a b → Agree after (f a) (g b)) : Agree after (x >>= f) (y >>= g) := by
  cases agree with
  | returned holds => exact next _ _ rfl holds
  | raised error => exact .raised error

theorem agree_both {x : Except ε α} {y : Except ε β} (agree : Agree related x y) : Agree (fun a b => related a b ∧ y = .ok b) x y := by
  cases agree with
  | returned holds => exact .returned ⟨holds,rfl⟩
  | raised error => exact .raised error

theorem agree_returned {x : Except ε α} {y : Except ε β} {a : α} (agree : Agree related x y) (returned : x = .ok a) :
    ∃ b, y = .ok b ∧ related a b := by
  cases agree with
  | returned holds =>
    cases returned
    exact ⟨_,rfl,holds⟩
  | raised error => cases returned

theorem agree_symm {x : Except ε α} {y : Except ε β} (agree : Agree related x y) : Agree (fun b a => related a b) y x := by
  cases agree with
  | returned holds => exact .returned holds
  | raised error => exact .raised error

-- A step both computations take alike.
theorem agree_check {x : Except ε α} {f : α → Except ε γ} {g : α → Except ε δ}
    (next : ∀ a, x = .ok a → Agree after (f a) (g a)) : Agree after (x >>= f) (x >>= g) := by
  cases x with
  | ok a => exact next a rfl
  | error error => exact .raised error

theorem agree_map {x : Except ε α} {y : Except ε β} {f : α → γ} {g : β → δ}
    (agree : Agree (fun a b => after (f a) (g b)) x y) : Agree after (x.map f) (y.map g) := by
  cases agree with
  | returned holds => exact .returned holds
  | raised error => exact .raised error

-- What holds of the elements a traversal comes to, when each lets it go on to the next.
def Reached (holds goesOn : α → Prop) : List α → Prop
  | [] => True
  | item :: rest => holds item ∧ (goesOn item → Reached holds goesOn rest)

theorem reached_all {holds goesOn : α → Prop} {items : List α} (each : ∀ item ∈ items, holds item) : Reached holds goesOn items := by
  induction items with
  | nil => exact trivial
  | cons item rest ih =>
    exact ⟨each item (List.mem_cons_self ..),fun _ => ih fun other member => each other (List.mem_cons_of_mem _ member)⟩

-- Two traversals agree when their steps do as far as a third one comes, which agrees with them.
theorem agree_reached {holds : α → Prop} {f run : α → Except ε γ} {g : α → Except ε δ} {like : γ → γ → Prop} {items : List α}
    (each : Reached holds (fun item => ∃ value, run item = .ok value) items) (comes : ∀ item, holds item → Agree like (run item) (f item))
    (step : ∀ item, holds item → Agree after (f item) (g item)) : Agree (List.Forall₂ after) (items.mapM f) (items.mapM g) := by
  induction items with
  | nil => exact .returned .nil
  | cons item rest ih =>
    rw [List.mapM_cons,List.mapM_cons]
    refine agree_bind (step item each.1) fun value value' made head => ?_
    have reached : ∃ other, run item = .ok other := by
      obtain ⟨other,ran,_⟩ := agree_returned (agree_symm (comes item each.1)) made
      exact ⟨other,ran⟩
    refine agree_bind (ih (each.2 reached)) fun values values' _ tail => ?_
    exact .returned (.cons head tail)

theorem agree_related {f : α → Except ε γ} {g : β → Except ε δ} {xs : List α} {ys : List β} (each : List.Forall₂ related xs ys)
    (step : ∀ x y, related x y → Agree after (f x) (g y)) : Agree (List.Forall₂ after) (xs.mapM f) (ys.mapM g) := by
  induction each with
  | nil => exact .returned .nil
  | cons head _ ih =>
    rw [List.mapM_cons,List.mapM_cons]
    refine agree_bind (step _ _ head) fun value value' _ first => ?_
    refine agree_bind ih fun values values' _ others => ?_
    exact .returned (.cons first others)

-- Two values made of fields that the checks tell apart no more than their relation does.
theorem agree_build {made : β → β → Prop} {check : α → Except ε Unit} {make : (fields : α) → check fields = .ok () → β} {fields fields' : α}
    (same : check fields = check fields') (holds : ∀ accepted accepted', made (make fields accepted) (make fields' accepted')) :
    Agree made (build check make fields) (build check make fields') := by
  unfold build
  split
  · rename_i accepted
    split
    · exact .returned (holds _ _)
    · rename_i raised
      cases (accepted.symm.trans same).trans raised
  · rename_i error raised
    split
    · rename_i accepted
      cases (raised.symm.trans same).trans accepted
    · rename_i error' raised'
      obtain rfl : error = error' := Except.error.inj ((raised.symm.trans same).trans raised')
      exact .raised error

section Dominance
variable {x : Except ε α} {y : Except ε β}

-- Where the second computation returns, the first does, and what they return is related.
def Dominated (related : α → β → Prop) (x : Except ε α) (y : Except ε β) : Prop :=
  ∀ b, y = .ok b → ∃ a, x = .ok a ∧ related a b

theorem dominated_pure {a : α} {b : β} (holds : related a b) : Dominated related (pure a : Except ε α) (pure b) := by
  intro _ returned
  cases returned
  exact ⟨a,rfl,holds⟩

theorem dominated_same {related : β → β → Prop} (holds : ∀ b, y = .ok b → related b b) : Dominated related y y :=
  fun b returned => ⟨b,returned,holds b returned⟩

theorem dominated_check : Dominated (fun _ _ => True) y y := dominated_same fun _ _ => trivial

theorem dominated_bind {f : α → Except ε γ} {g : β → Except ε δ} (first : Dominated related x y)
    (next : ∀ a b, related a b → x = .ok a → y = .ok b → Dominated after (f a) (g b)) :
    Dominated after (x >>= f) (y >>= g) := by
  intro d returned
  cases ran : y with
  | error error =>
    rw [ran] at returned
    cases returned
  | ok b =>
    rw [ran] at returned
    obtain ⟨a,same,holds⟩ := first b ran
    rw [same]
    exact next a b holds same ran d returned

end Dominance

end Exceptions
