import SwapMonitor.Collections.Orders
import Mathlib.Tactic.Common

namespace Exceptions
open Collections

variable {α β ε : Type} {g : α → Except ε β} {f : α → β} {items : List α} {made : List β}

-- A list worked through in order, when nothing is raised on the way.
theorem mapM_exact : items.mapM g = .ok made ↔ List.Forall₂ (fun item value => g item = .ok value) items made := by
  induction items generalizing made with
  | nil => simp [List.mapM_nil,pure,Except.pure,eq_comm]
  | cons item rest ih =>
    rw [List.mapM_cons]
    cases first : g item with
    | error error =>
      constructor
      · intro worked
        cases worked
      · intro each
        cases each with
        | cons head _ => exact nomatch first.symm.trans head
    | ok value =>
      cases others : rest.mapM g with
      | error error =>
        constructor
        · intro worked
          simp [Bind.bind,Except.bind] at worked
        · intro each
          cases each with
          | cons _ tail => exact nomatch others.symm.trans (ih.mpr tail)
      | ok values =>
        simp only [Bind.bind,Except.bind,pure,Except.pure,Except.ok.injEq]
        constructor
        · intro worked
          subst worked
          exact .cons first (ih.mp others)
        · intro each
          cases each with
          | cons head tail =>
            rw [first,Except.ok.injEq] at head
            have same := ih.mpr tail
            rw [others,Except.ok.injEq] at same
            rw [head,same]

theorem mapM_returns : (∃ made, items.mapM g = .ok made) ↔ ∀ item ∈ items, ∃ value, g item = .ok value := by
  constructor
  · intro ⟨made,worked⟩ item member
    obtain ⟨value,_,returned⟩ := forall₂_left (mapM_exact.mp worked) item member
    exact ⟨value,returned⟩
  · intro each
    induction items with
    | nil => exact ⟨[],rfl⟩
    | cons item rest ih =>
      obtain ⟨value,first⟩ := each item (List.mem_cons_self ..)
      obtain ⟨values,others⟩ := ih fun other member => each other (List.mem_cons_of_mem item member)
      exact ⟨value :: values,mapM_exact.mpr (.cons first (mapM_exact.mp others))⟩

theorem forall₂_functional {related : α → β → Prop} (each : List.Forall₂ related items made)
    (exact : ∀ item ∈ items, ∀ value, related item value → value = f item) : made = items.map f := by
  induction each with
  | nil => rfl
  | cons head _ ih =>
    rw [List.map_cons,exact _ (List.mem_cons_self ..) _ head,
      ih fun item member => exact item (List.mem_cons_of_mem _ member)]

end Exceptions
