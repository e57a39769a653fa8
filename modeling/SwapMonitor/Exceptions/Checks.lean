import Mathlib.Tactic.Common

namespace Exceptions

variable {α β ε : Type} {fields : α} {check : α → Except ε Unit}

-- A value made of fields that pass a check.
def build (check : α → Except ε Unit) (make : (fields : α) → check fields = .ok () → β) (fields : α) : Except ε β :=
  match accepted : check fields with
  | .ok () => .ok (make fields accepted)
  | .error error => .error error

variable {make : (fields : α) → check fields = .ok () → β}

theorem build_exact {value : β} : build check make fields = .ok value ↔ ∃ accepted, make fields accepted = value := by
  unfold build
  split
  · rename_i accepted
    rw [Except.ok.injEq]
    exact ⟨fun same => ⟨accepted,same⟩,fun ⟨_,same⟩ => same⟩
  · rename_i error raised
    refine iff_of_false (fun built => nomatch built) ?_
    intro ⟨accepted,_⟩
    exact nomatch raised.symm.trans accepted

theorem build_accepted (accepted : check fields = .ok ()) : build check make fields = .ok (make fields accepted) :=
  build_exact.mpr ⟨accepted,rfl⟩

end Exceptions
