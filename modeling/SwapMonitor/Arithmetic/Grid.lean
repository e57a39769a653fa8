import Mathlib.Data.Rat.Floor

namespace Arithmetic

section Multiples
variable {α : Type} [Field α] {step x y : α}

-- The multiples of a step.
def OnGrid (step x : α) : Prop := ∃ n : Int, x = n * step

theorem grid_zero : OnGrid step (0 : α) := ⟨0,by simp⟩

theorem grid_add : OnGrid step x → OnGrid step y → OnGrid step (x + y) := by
  intro ⟨m,left⟩ ⟨n,right⟩
  exact ⟨m + n,by rw [left,right,Int.cast_add,add_mul]⟩

theorem grid_sub : OnGrid step x → OnGrid step y → OnGrid step (x - y) := by
  intro ⟨m,left⟩ ⟨n,right⟩
  exact ⟨m - n,by rw [left,right,Int.cast_sub,sub_mul]⟩

end Multiples

variable {α : Type} [Field α] [LinearOrder α] [FloorRing α]

-- Any way to choose one of the two whole numbers next to a number.
structure Rounding (α : Type) [Field α] [LinearOrder α] [FloorRing α] where
  apply : α → Int
  lower : ∀ x, ⌊x⌋ ≤ apply x
  upper : ∀ x, apply x ≤ ⌈x⌉

-- The multiple a rounding makes of a number.
def Rounding.onto (r : Rounding α) (step x : α) : α := r.apply (x / step) * step

variable {r : Rounding α} {step x y : α}

theorem onto_grid : OnGrid step (r.onto step x) := ⟨r.apply (x / step),rfl⟩

theorem apply_above {n : Int} (above : (n : α) ≤ x) : n ≤ r.apply x :=
  (Int.le_floor.mpr above).trans (r.lower x)

theorem apply_below {n : Int} (below : x ≤ (n : α)) : r.apply x ≤ n :=
  (r.upper x).trans (Int.ceil_le.mpr below)

variable [IsStrictOrderedRing α]

def Rounding.floor : Rounding α := ⟨fun x => ⌊x⌋,fun _ => le_refl _,fun x => Int.floor_le_ceil x⟩

-- A rounding stays on the side of a multiple that its argument is on.
theorem onto_above (positive : 0 < step) (grid : OnGrid step y) (above : y ≤ x) : y ≤ r.onto step x := by
  obtain ⟨n,rfl⟩ := grid
  have quotient : (n : α) ≤ x / step := (le_div_iff₀ positive).mpr above
  have whole : (n : α) ≤ r.apply (x / step) := by exact_mod_cast apply_above quotient
  exact mul_le_mul_of_nonneg_right whole positive.le

theorem onto_below (positive : 0 < step) (grid : OnGrid step y) (below : x ≤ y) : r.onto step x ≤ y := by
  obtain ⟨n,rfl⟩ := grid
  have quotient : x / step ≤ (n : α) := (div_le_iff₀ positive).mpr below
  have whole : (r.apply (x / step) : α) ≤ n := by exact_mod_cast apply_below quotient
  exact mul_le_mul_of_nonneg_right whole positive.le

theorem onto_kept (positive : 0 < step) (grid : OnGrid step x) : r.onto step x = x :=
  le_antisymm (onto_below positive grid (le_refl _)) (onto_above positive grid (le_refl _))

theorem onto_nonneg (positive : 0 < step) (nonneg : 0 ≤ x) : 0 ≤ r.onto step x :=
  onto_above positive grid_zero nonneg

-- A share of a multiple is rounded to no more than the whole.
theorem onto_share {rate : α} (positive : 0 < step) (grid : OnGrid step x) (nonneg : 0 ≤ x) (share : rate ≤ 1) :
    r.onto step (x * rate) ≤ x := by
  apply onto_below positive grid
  exact mul_le_of_le_one_right nonneg share

end Arithmetic
