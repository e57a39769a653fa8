import Mathlib.Data.List.Sort
import Mathlib.Order.MinMax

namespace Intervals

variable {α β γ : Type} [LinearOrder α] {first last : β → α} {lo hi : α} {items items' : List β} {x y : β} {t : α}

section
variable (first last)

-- Left-closed, right-open.
def Contains (x : β) (t : α) : Prop := first x ≤ t ∧ t < last x

instance : Decidable (Contains first last x t) := inferInstanceAs (Decidable (_ ∧ _))

-- Nothing sticks out of [lo,hi), and each point of it lies in exactly one item.
structure Tiles (lo hi : α) (items : List β) : Prop where
  inside : ∀ x ∈ items, lo ≤ first x ∧ last x ≤ hi
  once : ∀ t, lo ≤ t → t < hi → items.countP (fun x => Contains first last x t) = 1

-- Each item begins where the one before it ends.
def Chained : α → List β → α → Prop
  | lo,[],hi => lo = hi
  | lo,x :: rest,hi => first x = lo ∧ Chained (last x) rest hi

instance : ∀ (lo : α) (items : List β) (hi : α), Decidable (Chained first last lo items hi)
  | _,[],_ => inferInstanceAs (Decidable (_ = _))
  | _,x :: rest,hi =>
    have := instDecidableChained (last x) rest hi
    inferInstanceAs (Decidable (_ ∧ _))

def Proper (items : List β) : Prop := ∀ x ∈ items, first x < last x

end

theorem proper_rest (proper : Proper first last (x :: items)) : Proper first last items :=
  fun y member => proper y (List.mem_cons_of_mem x member)

theorem chained_order (proper : Proper first last items) (chained : Chained first last lo items hi) : lo ≤ hi := by
  induction items generalizing lo with
  | nil => exact le_of_eq chained
  | cons x rest ih =>
    obtain ⟨start,others⟩ := chained
    have own := proper x (List.mem_cons_self ..)
    exact start ▸ own.le.trans (ih (proper_rest proper) others)

theorem chained_tiles (proper : Proper first last items) (chained : Chained first last lo items hi) : Tiles first last lo hi items := by
  induction items generalizing lo with
  | nil => exact ⟨fun _ none => absurd none List.not_mem_nil,fun t above below => absurd below (not_lt.mpr (chained ▸ above))⟩
  | cons x rest ih =>
    obtain ⟨rfl,others⟩ := chained
    have own := proper x (List.mem_cons_self ..)
    have tail := ih (proper_rest proper) others
    have order := chained_order (proper_rest proper) others
    constructor
    · intro y member
      rcases List.mem_cons.mp member with rfl | later
      · exact ⟨le_refl _,order⟩
      · exact ⟨own.le.trans (tail.inside y later).1,(tail.inside y later).2⟩
    · intro t above below
      rw [List.countP_cons]
      by_cases within : t < last x
      · have none : rest.countP (fun y => Contains first last y t) = 0 := by
          rw [List.countP_eq_zero]
          intro y later
          simp only [decide_eq_true_eq]
          exact fun holds => absurd (lt_of_lt_of_le within (tail.inside y later).1) (not_lt.mpr holds.1)
        rw [none,if_pos (decide_eq_true ⟨above,within⟩)]
      · rw [tail.once t (not_lt.mp within) below,if_neg]
        simp only [decide_eq_true_eq]
        exact fun holds => within holds.2

-- What begins no later than the rest is the item at the left end.
theorem first_tile (proper : Proper first last (x :: items)) (sorted : ∀ y ∈ items, first x ≤ first y)
    (tiles : Tiles first last lo hi (x :: items)) : first x = lo := by
  have own := proper x (List.mem_cons_self ..)
  obtain ⟨low,high⟩ := tiles.inside x (List.mem_cons_self ..)
  have covered := tiles.once lo (le_refl _) (low.trans_lt (own.trans_le high))
  have some : 0 < (x :: items).countP (fun y => Contains first last y lo) := by rw [covered]; exact Nat.one_pos
  obtain ⟨y,member,holds⟩ := List.countP_pos_iff.mp some
  have begins := (of_decide_eq_true holds).1
  refine le_antisymm ?_ low
  rcases List.mem_cons.mp member with rfl | later
  · exact begins
  · exact (sorted y later).trans begins

-- A second item inside the first one would cover its own start twice.
theorem rest_tiles (proper : Proper first last (x :: items)) (sorted : ∀ y ∈ items, first x ≤ first y)
    (tiles : Tiles first last lo hi (x :: items)) : Tiles first last (last x) hi items := by
  have own := proper x (List.mem_cons_self ..)
  have low := (tiles.inside x (List.mem_cons_self ..)).1
  constructor
  · intro y later
    obtain ⟨above,below⟩ := tiles.inside y (List.mem_cons_of_mem x later)
    refine ⟨?_,below⟩
    by_contra overlap
    have inner := proper y (List.mem_cons_of_mem x later)
    have once := tiles.once (first y) above (inner.trans_le below)
    have again : 0 < items.countP (fun z => Contains first last z (first y)) :=
      List.countP_pos_iff.mpr ⟨y,later,decide_eq_true ⟨le_refl _,inner⟩⟩
    rw [List.countP_cons,if_pos (decide_eq_true ⟨sorted y later,not_le.mp overlap⟩)] at once
    omega
  · intro t above below
    have once := tiles.once t (low.trans (own.le.trans above)) below
    rw [List.countP_cons,if_neg] at once
    · exact once
    · simp only [decide_eq_true_eq]
      exact fun holds => absurd holds.2 (not_lt.mpr above)

theorem tiles_chained (proper : Proper first last items) (sorted : items.Pairwise fun x y => first x ≤ first y) (order : lo ≤ hi)
    (tiles : Tiles first last lo hi items) : Chained first last lo items hi := by
  induction items generalizing lo with
  | nil =>
    refine order.eq_or_lt.elim id fun less => ?_
    exact absurd (tiles.once lo (le_refl _) less) (by simp)
  | cons x rest ih =>
    obtain ⟨least,others⟩ := List.pairwise_cons.mp sorted
    refine ⟨first_tile proper least tiles,?_⟩
    exact ih (proper_rest proper) others (tiles.inside x (List.mem_cons_self ..)).2 (rest_tiles proper least tiles)

theorem tiles_exact (proper : Proper first last items) (sorted : items.Pairwise fun x y => first x ≤ first y) (order : lo ≤ hi) :
    Tiles first last lo hi items ↔ Chained first last lo items hi :=
  ⟨tiles_chained proper sorted order,chained_tiles proper⟩

section Refinement
variable {start stop : γ → α} {cells : List γ} {parts : γ → List β}

theorem part_count (tiled : Tiles first last (start c) (stop c) (parts c)) (t : α) :
    (parts c).countP (fun x => Contains first last x t) = if Contains start stop c t then 1 else 0 := by
  split
  · rename_i within
    exact tiled.once t within.1 within.2
  · rename_i outside
    rw [List.countP_eq_zero]
    intro x member
    simp only [decide_eq_true_eq]
    obtain ⟨low,high⟩ := tiled.inside x member
    exact fun holds => outside ⟨low.trans holds.1,holds.2.trans_le high⟩

-- The parts of the cells lie over a point as often as the cells do.
theorem parts_count (tiled : ∀ c ∈ cells, Tiles first last (start c) (stop c) (parts c)) (t : α) :
    (cells.flatMap parts).countP (fun x => Contains first last x t) = cells.countP (fun c => Contains start stop c t) := by
  induction cells with
  | nil => rfl
  | cons c rest ih =>
    rw [List.flatMap_cons,List.countP_append,part_count (tiled c (List.mem_cons_self ..)),
      ih fun other member => tiled other (List.mem_cons_of_mem c member),List.countP_cons]
    simp only [decide_eq_true_eq]
    omega

theorem tiles_parts (tiled : ∀ c ∈ cells, Tiles first last (start c) (stop c) (parts c)) (proper : Proper start stop cells) :
    Tiles first last lo hi (cells.flatMap parts) ↔ Tiles start stop lo hi cells := by
  constructor
  · intro tiles
    refine ⟨?_,fun t above below => parts_count tiled t ▸ tiles.once t above below⟩
    intro c member
    -- A point of the cell lies in one of its parts.
    have covered : ∀ t, Contains start stop c t → ∃ x ∈ cells.flatMap parts, start c ≤ first x ∧ Contains first last x t := by
      intro t within
      have some : 0 < (parts c).countP (fun x => Contains first last x t) := by
        rw [part_count (tiled c member),if_pos within]
        exact Nat.one_pos
      obtain ⟨x,own,holds⟩ := List.countP_pos_iff.mp some
      exact ⟨x,List.mem_flatMap.mpr ⟨c,member,own⟩,((tiled c member).inside x own).1,of_decide_eq_true holds⟩
    obtain ⟨x,part,low,begins⟩ := covered (start c) ⟨le_refl _,proper c member⟩
    have left := (tiles.inside x part).1.trans begins.1
    refine ⟨left,?_⟩
    by_contra beyond
    have reach : start c ≤ hi := begins.2.le.trans (tiles.inside x part).2
    obtain ⟨y,part',_,ends⟩ := covered hi ⟨reach,not_le.mp beyond⟩
    exact absurd ends.2 (not_lt.mpr (tiles.inside y part').2)
  · intro tiles
    refine ⟨?_,fun t above below => (parts_count tiled t).trans (tiles.once t above below)⟩
    intro x part
    obtain ⟨c,member,own⟩ := List.mem_flatMap.mp part
    obtain ⟨low,high⟩ := (tiled c member).inside x own
    obtain ⟨left,right⟩ := tiles.inside c member
    exact ⟨left.trans low,high.trans right⟩

end Refinement
end Intervals
