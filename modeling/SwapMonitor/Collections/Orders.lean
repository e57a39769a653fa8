import SwapMonitor.Collections.Sorting
import Mathlib.Algebra.Order.BigOperators.Group.List
import Mathlib.Data.List.Dedup
import Mathlib.Data.List.Forall2
import Mathlib.Data.List.Perm.Subperm

namespace Collections
variable {α β γ : Type*} [LinearOrder γ]

theorem sortBy_sorted {rank : α → γ} {xs : List α} (sorted : xs.Pairwise fun a b => rank a ≤ rank b) : sortBy rank xs = xs :=
  sorted.insertionSort_eq

-- Lists that are related element by element are sorted alike when the relation keeps the key.
theorem ordered_related {related : α → β → Prop} {rank : α → γ} {rank' : β → γ} (kept : ∀ a b, related a b → rank a = rank' b)
    {a : α} {b : β} {xs : List α} {ys : List β} (head : related a b) (tail : List.Forall₂ related xs ys) :
    List.Forall₂ related (xs.orderedInsert (fun a b => rank a ≤ rank b) a) (ys.orderedInsert (fun a b => rank' a ≤ rank' b) b) := by
  induction tail with
  | nil => exact .cons head .nil
  | cons first rest ih =>
    simp only [List.orderedInsert_cons,kept _ _ head,kept _ _ first]
    split
    · exact .cons head (.cons first rest)
    · exact .cons first ih

theorem sortBy_related {related : α → β → Prop} {rank : α → γ} {rank' : β → γ} (kept : ∀ a b, related a b → rank a = rank' b)
    {xs : List α} {ys : List β} (each : List.Forall₂ related xs ys) : List.Forall₂ related (sortBy rank xs) (sortBy rank' ys) := by
  induction each with
  | nil => exact .nil
  | cons head _ ih => exact ordered_related kept head ih

-- A strictly rising list is known by its elements.
theorem rising_unique {xs ys : List γ} (left : xs.Pairwise (· < ·)) (right : ys.Pairwise (· < ·)) (same : ∀ a, a ∈ xs ↔ a ∈ ys) :
    xs = ys := by
  have distinct : ∀ {zs : List γ}, zs.Pairwise (· < ·) → zs.Nodup := fun rising => rising.imp fun less => less.ne
  refine List.Perm.eq_of_pairwise ?_ left right ((List.perm_ext_iff_of_nodup (distinct left) (distinct right)).mpr same)
  intro a b _ _ less more
  exact absurd less (lt_asymm more)

theorem sorted_rising (xs : List γ) : (sortBy id xs.dedup).Pairwise (· < ·) := by
  have distinct : (sortBy id xs.dedup).Nodup := (sortBy_perm id _).nodup_iff.mpr (List.nodup_dedup xs)
  refine List.Pairwise.imp₂ ?_ (sortBy_ordered id xs.dedup) distinct
  intro a b order apart
  exact lt_of_le_of_ne order apart

theorem forall₂_left {related : α → β → Prop} {xs : List α} {ys : List β} (each : List.Forall₂ related xs ys) :
    ∀ a ∈ xs, ∃ b ∈ ys, related a b := by
  induction each with
  | nil => exact fun _ none => absurd none List.not_mem_nil
  | cons head _ ih =>
    intro a member
    rcases List.mem_cons.mp member with rfl | later
    · exact ⟨_,List.mem_cons_self ..,head⟩
    · obtain ⟨b,place,holds⟩ := ih a later
      exact ⟨b,List.mem_cons_of_mem _ place,holds⟩

theorem forall₂_empty {related : α → β → Prop} {xs : List α} {ys : List β} (each : List.Forall₂ related xs ys) : xs.isEmpty = ys.isEmpty := by
  rw [Bool.eq_iff_iff,List.isEmpty_iff_length_eq_zero,List.isEmpty_iff_length_eq_zero,each.length_eq]

theorem forall₂_member {related other : α → β → Prop} {xs : List α} {ys : List β} (each : List.Forall₂ related xs ys)
    (step : ∀ a ∈ xs, ∀ b, related a b → other a b) : List.Forall₂ other xs ys := by
  induction each with
  | nil => exact .nil
  | cons head _ ih =>
    exact .cons (step _ (List.mem_cons_self ..) _ head) (ih fun a member => step a (List.mem_cons_of_mem _ member))

theorem forall₂_common {δ : Type*} {one : α → β → Prop} {two : α → δ → Prop} {both : β → δ → Prop} {xs : List α} {ys : List β} {zs : List δ}
    (left : List.Forall₂ one xs ys) (right : List.Forall₂ two xs zs) (join : ∀ a b c, one a b → two a c → both b c) :
    List.Forall₂ both ys zs := by
  induction left generalizing zs with
  | nil =>
    cases right
    exact .nil
  | cons head _ ih =>
    cases right with
    | cons head' tail' => exact .cons (join _ _ _ head head') (ih tail')

-- What two passes make of the same elements is the same when one makes no more of any and as much of all.
theorem forall₂_sums {δ M : Type*} [AddCommMonoid M] [PartialOrder M] [IsOrderedCancelAddMonoid M] {one : α → β → Prop} {two : α → δ → Prop}
    {f : β → M} {g : δ → M} {xs : List α} {ys : List β} {zs : List δ} (left : List.Forall₂ one xs ys) (right : List.Forall₂ two xs zs)
    (order : ∀ a b c, one a b → two a c → f b ≤ g c) (same : (ys.map f).sum = (zs.map g).sum) :
    ∀ a ∈ xs, ∃ b c, one a b ∧ two a c ∧ f b = g c := by
  induction left generalizing zs with
  | nil => exact fun _ none => absurd none List.not_mem_nil
  | @cons a b xs ys head tail ih =>
    cases right with
    | @cons _ c _ zs head' tail' =>
      rw [List.map_cons,List.map_cons,List.sum_cons,List.sum_cons] at same
      have rest : List.Forall₂ (· ≤ ·) (ys.map f) (zs.map g) := by
        rw [List.forall₂_map_left_iff,List.forall₂_map_right_iff]
        exact forall₂_common tail tail' order
      obtain ⟨first,others⟩ := (add_eq_add_iff_eq_and_eq (order a b c head head') rest.sum_le_sum).mp same
      intro other member
      rcases List.mem_cons.mp member with rfl | later
      · exact ⟨b,c,head,head',first⟩
      · exact ih tail' others other later

theorem forall₂_pairwise {related : α → β → Prop} {left : α → α → Prop} {right : β → β → Prop} {xs : List α} {ys : List β}
    (each : List.Forall₂ related xs ys) (step : ∀ a a' b b', related a b → related a' b' → left a a' → right b b')
    (ordered : xs.Pairwise left) : ys.Pairwise right := by
  induction each with
  | nil => exact .nil
  | cons head tail ih =>
    obtain ⟨first,rest⟩ := List.pairwise_cons.mp ordered
    refine List.pairwise_cons.mpr ⟨?_,ih rest⟩
    intro b member
    obtain ⟨a,place,other⟩ := forall₂_left tail.flip b member
    exact step _ _ _ _ head other (first a place)

-- The element that a pass replaces whenever it meets a greater one.
theorem best_exact (rank : α → γ) (first : α) (rest : List α) :
    rest.foldl (fun best a => if rank best < rank a then a else best) first ∈ first :: rest ∧
      ∀ a ∈ first :: rest, rank a ≤ rank (rest.foldl (fun best a => if rank best < rank a then a else best) first) := by
  induction rest generalizing first with
  | nil => exact ⟨List.mem_cons_self ..,fun a member => List.mem_singleton.mp member ▸ le_refl _⟩
  | cons next rest ih =>
    rw [List.foldl_cons]
    obtain ⟨member,best⟩ := ih (if rank first < rank next then next else first)
    have chosen := best _ (List.mem_cons_self ..)
    by_cases replaced : rank first < rank next
    · rw [if_pos replaced] at member best chosen ⊢
      refine ⟨List.mem_cons_of_mem _ member,fun a place => ?_⟩
      rcases List.mem_cons.mp place with rfl | later
      · exact replaced.le.trans chosen
      · exact best a later
    · rw [if_neg replaced] at member best chosen ⊢
      constructor
      · rcases List.mem_cons.mp member with same | later
        · rw [same]
          exact List.mem_cons_self ..
        · exact List.mem_cons_of_mem _ (List.mem_cons_of_mem _ later)
      · intro a place
        rcases List.mem_cons.mp place with rfl | place
        · exact chosen
        rcases List.mem_cons.mp place with rfl | later
        · exact (not_lt.mp replaced).trans chosen
        · exact best a (List.mem_cons_of_mem _ later)

-- Part of the images are the images of a part.
theorem subperm_of_map {f : α → β} {part : List β} {xs : List α} (inside : part.Subperm (xs.map f)) :
    ∃ ys : List α, ys.Subperm xs ∧ ys.map f = part := by
  obtain ⟨other,perm,sublist⟩ := inside
  obtain ⟨ys,below,rfl⟩ := List.sublist_map_iff.mp sublist
  obtain ⟨zs,order,same⟩ : ∃ zs, List.Perm zs ys ∧ zs.map f = part := by
    have images : List.Forall₂ (fun b a => b = f a) (ys.map f) ys := by
      rw [List.forall₂_map_left_iff]
      exact List.forall₂_same.mpr fun _ _ => rfl
    obtain ⟨zs,each,order⟩ := List.perm_comp_forall₂ perm.symm images
    refine ⟨zs,order,?_⟩
    clear order perm
    induction each with
    | nil => rfl
    | cons head _ ih => rw [List.map_cons,head,ih]
  exact ⟨zs,order.subperm.trans below.subperm,same⟩

-- What a pass that keeps some results and drops others leaves.
theorem forall₂_kept {related : α → Option β → Prop} {keeps : α → Prop} {made : α → β → Prop} {xs : List α} {results : List (Option β)}
    (each : List.Forall₂ related xs results)
    (exact : ∀ a ∈ xs, ∀ result, related a result → (result = none ∧ ¬keeps a) ∨ ∃ b, result = some b ∧ keeps a ∧ made a b) :
    ∃ kept, kept.Sublist xs ∧ (∀ a, a ∈ kept ↔ a ∈ xs ∧ keeps a) ∧ List.Forall₂ made kept (results.filterMap id) := by
  induction each with
  | nil => exact ⟨[],.refl _,by simp,.nil⟩
  | @cons a result xs results head _ ih =>
    obtain ⟨kept,inside,members,built⟩ := ih fun other member => exact other (List.mem_cons_of_mem a member)
    rcases exact a (List.mem_cons_self ..) result head with ⟨rfl,dropped⟩ | ⟨b,rfl,keeps,own⟩
    · refine ⟨kept,inside.cons a,?_,built⟩
      intro other
      rw [members,List.mem_cons]
      constructor
      · exact fun ⟨later,keeps⟩ => ⟨.inr later,keeps⟩
      · intro ⟨place,keeps⟩
        exact ⟨place.resolve_left fun same => dropped (same ▸ keeps),keeps⟩
    · refine ⟨a :: kept,inside.cons_cons a,?_,.cons own built⟩
      intro other
      rw [List.mem_cons,members,List.mem_cons]
      constructor
      · intro place
        rcases place with rfl | ⟨later,holds⟩
        · exact ⟨.inl rfl,keeps⟩
        · exact ⟨.inr later,holds⟩
      · intro ⟨place,holds⟩
        exact place.imp_right fun later => ⟨later,holds⟩

end Collections
