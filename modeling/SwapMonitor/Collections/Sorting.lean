import Mathlib.Data.List.Sort
import Mathlib.Data.List.Nodup

namespace Collections
variable {α : Type*} {γ : Type*} [LinearOrder γ] {rank : α → γ} {xs ys : List α}

-- A stable sort by a key.
def sortBy (rank : α → γ) (xs : List α) : List α := xs.insertionSort fun a b => rank a ≤ rank b

theorem sortBy_perm (rank : α → γ) (xs : List α) : (sortBy rank xs).Perm xs := List.perm_insertionSort _ xs

theorem sortBy_ordered (rank : α → γ) (xs : List α) : (sortBy rank xs).Pairwise fun a b => rank a ≤ rank b := by
  have total : Std.Total fun a b : α => rank a ≤ rank b := ⟨fun a b => le_total (rank a) (rank b)⟩
  have transitive : IsTrans α fun a b : α => rank a ≤ rank b := ⟨fun _ _ _ => le_trans⟩
  exact List.pairwise_insertionSort _ xs

@[simp] theorem mem_sortBy {a : α} : a ∈ sortBy rank xs ↔ a ∈ xs := (sortBy_perm rank xs).mem_iff

theorem sortBy_map {β : Type*} (f : α → β) (rank : β → γ) (xs : List α) :
    sortBy rank (xs.map f) = (sortBy (fun a => rank (f a)) xs).map f :=
  (List.map_insertionSort (fun a b => rank (f a) ≤ rank (f b)) (fun a b => rank a ≤ rank b) f xs fun _ _ _ _ => Iff.rfl).symm

-- Elements that differ in their keys are sorted in one order, whatever order they come in.
theorem sortBy_same (distinct : (xs.map rank).Nodup) (same : xs.Perm ys) : sortBy rank xs = sortBy rank ys := by
  refine List.Perm.eq_of_pairwise ?_ (sortBy_ordered rank xs) (sortBy_ordered rank ys)
    ((sortBy_perm rank xs).trans (same.trans (sortBy_perm rank ys).symm))
  intro a b left right low high
  have inside : b ∈ xs := same.mem_iff.mpr (mem_sortBy.mp right)
  exact List.inj_on_of_nodup_map distinct (mem_sortBy.mp left) inside (le_antisymm low high)

theorem sortBy_exact (distinct : (xs.map rank).Nodup) : sortBy rank xs = sortBy rank ys ↔ xs.Perm ys := by
  constructor
  · intro same
    exact (sortBy_perm rank xs).symm.trans (same ▸ sortBy_perm rank ys)
  · exact sortBy_same distinct

-- Without repetition, lists are permutations of one another when they have the same elements.
theorem sortBy_members (distinct : (xs.map rank).Nodup) (distinct' : (ys.map rank).Nodup) :
    sortBy rank xs = sortBy rank ys ↔ ∀ a, a ∈ xs ↔ a ∈ ys := by
  rw [sortBy_exact distinct,List.perm_ext_iff_of_nodup distinct.of_map distinct'.of_map]

-- What tells the elements apart at least as well says as much about which there are.
theorem members_follow {α' β δ : Type*} {xs ys : List α'} {f : α' → β} {g : α' → δ}
    (follows : ∀ a ∈ xs, ∀ b ∈ ys, f a = f b → g a = g b) (same : ∀ c, c ∈ xs.map f ↔ c ∈ ys.map f) (c : δ) :
    c ∈ xs.map g ↔ c ∈ ys.map g := by
  constructor
  · intro member
    obtain ⟨a,inside,rfl⟩ := List.mem_map.mp member
    obtain ⟨b,other,alike⟩ := List.mem_map.mp ((same (f a)).mp (List.mem_map_of_mem inside))
    exact List.mem_map.mpr ⟨b,other,(follows a inside b other alike.symm).symm⟩
  · intro member
    obtain ⟨b,inside,rfl⟩ := List.mem_map.mp member
    obtain ⟨a,other,alike⟩ := List.mem_map.mp ((same (f b)).mpr (List.mem_map_of_mem inside))
    exact List.mem_map.mpr ⟨a,other,follows a other b inside alike⟩

-- The elements in the order they first appear.
section Appearance
variable {β : Type*} [DecidableEq β] {seen : List β}

theorem eraseDups_fresh (distinct : seen.Nodup) : seen.eraseDups = seen := by
  induction seen with
  | nil => rfl
  | cons first rest ih =>
    rw [List.nodup_cons] at distinct
    have others : rest.filter (fun other => !other == first) = rest := by
      rw [List.filter_eq_self]
      intro other member
      have apart : other ≠ first := fun same => distinct.1 (same ▸ member)
      simpa using apart
    rw [List.eraseDups_cons,others,ih distinct.2]

theorem eraseDups_known {known : β} (member : known ∈ seen) (more : List β) :
    (seen ++ known :: more).eraseDups = (seen ++ more).eraseDups := by
  have found : seen.contains known = true := by simpa using member
  rw [List.eraseDups_append,List.eraseDups_append,List.cons_removeAll,found]
  rfl

theorem removeAll_eraseDups (more : List β) : more.removeAll seen.eraseDups = more.removeAll seen := by
  simp only [List.removeAll,List.elem_eq_mem,List.mem_eraseDups]

theorem eraseDups_again (distinct : seen.eraseDups.Nodup) (more : List β) :
    (seen.eraseDups ++ more).eraseDups = (seen ++ more).eraseDups := by
  rw [List.eraseDups_append,eraseDups_fresh distinct,removeAll_eraseDups,← List.eraseDups_append]

end Appearance

section Association
variable {κ β : Type*} [DecidableEq κ] {entries : List (κ × β)}

theorem lookup_member (distinct : (entries.map Prod.fst).Nodup) {key : κ} {value : β} :
    entries.lookup key = some value ↔ (key,value) ∈ entries := by
  induction entries with
  | nil => simp
  | cons entry rest ih =>
    obtain ⟨name,found⟩ := entry
    rw [List.map_cons,List.nodup_cons] at distinct
    rw [List.lookup_cons]
    by_cases same : key = name
    · subst same
      have absent : (key,value) ∉ rest := fun member => distinct.1 (List.mem_map.mpr ⟨_,member,rfl⟩)
      simp [absent,eq_comm]
    · have other : (key == name) = false := by simpa using same
      rw [other]
      simp [ih distinct.2,same]

end Association

end Collections
