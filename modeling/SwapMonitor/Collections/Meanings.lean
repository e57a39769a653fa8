import SwapMonitor.Collections.Orders

namespace Collections
variable {α β δ γ : Type*} [LinearOrder γ]

-- In a sorted list equal elements are neighbours.
theorem neighbours_apart {keys : List γ} (sorted : keys.Pairwise (· ≤ ·)) :
    (∀ pair ∈ keys.zip keys.tail, pair.2 ≠ pair.1) ↔ keys.Nodup := by
  induction keys with
  | nil => simp
  | cons first rest ih =>
    cases rest with
    | nil => simp
    | cons second others =>
      obtain ⟨low,tail⟩ := List.pairwise_cons.mp sorted
      have later := ih tail
      rw [List.tail_cons] at later
      rw [List.tail_cons,List.zip_cons_cons,List.forall_mem_cons,later,List.nodup_cons (a := first)]
      refine and_congr_left fun _ => ⟨?_,?_⟩
      · intro apart member
        have least : second ≤ first := by
          rcases List.mem_cons.mp member with same | inside
          · exact same.ge
          · exact (List.pairwise_cons.mp tail).1 first inside
        exact apart (le_antisymm least (low second (List.mem_cons_self ..)))
      · intro fresh same
        rw [show first = second from Eq.symm same] at fresh
        exact fresh (List.mem_cons_self ..)

section Meanings
variable {xs ys : List α} {key : α → γ} {shown : α → β} {meaning : α → δ}

-- Elements that are told apart by their keys are shown alike in the order of the keys when they mean the same things.
theorem sorted_meanings (distinct : (xs.map key).Nodup) (distinct' : (ys.map key).Nodup)
    (keyed : ∀ a ∈ xs, ∀ b ∈ ys, shown a = shown b → key a = key b)
    (exact : ∀ a ∈ xs, ∀ b ∈ ys, shown a = shown b ↔ meaning a = meaning b) :
    (sortBy key xs).map shown = (sortBy key ys).map shown ↔ ∀ c, c ∈ xs.map meaning ↔ c ∈ ys.map meaning := by
  have pairs : ∀ zs : List α, (sortBy key zs).map (fun a => (key a,shown a)) = sortBy Prod.fst (zs.map fun a => (key a,shown a)) :=
    fun zs => (sortBy_map (fun a => (key a,shown a)) Prod.fst zs).symm
  have kept : ∀ {zs : List α}, (zs.map key).Nodup → ((zs.map fun a => (key a,shown a)).map Prod.fst).Nodup := by
    intro zs apart
    rwa [List.map_map]
  have texts : ∀ zs : List α, (sortBy key zs).map shown = ((sortBy key zs).map fun a => (key a,shown a)).map Prod.snd := by
    intro zs
    rw [List.map_map]
    rfl
  have members : ∀ (zs : List α) c, c ∈ zs.map shown ↔ c ∈ (sortBy key zs).map shown := by
    intro zs c
    exact (((sortBy_perm key zs).map shown).mem_iff).symm
  constructor
  · intro same
    refine members_follow (fun a left b right alike => (exact a left b right).mp alike) fun c => ?_
    rw [members xs,members ys,same]
  · intro alike
    have shownAlike := members_follow (fun a left b right same => (exact a left b right).mpr same) alike
    have pairsAlike := members_follow (g := fun a => (key a,shown a))
      (fun a left b right same => Prod.ext (keyed a left b right same) same) shownAlike
    rw [texts,texts,pairs,pairs,(sortBy_members (kept distinct) (kept distinct')).mpr pairsAlike]

end Meanings

-- Without repetition, sorted lists are known by their elements.
theorem sorted_members {keys others : List γ} : sortBy id keys.dedup = sortBy id others.dedup ↔ ∀ c, c ∈ keys ↔ c ∈ others := by
  constructor
  · intro same c
    have inside : c ∈ sortBy id keys.dedup ↔ c ∈ sortBy id others.dedup := by rw [same]
    rwa [mem_sortBy,mem_sortBy,List.mem_dedup,List.mem_dedup] at inside
  · intro alike
    refine rising_unique (sorted_rising keys) (sorted_rising others) fun c => ?_
    rw [mem_sortBy,mem_sortBy,List.mem_dedup,List.mem_dedup]
    exact alike c

end Collections
