import SwapMonitor.Interleaving.Program

namespace Interleaving

-- One line of a shared journal: who wrote it (nobody, for what was there before the
-- first thread), which resource it is about, and what happened. Newest first.
structure Entry (κ φ : Type) where
  actor : Option Nat
  key : κ
  fact : φ

variable {κ φ S : Type}

-- Only entries of other threads were added.
def Others (thread : Nat) (before after : List (Entry κ φ)) : Prop :=
  ∃ new, after = new ++ before ∧ ∀ e ∈ new, e.actor ≠ some thread

theorem Others.refl (thread : Nat) (j : List (Entry κ φ)) : Others thread j j := ⟨[],rfl,by simp⟩

theorem Others.trans {thread : Nat} {a b c : List (Entry κ φ)}
    (one : Others thread a b) (two : Others thread b c) : Others thread a c := by
  obtain ⟨first,rfl,strangers⟩ := one
  obtain ⟨second,rfl,more⟩ := two
  refine ⟨second ++ first,by rw [List.append_assoc],?_⟩
  intro e present
  rcases List.mem_append.mp present with new | old
  · exact more e new
  · exact strangers e old

theorem Others.suffix {thread : Nat} {a b : List (Entry κ φ)} (moved : Others thread a b) : a <:+ b := by
  obtain ⟨new,rfl,_⟩ := moved
  exact List.suffix_append new a

def Lawful (law : Entry κ φ → List (Entry κ φ) → Prop) : List (Entry κ φ) → Prop
  | [] => True
  | e :: older => law e older ∧ Lawful law older

theorem older_suffix (newer : List (Entry κ φ)) (e : Entry κ φ) (older : List (Entry κ φ)) :
    older <:+ newer ++ e :: older := (List.suffix_cons e older).trans (List.suffix_append newer _)

instance {law : Entry κ φ → List (Entry κ φ) → Prop} [∀ e older, Decidable (law e older)] :
    (j : List (Entry κ φ)) → Decidable (Lawful law j)
  | [] => .isTrue trivial
  | e :: older =>
    have : Decidable (Lawful law older) := instDecidableLawful older
    inferInstanceAs (Decidable (law e older ∧ Lawful law older))

theorem Lawful.older {law : Entry κ φ → List (Entry κ φ) → Prop} {newer older : List (Entry κ φ)}
    (lawful : Lawful law (newer ++ older)) : Lawful law older := by
  induction newer with
  | nil => exact lawful
  | cons e newer ih => exact ih lawful.2

theorem Lawful.entry {law : Entry κ φ → List (Entry κ φ) → Prop} {newer older : List (Entry κ φ)}
    {e : Entry κ φ} (lawful : Lawful law (newer ++ e :: older)) : law e older := lawful.older.1

theorem Lawful.mono {law weaker : Entry κ φ → List (Entry κ φ) → Prop}
    (weaken : ∀ e older, law e older → weaker e older) {j : List (Entry κ φ)}
    (lawful : Lawful law j) : Lawful weaker j := by
  induction j with
  | nil => trivial
  | cons e older ih => exact ⟨weaken e older lawful.1,ih lawful.2⟩

theorem Lawful.both {one two : Entry κ φ → List (Entry κ φ) → Prop} {j : List (Entry κ φ)}
    (first : Lawful one j) (second : Lawful two j) :
    Lawful (fun e older => one e older ∧ two e older) j := by
  induction j with
  | nil => trivial
  | cons e older ih => exact ⟨⟨first.1,second.1⟩,ih first.2 second.2⟩

section View
variable [DecidableEq κ] (empty : S) (enter : S → Option Nat → φ → S)

-- The books of one resource: the fold of the entries about it, in the order they were made.
def view (key : κ) : List (Entry κ φ) → S
  | [] => empty
  | e :: older => if e.key = key then enter (view key older) e.actor e.fact else view key older

@[simp] theorem view_nil (key : κ) : view empty enter key ([] : List (Entry κ φ)) = empty := rfl

@[simp] theorem view_same (key : κ) (actor : Option Nat) (fact : φ) (older : List (Entry κ φ)) :
    view empty enter key (⟨actor,key,fact⟩ :: older) = enter (view empty enter key older) actor fact := by
  simp [view]

theorem view_other {key : κ} {e : Entry κ φ} (older : List (Entry κ φ)) (other : e.key ≠ key) :
    view empty enter key (e :: older) = view empty enter key older := by
  simp [view,other]

variable {empty enter}

-- An invariant of the books: it holds of empty ones and every lawful entry keeps it.
theorem view_invariant {law : Entry κ φ → List (Entry κ φ) → Prop} {P : κ → S → Prop}
    (start : ∀ key, P key empty)
    (kept : ∀ e older, Lawful law older → law e older → P e.key (view empty enter e.key older) →
      P e.key (enter (view empty enter e.key older) e.actor e.fact))
    {j : List (Entry κ φ)} (lawful : Lawful law j) (key : κ) : P key (view empty enter key j) := by
  induction j with
  | nil => exact start key
  | cons e older ih =>
    by_cases same : e.key = key
    · subst same
      simpa only [view,if_true] using kept e older lawful.2 lawful.1 (ih lawful.2)
    · rw [view_other empty enter older same]
      exact ih lawful.2

-- Ownership read off the books: while a thread owns a resource, a law under which the
-- others' entries change nothing about it makes the books stand still.
theorem view_settled {law : Entry κ φ → List (Entry κ φ) → Prop} {O : S → Prop} {thread : Nat}
    (exclusive : ∀ e older, law e older → e.actor ≠ some thread → O (view empty enter e.key older) →
      enter (view empty enter e.key older) e.actor e.fact = view empty enter e.key older)
    {key : κ} {before after : List (Entry κ φ)} (moved : Others thread before after)
    (lawful : Lawful law after) (mine : O (view empty enter key before)) :
    view empty enter key after = view empty enter key before := by
  obtain ⟨new,rfl,strangers⟩ := moved
  induction new with
  | nil => rfl
  | cons e new ih =>
    have rest := ih (fun x present => strangers x (List.mem_cons_of_mem e present)) lawful.2
    by_cases same : e.key = key
    · subst same
      have kept := exclusive e (new ++ before) lawful.1 (strangers e List.mem_cons_self) (rest ▸ mine)
      simpa only [List.cons_append,view,if_true,rest] using kept
    · rw [List.cons_append,view_other empty enter _ same,rest]

-- A property of the books that no entry takes away again.
theorem view_grows {P : S → Prop} {law : Entry κ φ → List (Entry κ φ) → Prop}
    (grows : ∀ e older, law e older → P (view empty enter e.key older) →
      P (enter (view empty enter e.key older) e.actor e.fact))
    {key : κ} {before after : List (Entry κ φ)} (later : before <:+ after) (lawful : Lawful law after)
    (holds : P (view empty enter key before)) : P (view empty enter key after) := by
  obtain ⟨new,rfl⟩ := later
  induction new with
  | nil => exact holds
  | cons e new ih =>
    have rest := ih lawful.2
    by_cases same : e.key = key
    · subst same
      simpa only [List.cons_append,view,if_true] using grows e (new ++ before) lawful.1 rest
    · rw [List.cons_append,view_other empty enter _ same]
      exact rest

end View
end Interleaving
