import Mathlib.Tactic.Common
import Mathlib.Algebra.BigOperators.Group.List.Basic
import Mathlib.Algebra.GroupWithZero.Nat

namespace Traversal

-- A walk over a tree with an explicit stack. Each node is bounded, counted and visited before
-- its children are pushed; an eager walk refuses children it could not count at once.
structure Walk (α ε : Type) where
  children : α → List α
  visit : α → Except ε Unit
  depthLimit : Nat
  nodeLimit : Nat
  eager : Bool
  tooDeep : ε
  tooMany : ε

variable {α ε : Type}

-- A step counts a node, and no walk counts more than its limit, so the limit is the fuel.
def Walk.run (w : Walk α ε) : Nat → List (α × Nat) → Nat → Except ε Nat
  | _,[],count => .ok count
  | 0,_ :: _,_ => .error w.tooMany
  | fuel + 1,(node,depth) :: stack,count =>
    if w.depthLimit < depth then .error w.tooDeep
    else if w.nodeLimit < count + 1 then .error w.tooMany
    else if w.eager && decide (w.nodeLimit - (count + 1) < (w.children node).length) then .error w.tooMany
    else match w.visit node with
      | .error e => .error e
      | .ok _ => w.run fuel ((w.children node).map (·,depth + 1) ++ stack) (count + 1)

def Walk.count (w : Walk α ε) (root : α) : Except ε Nat := w.run (w.nodeLimit + 1) [(root,1)] 0

-- The nodes below a node, with how many steps down they are.
inductive Walk.Below (w : Walk α ε) : α → α → Nat → Prop where
  | self : w.Below x x 0
  | child : y ∈ w.children x → w.Below y z k → w.Below x z (k + 1)

-- Every node below passes its own check.
def Walk.Clean (w : Walk α ε) (x : α) : Prop := ∀ y k, w.Below x y k → w.visit y = .ok ()

-- And none is met below the depth limit, when the walk is at a depth itself.
def Walk.Passes (w : Walk α ε) (x : α) (depth : Nat) : Prop :=
  ∀ y k, w.Below x y k → depth + k ≤ w.depthLimit ∧ w.visit y = .ok ()

theorem clean_exact (w : Walk α ε) (x : α) :
    w.Clean x ↔ w.visit x = .ok () ∧ ∀ y ∈ w.children x, w.Clean y := by
  constructor
  · intro clean
    exact ⟨clean x 0 .self,fun y member z k below => clean z (k + 1) (.child member below)⟩
  · intro ⟨visited,rest⟩ y k below
    cases below with
    | self => exact visited
    | child member below => exact rest _ member y _ below

theorem passes_exact (w : Walk α ε) (x : α) (d : Nat) : w.Passes x d ↔
    d ≤ w.depthLimit ∧ w.visit x = .ok () ∧ ∀ y ∈ w.children x, w.Passes y (d + 1) := by
  constructor
  · intro passes
    obtain ⟨bound,visited⟩ := passes x 0 .self
    refine ⟨bound,visited,fun y member z k below => ?_⟩
    obtain ⟨deeper,clean⟩ := passes z (k + 1) (.child member below)
    exact ⟨by omega,clean⟩
  · intro ⟨bound,visited,rest⟩ y k below
    cases below with
    | self => exact ⟨bound,visited⟩
    | child member below =>
      obtain ⟨deeper,clean⟩ := rest _ member y _ below
      exact ⟨by omega,clean⟩

section Height
variable {w : Walk α ε} {height : α → Nat} (positive : ∀ x, 0 < height x)
  (tall : ∀ x n, height x ≤ n + 1 ↔ ∀ y ∈ w.children x, height y ≤ n)
include positive tall

theorem shallow_exact (x : α) (n : Nat) : (∀ y k, w.Below x y k → k < n) ↔ height x ≤ n := by
  induction n generalizing x with
  | zero =>
    constructor
    · intro shallow
      exact absurd (shallow x 0 .self) (by omega)
    · intro flat
      have := positive x
      omega
  | succ n ih =>
    rw [tall]
    constructor
    · intro shallow y member
      refine (ih y).mp fun z k below => ?_
      have := shallow z (k + 1) (.child member below)
      omega
    · intro flat y k below
      cases below with
      | self => omega
      | child member below =>
        have := (ih _).mpr (flat _ member) y _ below
        omega

theorem passes_split (x : α) : w.Passes x 1 ↔ height x ≤ w.depthLimit ∧ w.Clean x := by
  rw [← shallow_exact positive tall]
  constructor
  · intro passes
    refine ⟨fun y k below => ?_,fun y k below => (passes y k below).2⟩
    have := (passes y k below).1
    omega
  · intro ⟨shallow,clean⟩ y k below
    have := shallow y k below
    exact ⟨by omega,clean y k below⟩

end Height

theorem pushed_size (size : α → Nat) (children : List α) (depth : Nat) (stack : List (α × Nat)) :
    ((children.map (·,depth) ++ stack).map fun row => size row.1).sum =
      (children.map size).sum + (stack.map fun row => size row.1).sum := by
  simp [Function.comp_def]

section Counting
variable {w : Walk α ε} {size : α → Nat} (sized : ∀ x, size x = 1 + ((w.children x).map size).sum)
include sized

theorem children_counted (x : α) : (w.children x).length < size x := by
  have positive : ∀ items : List α, items.length ≤ (items.map size).sum := by
    intro items
    induction items with
    | nil => simp
    | cons item rest ih =>
      have one : 1 ≤ size item := by rw [sized item]; omega
      simp only [List.length_cons,List.map_cons,List.sum_cons]
      omega
  have bound := positive (w.children x)
  rw [sized x]
  omega

-- A walk ends exactly when every node of the stack passes and all of them fit the budget.
theorem run_exact (fuel : Nat) (stack : List (α × Nat)) (count n : Nat)
    (started : count ≤ w.nodeLimit) (fueled : w.nodeLimit < fuel + count) :
    w.run fuel stack count = .ok n ↔ n = count + (stack.map (fun row => size row.1)).sum ∧
      n ≤ w.nodeLimit ∧ ∀ row ∈ stack, w.Passes row.1 row.2 := by
  induction fuel generalizing stack count with
  | zero => omega
  | succ fuel ih =>
    cases stack with
    | nil =>
      simp only [Walk.run,Except.ok.injEq,List.map_nil,List.sum_nil,List.not_mem_nil,false_implies,
        implies_true,and_true,Nat.add_zero]
      omega
    | cons row stack =>
      obtain ⟨node,depth⟩ := row
      have counted := children_counted sized node
      have total := sized node
      simp only [Walk.run,List.map_cons,List.sum_cons,List.forall_mem_cons,passes_exact w node depth]
      by_cases deep : w.depthLimit < depth
      · simp only [deep,if_true,reduceCtorEq,false_iff]
        intro held
        obtain ⟨_,_,⟨shallow,_⟩,_⟩ := held
        omega
      by_cases many : w.nodeLimit < count + 1
      · simp only [deep,many,if_true,if_false,reduceCtorEq,false_iff]
        intro held
        obtain ⟨_,_,_⟩ := held
        omega
      by_cases full : w.eager && decide (w.nodeLimit - (count + 1) < (w.children node).length)
      · simp only [deep,many,full,if_true,if_false,reduceCtorEq,false_iff]
        intro held
        obtain ⟨_,_,_⟩ := held
        simp only [Bool.and_eq_true,decide_eq_true_eq] at full
        omega
      simp only [deep,many,full,if_false]
      cases visited : w.visit node with
      | error e => simp
      | ok _ =>
        have split : (∀ row ∈ (w.children node).map (·,depth + 1) ++ stack, w.Passes row.1 row.2) ↔
            (∀ y ∈ w.children node, w.Passes y (depth + 1)) ∧ ∀ row ∈ stack, w.Passes row.1 row.2 := by
          simp [or_imp,forall_and]
        simp only [Bool.false_eq_true,if_false]
        rw [ih _ _ (by omega) (by omega),pushed_size,split]
        constructor
        · intro held
          obtain ⟨same,bound,passes,rest⟩ := held
          exact ⟨by omega,bound,⟨by omega,trivial,passes⟩,rest⟩
        · intro held
          obtain ⟨same,bound,⟨_,_,passes⟩,rest⟩ := held
          exact ⟨by omega,bound,passes,rest⟩

theorem count_passes (root : α) (n : Nat) : w.count root = .ok n ↔
    n = size root ∧ size root ≤ w.nodeLimit ∧ w.Passes root 1 := by
  rw [Walk.count,run_exact sized _ _ _ _ (by omega) (by omega)]
  simp only [List.map_cons,List.map_nil,List.sum_cons,List.sum_nil,List.forall_mem_cons,List.not_mem_nil,
    false_implies,implies_true,and_true]
  constructor
  · intro held
    obtain ⟨same,bound,passes⟩ := held
    exact ⟨by omega,by omega,passes⟩
  · intro held
    obtain ⟨same,bound,passes⟩ := held
    exact ⟨by omega,by omega,passes⟩

theorem count_exact {height : α → Nat} (positive : ∀ x, 0 < height x)
    (tall : ∀ x n, height x ≤ n + 1 ↔ ∀ y ∈ w.children x, height y ≤ n) (root : α) (n : Nat) :
    w.count root = .ok n ↔
      n = size root ∧ size root ≤ w.nodeLimit ∧ height root ≤ w.depthLimit ∧ w.Clean root := by
  rw [count_passes sized,passes_split positive tall]

-- A walk that fits its limits is only ever stopped by the check of a node.
theorem run_refused {e : ε} (fuel : Nat) (stack : List (α × Nat)) (count : Nat) (fueled : w.nodeLimit < fuel + count)
    (fits : count + (stack.map (fun row => size row.1)).sum ≤ w.nodeLimit)
    (shallow : ∀ row ∈ stack, ∀ y k, w.Below row.1 y k → row.2 + k ≤ w.depthLimit)
    (refused : w.run fuel stack count = .error e) : ∃ row ∈ stack, ∃ y k, w.Below row.1 y k ∧ w.visit y = .error e := by
  induction fuel generalizing stack count with
  | zero => omega
  | succ fuel ih =>
    cases stack with
    | nil => cases refused
    | cons row stack =>
      obtain ⟨node,depth⟩ := row
      have counted := children_counted sized node
      have total := sized node
      simp only [List.map_cons,List.sum_cons] at fits
      have deep : ¬w.depthLimit < depth := by
        have := shallow _ List.mem_cons_self node 0 .self
        simp only at this
        omega
      have many : ¬w.nodeLimit < count + 1 := by omega
      have full : ¬(w.eager && decide (w.nodeLimit - (count + 1) < (w.children node).length)) = true := by
        simp only [Bool.and_eq_true,decide_eq_true_eq]
        omega
      simp only [Walk.run,deep,many,full,if_false] at refused
      cases visited : w.visit node with
      | error e' =>
        simp only [visited,Bool.false_eq_true,if_false] at refused
        cases refused
        exact ⟨_,List.mem_cons_self,node,0,.self,visited⟩
      | ok _ =>
        simp only [visited,Bool.false_eq_true,if_false] at refused
        obtain ⟨row,listed,y,k,below,stopped⟩ := ih _ _ (by omega) (by
            rw [pushed_size]
            omega) (by
            intro row listed y k below
            rcases List.mem_append.mp listed with child | later
            · obtain ⟨item,member,rfl⟩ := List.mem_map.mp child
              have := shallow _ List.mem_cons_self y (k + 1) (.child member below)
              simp only at this ⊢
              omega
            · exact shallow row (List.mem_cons_of_mem _ later) y k below) refused
        rcases List.mem_append.mp listed with child | later
        · obtain ⟨item,member,rfl⟩ := List.mem_map.mp child
          exact ⟨_,List.mem_cons_self,y,k + 1,.child member below,stopped⟩
        · exact ⟨row,List.mem_cons_of_mem _ later,y,k,below,stopped⟩

theorem count_refused {height : α → Nat} (positive : ∀ x, 0 < height x)
    (tall : ∀ x n, height x ≤ n + 1 ↔ ∀ y ∈ w.children x, height y ≤ n) {root : α} {e : ε}
    (fits : size root ≤ w.nodeLimit) (shallow : height root ≤ w.depthLimit) (refused : w.count root = .error e) :
    ∃ y k, w.Below root y k ∧ w.visit y = .error e := by
  have near := (shallow_exact positive tall root _).mpr shallow
  obtain ⟨row,listed,y,k,below,stopped⟩ := run_refused sized _ _ _ (by omega) (by simpa using fits) (by
    intro row listed y k below
    cases List.mem_singleton.mp listed
    have := near y k below
    simp only
    omega) refused
  cases List.mem_singleton.mp listed
  exact ⟨y,k,below,stopped⟩

end Counting
end Traversal
