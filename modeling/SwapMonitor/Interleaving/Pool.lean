import SwapMonitor.Interleaving.Program

namespace Interleaving
variable {σ ι ε α κ : Type}

-- Threads are numbered in the order of their start and never leave the pool.
structure Pool (σ ι ε α : Type) where
  store : σ
  threads : List (Program σ ι ε α)

inductive Move (κ ι : Type) where
  | start (request : κ)
  | step (thread : Nat) (input : ι)

-- The body of a thread is given its own number together with its request.
def Pool.move (body : Nat → κ → Program σ ι ε α) (pool : Pool σ ι ε α) :
    Move κ ι → Option (Pool σ ι ε α)
  | .start request => some {pool with threads := pool.threads ++ [body pool.threads.length request]}
  | .step thread input =>
    match pool.threads[thread]? with
    | some (.act update next) =>
      some ⟨update input pool.store,pool.threads.set thread (next input pool.store)⟩
    | _ => none

inductive Reached (body : Nat → κ → Program σ ι ε α) (first : Pool σ ι ε α) :
    Pool σ ι ε α → Prop where
  | initial : Reached body first first
  | move : Reached body first before → before.move body m = some after → Reached body first after

def Finished : Program σ ι ε α → Prop
  | .done _ => True
  | .act _ _ => False

-- One at a time: nothing starts before everything started so far has finished.
inductive Alone (body : Nat → κ → Program σ ι ε α) (first : Pool σ ι ε α) :
    Pool σ ι ε α → Prop where
  | initial : Alone body first first
  | start : Alone body first before → (∀ p ∈ before.threads, Finished p) →
      before.move body (.start request) = some after → Alone body first after
  | step : Alone body first before → before.move body (.step thread input) = some after →
      Alone body first after

theorem Alone.reached {body : Nat → κ → Program σ ι ε α} {first pool : Pool σ ι ε α}
    (path : Alone body first pool) : Reached body first pool := by
  induction path with
  | initial => exact .initial
  | start _ _ moved ih => exact .move ih moved
  | step _ moved ih => exact .move ih moved

-- One at a time, only the newest thread may still be running.
theorem alone_newest {body : Nat → κ → Program σ ι ε α} {first pool : Pool σ ι ε α}
    (quiet : ∀ p ∈ first.threads, Finished p) (path : Alone body first pool) {thread : Nat} {p : Program σ ι ε α}
    (found : pool.threads[thread]? = some p) (earlier : thread + 1 < pool.threads.length) : Finished p := by
  induction path generalizing p with
  | initial => exact quiet p (List.mem_of_getElem? found)
  | start _ finished moved =>
    cases Option.some.inj moved
    simp only [List.length_append,List.length_singleton] at earlier
    rw [List.getElem?_append_left (by omega)] at found
    exact finished p (List.mem_of_getElem? found)
  | @step before other input after _ moved ih =>
    simp only [Pool.move] at moved
    split at moved
    · rename_i update next known
      cases Option.some.inj moved
      rw [List.length_set] at earlier
      by_cases same : thread = other
      · subst same
        exact absurd (ih known earlier) (by simp [Finished])
      · rw [List.getElem?_set_ne (fun equal => same equal.symm)] at found
        exact ih found earlier
    · cases moved

theorem Reached.trans {body : Nat → κ → Program σ ι ε α} {first middle last : Pool σ ι ε α}
    (one : Reached body first middle) (two : Reached body middle last) :
    Reached body first last := by
  induction two with
  | initial => exact one
  | move _ moved ih => exact .move ih moved

-- A schedule fixes every choice of the surroundings, so a run on it can be computed.
def schedule (body : Nat → κ → Program σ ι ε α) :
    Pool σ ι ε α → List (Move κ ι) → Option (Pool σ ι ε α)
  | pool,[] => some pool
  | pool,m :: rest => (pool.move body m).bind (schedule body · rest)

theorem schedule_reached {body : Nat → κ → Program σ ι ε α} {pool last : Pool σ ι ε α}
    {moves : List (Move κ ι)} (ran : schedule body pool moves = some last) :
    Reached body pool last := by
  induction moves generalizing pool with
  | nil => cases Option.some.inj ran; exact .initial
  | cons m rest ih =>
    obtain ⟨next,moved,later⟩ := Option.bind_eq_some_iff.mp ran
    exact Reached.trans (.move .initial moved) (ih later)

instance (p : Program σ ι ε α) : Decidable (Finished p) :=
  match p with
  | .done _ => .isTrue trivial
  | .act _ _ => .isFalse id

-- A schedule that starts nothing before everything else has finished.
def sequential (body : Nat → κ → Program σ ι ε α) : Pool σ ι ε α → List (Move κ ι) → Bool
  | _,[] => true
  | pool,m :: rest =>
    (match m with
      | .start _ => pool.threads.all fun p => decide (Finished p)
      | .step _ _ => true) &&
    match pool.move body m with
    | some next => sequential body next rest
    | none => true

theorem sequential_alone {body : Nat → κ → Program σ ι ε α} {first pool last : Pool σ ι ε α}
    {moves : List (Move κ ι)} (path : Alone body first pool) (orderly : sequential body pool moves = true)
    (ran : schedule body pool moves = some last) : Alone body first last := by
  induction moves generalizing pool with
  | nil => cases Option.some.inj ran; exact path
  | cons m rest ih =>
    obtain ⟨next,moved,later⟩ := Option.bind_eq_some_iff.mp ran
    simp only [sequential,moved,Bool.and_eq_true] at orderly
    refine ih ?_ orderly.2 later
    cases m with
    | start request =>
      refine .start path ?_ moved
      intro p present
      exact of_decide_eq_true (List.all_eq_true.mp orderly.1 p present)
    | step thread input => exact .step path moved

-- What every pool satisfies that sound starts lead to: numbers not yet used are fresh.
structure Sound (c : Contract σ) (fresh : Nat → σ → Prop)
    (post : Nat → Except ε α → σ → Prop) (pool : Pool σ ι ε α) : Prop where
  holds : c.invariant pool.store
  unused : ∀ thread, pool.threads.length ≤ thread → fresh thread pool.store
  threads : ∀ thread p, pool.threads[thread]? = some p → Safe c thread (post thread) p pool.store

section Soundness
variable {c : Contract σ} {fresh : Nat → σ → Prop} {post : Nat → Except ε α → σ → Prop}
  {body : Nat → κ → Program σ ι ε α}

theorem start_sound (starts : ∀ thread request s, c.invariant s → fresh thread s →
      Safe c thread (post thread) (body thread request) s)
    {pool : Pool σ ι ε α} (sound : Sound c fresh post pool) (request : κ) :
    Sound c fresh post
      {pool with threads := pool.threads ++ [body pool.threads.length request]} := by
  refine ⟨sound.holds,?_,?_⟩
  · intro thread beyond
    have bound : pool.threads.length ≤ thread := by
      simp only [List.length_append,List.length_singleton] at beyond
      omega
    exact sound.unused thread bound
  · intro thread p found
    rw [List.getElem?_append] at found
    split at found
    · exact sound.threads thread p found
    · rename_i beyond
      have last : thread = pool.threads.length := by
        have small := (List.getElem?_eq_some_iff.mp found).1
        simp only [List.length_singleton] at small
        omega
      subst last
      simp only [Nat.sub_self,List.getElem?_cons_zero,Option.some.injEq] at found
      subst found
      exact starts _ _ _ sound.holds (sound.unused _ (Nat.le_refl _))

theorem step_sound (freshStable : ∀ thread s s', c.rely thread s s' → fresh thread s → fresh thread s')
    (settled : ∀ thread outcome s s', c.rely thread s s' → post thread outcome s → post thread outcome s')
    {pool : Pool σ ι ε α} (sound : Sound c fresh post pool)
    {thread : Nat} {update : ι → σ → σ} {next : ι → σ → Program σ ι ε α} {input : ι}
    (found : pool.threads[thread]? = some (.act update next)) :
    Sound c fresh post
      ⟨update input pool.store,pool.threads.set thread (next input pool.store)⟩ := by
  obtain ⟨kept,guaranteed,rest⟩ := sound.threads thread _ found pool.store sound.holds
    (c.refl thread pool.store) input
  have inRange : thread < pool.threads.length := (List.getElem?_eq_some_iff.mp found).1
  refine ⟨kept,?_,?_⟩
  · intro other beyond
    rw [List.length_set] at beyond
    exact freshStable other _ _ (guaranteed other (by omega)) (sound.unused other beyond)
  · intro other p located
    by_cases same : other = thread
    · subst same
      rw [List.getElem?_set_self inRange] at located
      cases Option.some.inj located
      exact rest
    · rw [List.getElem?_set_ne (fun equal => same equal.symm)] at located
      exact (sound.threads other p located).stable (settled other) (guaranteed other same)

-- The induction every safety result of a pool rests on.
theorem reached_sound (starts : ∀ thread request s, c.invariant s → fresh thread s →
      Safe c thread (post thread) (body thread request) s)
    (freshStable : ∀ thread s s', c.rely thread s s' → fresh thread s → fresh thread s')
    (settled : ∀ thread outcome s s', c.rely thread s s' → post thread outcome s → post thread outcome s')
    {first pool : Pool σ ι ε α} (path : Reached body first pool)
    (sound : Sound c fresh post first) : Sound c fresh post pool := by
  induction path with
  | initial => exact sound
  | @move before m after _ moved ih =>
    cases m with
    | start request =>
      cases Option.some.inj moved
      exact start_sound starts ih request
    | step thread input =>
      simp only [Pool.move] at moved
      split at moved
      · rename_i update next found
        cases Option.some.inj moved
        exact step_sound freshStable settled ih found
      · cases moved

-- A thread that is not started yet sees only the others move.
theorem reached_unused (starts : ∀ thread request s, c.invariant s → fresh thread s →
      Safe c thread (post thread) (body thread request) s)
    (freshStable : ∀ thread s s', c.rely thread s s' → fresh thread s → fresh thread s')
    (settled : ∀ thread outcome s s', c.rely thread s s' → post thread outcome s → post thread outcome s')
    {first last : Pool σ ι ε α} (sound : Sound c fresh post first) (path : Reached body first last)
    {thread : Nat} (beyond : last.threads.length ≤ thread) : c.rely thread first.store last.store := by
  induction path with
  | initial => exact c.refl thread _
  | @move before m after earlier moved ih =>
    cases m with
    | start request =>
      cases Option.some.inj moved
      exact ih (by simp only [List.length_append,List.length_singleton] at beyond; omega)
    | step other input =>
      simp only [Pool.move] at moved
      split at moved
      · rename_i update next found
        cases Option.some.inj moved
        rw [List.length_set] at beyond
        have started := (List.getElem?_eq_some_iff.mp found).1
        have now := reached_sound starts freshStable settled earlier sound
        obtain ⟨_,guaranteed,_⟩ := now.threads other _ found before.store now.holds (c.refl other _) input
        exact c.trans thread (ih beyond) (guaranteed thread (by omega))
      · cases moved

end Soundness
end Interleaving
