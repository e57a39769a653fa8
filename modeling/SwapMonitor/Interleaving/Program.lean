import Mathlib.Tactic.Common

namespace Interleaving

-- A sequential program over a store it shares with others. One act is one
-- indivisible step: the surroundings choose its input, the store moves, and the
-- program continues with what it saw.
inductive Program (σ ι ε α : Type) where
  | done (outcome : Except ε α)
  | act (update : ι → σ → σ) (next : ι → σ → Program σ ι ε α)

namespace Program
variable {σ ι ε α β : Type}

def bind : Program σ ι ε α → (α → Program σ ι ε β) → Program σ ι ε β
  | .done (.ok value),rest => rest value
  | .done (.error error),_ => .done (.error error)
  | .act update next,rest => .act update fun input store => (next input store).bind rest

instance : Monad (Program σ ι ε) where
  pure value := .done (.ok value)
  bind := bind

def throw (error : ε) : Program σ ι ε α := .done (.error error)

-- try/except: a named error becomes a value, every other error goes on outwards.
def catching (caught : ε → Bool) : Program σ ι ε α → Program σ ι ε (Except ε α)
  | .done (.ok value) => .done (.ok (.ok value))
  | .done (.error error) =>
    if caught error then .done (.ok (.error error)) else .done (.error error)
  | .act update next => .act update fun input store => (next input store).catching caught

-- try/finally: the clean-up runs after every outcome, and its own error replaces that outcome.
def ensuring : Program σ ι ε α → Program σ ι ε Unit → Program σ ι ε α
  | .done outcome,cleanup => cleanup.bind fun _ => .done outcome
  | .act update next,cleanup => .act update fun input store => (next input store).ensuring cleanup

end Program

-- What a thread may assume of the others between two of its acts, next to an
-- invariant that every act of every thread restores.
structure Contract (σ : Type) where
  invariant : σ → Prop
  rely : Nat → σ → σ → Prop
  refl : ∀ thread s, rely thread s s
  trans : ∀ thread {a b c}, rely thread a b → rely thread b c → rely thread a c

-- The rest of a thread is safe at a store when, whatever the others did first, its next
-- act restores the invariant, is admissible to them, and leaves a safe rest.
def Safe {σ ι ε α : Type} (c : Contract σ) (thread : Nat) (post : Except ε α → σ → Prop) :
    Program σ ι ε α → σ → Prop
  | .done outcome,s => post outcome s
  | .act update next,s => ∀ s', c.invariant s' → c.rely thread s s' → ∀ input,
      c.invariant (update input s') ∧
        (∀ other, other ≠ thread → c.rely other s' (update input s')) ∧
        Safe c thread post (next input s') (update input s')

section Rules
variable {σ ι ε α β : Type} {c : Contract σ} {thread : Nat}

theorem Safe.mono {post weaker : Except ε α → σ → Prop} {p : Program σ ι ε α} {s : σ}
    (holds : c.invariant s) (safe : Safe c thread post p s)
    (weaken : ∀ outcome s, c.invariant s → post outcome s → weaker outcome s) :
    Safe c thread weaker p s := by
  induction p generalizing s with
  | done outcome => exact weaken outcome s holds safe
  | act update next ih =>
    intro s' valid moved input
    obtain ⟨kept,guaranteed,rest⟩ := safe s' valid moved input
    exact ⟨kept,guaranteed,ih input s' kept rest⟩

theorem Safe.bind {M : Except ε α → σ → Prop} {post : Except ε β → σ → Prop}
    {p : Program σ ι ε α} {rest : α → Program σ ι ε β} {s : σ} (holds : c.invariant s)
    (first : Safe c thread M p s)
    (failed : ∀ error s, c.invariant s → M (.error error) s → post (.error error) s)
    (second : ∀ value s, c.invariant s → M (.ok value) s → Safe c thread post (rest value) s) :
    Safe c thread post (p.bind rest) s := by
  induction p generalizing s with
  | done outcome =>
    cases outcome with
    | ok value => exact second value s holds first
    | error error => exact failed error s holds first
  | act update next ih =>
    intro s' valid moved input
    obtain ⟨kept,guaranteed,later⟩ := first s' valid moved input
    exact ⟨kept,guaranteed,ih input s' kept later⟩

theorem Safe.catching {caught : ε → Bool} {M : Except ε α → σ → Prop}
    {post : Except ε (Except ε α) → σ → Prop} {p : Program σ ι ε α} {s : σ}
    (holds : c.invariant s) (body : Safe c thread M p s)
    (returned : ∀ value s, c.invariant s → M (.ok value) s → post (.ok (.ok value)) s)
    (handled : ∀ error s, c.invariant s → caught error = true → M (.error error) s →
      post (.ok (.error error)) s)
    (passed : ∀ error s, c.invariant s → caught error = false → M (.error error) s →
      post (.error error) s) :
    Safe c thread post (p.catching caught) s := by
  induction p generalizing s with
  | done outcome =>
    cases outcome with
    | ok value => exact returned value s holds body
    | error error =>
      cases known : caught error with
      | true =>
        simp only [Program.catching,known,if_true]
        exact handled error s holds known body
      | false =>
        simp only [Program.catching,known,Bool.false_eq_true,if_false]
        exact passed error s holds known body
  | act update next ih =>
    intro s' valid moved input
    obtain ⟨kept,guaranteed,later⟩ := body s' valid moved input
    exact ⟨kept,guaranteed,ih input s' kept later⟩

theorem Safe.ensuring {M post : Except ε α → σ → Prop} {p : Program σ ι ε α}
    {cleanup : Program σ ι ε Unit} {s : σ} (holds : c.invariant s)
    (body : Safe c thread M p s)
    (finish : ∀ outcome s, c.invariant s → M outcome s →
      Safe c thread post (cleanup.bind fun _ => .done outcome) s) :
    Safe c thread post (p.ensuring cleanup) s := by
  induction p generalizing s with
  | done outcome => exact finish outcome s holds body
  | act update next ih =>
    intro s' valid moved input
    obtain ⟨kept,guaranteed,later⟩ := body s' valid moved input
    exact ⟨kept,guaranteed,ih input s' kept later⟩

-- Other threads' acts cannot spoil what is left of a thread.
theorem Safe.stable {post : Except ε α → σ → Prop} {p : Program σ ι ε α} {s s' : σ}
    (settled : ∀ outcome s s', c.rely thread s s' → post outcome s → post outcome s')
    (safe : Safe c thread post p s) (moved : c.rely thread s s') : Safe c thread post p s' := by
  cases p with
  | done outcome => exact settled outcome s s' moved safe
  | act update next =>
    intro later valid further input
    exact safe later valid (c.trans thread moved further) input

end Rules
end Interleaving
