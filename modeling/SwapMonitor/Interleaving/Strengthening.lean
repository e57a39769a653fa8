import SwapMonitor.Interleaving.Pool

namespace Interleaving

-- A second invariant beside the one of a contract; what the others may do stays the same.
def Contract.also {σ : Type} (c : Contract σ) (I : σ → Prop) : Contract σ where
  invariant s := c.invariant s ∧ I s
  rely := c.rely
  refl := c.refl
  trans := c.trans

-- Every act of the rest of a thread keeps I, whatever the others did before it. That it keeps
-- the contract's own invariant is known from elsewhere.
def Keeps {σ ι ε α : Type} (c : Contract σ) (I : σ → Prop) (thread : Nat) (post : Except ε α → σ → Prop) :
    Program σ ι ε α → σ → Prop
  | .done outcome,s => post outcome s
  | .act update next,s => ∀ s', c.invariant s' → I s' → c.rely thread s s' → ∀ input,
      c.invariant (update input s') → I (update input s') ∧ Keeps c I thread post (next input s') (update input s')

section Rules
variable {σ ι ε α β : Type} {c : Contract σ} {I : σ → Prop} {thread : Nat}

theorem Keeps.mono {post weaker : Except ε α → σ → Prop} {p : Program σ ι ε α} {s : σ}
    (holds : c.invariant s) (keeps : Keeps c I thread post p s)
    (weaken : ∀ outcome s, c.invariant s → post outcome s → weaker outcome s) : Keeps c I thread weaker p s := by
  induction p generalizing s with
  | done outcome => exact weaken outcome s holds keeps
  | act update next ih =>
    intro s' valid kept moved input after
    obtain ⟨kept',rest⟩ := keeps s' valid kept moved input after
    exact ⟨kept',ih input s' after rest⟩

theorem Keeps.bind {M : Except ε α → σ → Prop} {post : Except ε β → σ → Prop} {p : Program σ ι ε α}
    {rest : α → Program σ ι ε β} {s : σ} (holds : c.invariant s) (first : Keeps c I thread M p s)
    (failed : ∀ error s, c.invariant s → M (.error error) s → post (.error error) s)
    (second : ∀ value s, c.invariant s → M (.ok value) s → Keeps c I thread post (rest value) s) :
    Keeps c I thread post (p.bind rest) s := by
  induction p generalizing s with
  | done outcome =>
    cases outcome with
    | ok value => exact second value s holds first
    | error error => exact failed error s holds first
  | act update next ih =>
    intro s' valid kept moved input after
    obtain ⟨kept',later⟩ := first s' valid kept moved input after
    exact ⟨kept',ih input s' after later⟩

theorem Keeps.catching {caught : ε → Bool} {M : Except ε α → σ → Prop}
    {post : Except ε (Except ε α) → σ → Prop} {p : Program σ ι ε α} {s : σ}
    (holds : c.invariant s) (body : Keeps c I thread M p s)
    (returned : ∀ value s, c.invariant s → M (.ok value) s → post (.ok (.ok value)) s)
    (raised : ∀ error s, c.invariant s → M (.error error) s → post (.ok (.error error)) s ∧ post (.error error) s) :
    Keeps c I thread post (p.catching caught) s := by
  induction p generalizing s with
  | done outcome =>
    cases outcome with
    | ok value => exact returned value s holds body
    | error error =>
      obtain ⟨handled,passed⟩ := raised error s holds body
      simp only [Program.catching]
      split
      · exact handled
      · exact passed
  | act update next ih =>
    intro s' valid kept moved input after
    obtain ⟨kept',later⟩ := body s' valid kept moved input after
    exact ⟨kept',ih input s' after later⟩

theorem Keeps.ensuring {M post : Except ε α → σ → Prop} {p : Program σ ι ε α} {cleanup : Program σ ι ε Unit}
    {s : σ} (holds : c.invariant s) (body : Keeps c I thread M p s)
    (finish : ∀ outcome s, c.invariant s → M outcome s →
      Keeps c I thread post (cleanup.bind fun _ => .done outcome) s) :
    Keeps c I thread post (p.ensuring cleanup) s := by
  induction p generalizing s with
  | done outcome => exact finish outcome s holds body
  | act update next ih =>
    intro s' valid kept moved input after
    obtain ⟨kept',later⟩ := body s' valid kept moved input after
    exact ⟨kept',ih input s' after later⟩

-- A thread that is safe and keeps I is safe under the stronger contract.
theorem Safe.keeping {post M : Except ε α → σ → Prop} {p : Program σ ι ε α} {s : σ} (safe : Safe c thread post p s)
    (keeps : Keeps c I thread M p s) : Safe (c.also I) thread post p s := by
  induction p generalizing s with
  | done outcome => exact safe
  | act update next ih =>
    intro s' valid moved input
    obtain ⟨kept,guaranteed,rest⟩ := safe s' valid.1 moved input
    obtain ⟨kept',rest'⟩ := keeps s' valid.1 valid.2 moved input kept
    exact ⟨⟨kept,kept'⟩,guaranteed,ih input s' rest rest'⟩

end Rules
end Interleaving
