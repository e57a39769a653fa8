import SwapMonitor.Interleaving.Pool
import Mathlib.Order.Basic

namespace Interleaving

-- The rest of a thread, run alone on fine inputs whose clock never goes back, ends as post
-- says of its last reading; what holds of every store in between may be assumed.
def Returns {σ ι ε α τ : Type} [LE τ] (fine : ι → Prop) (clock : ι → τ) (I : σ → Prop)
    (post : τ → Except ε α → σ → Prop) : Program σ ι ε α → τ → σ → Prop
  | .done outcome,t,s => post t outcome s
  | .act update next,t,s => ∀ input, fine input → t ≤ clock input → I (update input s) →
      Returns fine clock I post (next input s) (clock input) (update input s)

section Rules
variable {σ ι ε α β τ : Type} [Preorder τ] {fine : ι → Prop} {clock : ι → τ} {I : σ → Prop}

theorem Returns.mono {post weaker : τ → Except ε α → σ → Prop} {p : Program σ ι ε α} {t : τ} {s : σ} (holds : I s)
    (returns : Returns fine clock I post p t s)
    (weaken : ∀ t' outcome s, t ≤ t' → I s → post t' outcome s → weaker t' outcome s) :
    Returns fine clock I weaker p t s := by
  induction p generalizing t s with
  | done outcome => exact weaken t outcome s (le_refl t) holds returns
  | act update next ih =>
    intro input calm later kept
    exact ih input s kept (returns input calm later kept)
      fun t' outcome s further => weaken t' outcome s (le_trans later further)

theorem Returns.bind {M : τ → Except ε α → σ → Prop} {post : τ → Except ε β → σ → Prop} {p : Program σ ι ε α}
    {rest : α → Program σ ι ε β} {t : τ} {s : σ} (holds : I s) (first : Returns fine clock I M p t s)
    (failed : ∀ t' error s, t ≤ t' → I s → M t' (.error error) s → post t' (.error error) s)
    (second : ∀ t' value s, t ≤ t' → I s → M t' (.ok value) s → Returns fine clock I post (rest value) t' s) :
    Returns fine clock I post (p.bind rest) t s := by
  induction p generalizing t s with
  | done outcome =>
    cases outcome with
    | ok value => exact second t value s (le_refl t) holds first
    | error error => exact failed t error s (le_refl t) holds first
  | act update next ih =>
    intro input calm later kept
    exact ih input s kept (first input calm later kept)
      (fun t' error s further => failed t' error s (le_trans later further))
      fun t' value s further => second t' value s (le_trans later further)

theorem Returns.catching {caught : ε → Bool} {M : τ → Except ε α → σ → Prop}
    {post : τ → Except ε (Except ε α) → σ → Prop} {p : Program σ ι ε α} {t : τ} {s : σ} (holds : I s)
    (body : Returns fine clock I M p t s)
    (returned : ∀ t' value s, t ≤ t' → I s → M t' (.ok value) s → post t' (.ok (.ok value)) s)
    (handled : ∀ t' error s, t ≤ t' → I s → M t' (.error error) s →
      caught error = true ∧ post t' (.ok (.error error)) s) :
    Returns fine clock I post (p.catching caught) t s := by
  induction p generalizing t s with
  | done outcome =>
    cases outcome with
    | ok value => exact returned t value s (le_refl t) holds body
    | error error =>
      obtain ⟨known,ends⟩ := handled t error s (le_refl t) holds body
      simp only [Program.catching,known,if_true]
      exact ends
  | act update next ih =>
    intro input calm later kept
    exact ih input s kept (body input calm later kept)
      (fun t' value s further => returned t' value s (le_trans later further))
      fun t' error s further => handled t' error s (le_trans later further)

theorem Returns.ensuring {M post : τ → Except ε α → σ → Prop} {p : Program σ ι ε α} {cleanup : Program σ ι ε Unit}
    {t : τ} {s : σ} (holds : I s) (body : Returns fine clock I M p t s)
    (finish : ∀ t' outcome s, t ≤ t' → I s → M t' outcome s →
      Returns fine clock I post (cleanup.bind fun _ => .done outcome) t' s) :
    Returns fine clock I post (p.ensuring cleanup) t s := by
  induction p generalizing t s with
  | done outcome => exact finish t outcome s (le_refl t) holds body
  | act update next ih =>
    intro input calm later kept
    exact ih input s kept (body input calm later kept)
      fun t' outcome s further => finish t' outcome s (le_trans later further)

end Rules

section Runs
variable {σ ι ε α κ τ : Type} [Preorder τ]

end Runs
end Interleaving
