import Mathlib.Logic.Function.Basic

namespace Bodies

-- The body of a method on an object: an exception leaves the object as the statements before it made it.
abbrev Body (ε σ α : Type) := ExceptT ε (StateM σ) α

variable {ε σ α β : Type}

-- A part that only reads the object, and may raise.
def check (read : σ → Except ε α) : Body ε σ α := fun s => (read s,s)

def fetch (read : σ → α) : Body ε σ α := fun s => (.ok (read s),s)

-- An assignment to the object.
def assign (write : σ → σ) : Body ε σ Unit := fun s => (.ok (),write s)

-- What either returns with a new object or raises with the old one.
def settled (outcome : Except ε (α × σ)) (s : σ) : Except ε α × σ :=
  match outcome with
  | .ok (value,next) => (.ok value,next)
  | .error error => (.error error,s)

section Statements
variable {s : σ} {rest : α → Body ε σ β}

theorem checked {read : σ → Except ε α} {outcome : α → Except ε (β × σ)}
    (later : ∀ value, read s = .ok value → rest value s = settled (outcome value) s) :
    (check read >>= rest) s = settled (read s >>= outcome) s := by
  cases result : read s with
  | ok value =>
    simp [check,result,Bind.bind,Except.bind,ExceptT.bind,ExceptT.mk,ExceptT.bindCont,StateT.bind,← later value result]
  | error error =>
    simp only [check,settled,result,Bind.bind,Except.bind,ExceptT.bind,ExceptT.mk,ExceptT.bindCont,StateT.bind]
    rfl

theorem fetched {read : σ → α} : (fetch read >>= rest) s = rest (read s) s := rfl

theorem bind_mapped {γ : Type} {x : Except ε α} {f : α → Except ε β} {g : β → γ} :
    (x >>= f).map g = x >>= fun value => (f value).map g := by
  cases x <;> rfl

end Statements

-- A body that raises leaves the object as it was.
def Undone (body : Body ε σ α) : Prop := ∀ s error, (body s).1 = .error error → (body s).2 = s

theorem settled_undone {body : Body ε σ α} {outcome : σ → Except ε (α × σ)} (settles : ∀ s, body s = settled (outcome s) s) :
    Undone body := by
  intro s error raised
  rw [settles] at raised ⊢
  unfold settled at raised ⊢
  split at raised
  · cases raised
  · rfl

end Bodies
