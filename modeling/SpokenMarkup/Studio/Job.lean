set_option autoImplicit false

namespace SpokenMarkup

/-- Work on a state of type `σ` in atomic steps, which ends with a result. -/
inductive Job (σ : Type) : Type → Type 1 where
  | done {α : Type} (result : α) : Job σ α
  /-- One atomic step, and what is to be done after it. -/
  | step {α β : Type} (act : σ → α × σ) (next : α → Job σ β) : Job σ β
  /-- Two jobs, the left one first unless they may go side by side, and what follows both. -/
  | both {α β γ : Type} (sideBySide : Bool) (left : Job σ α) (right : Job σ β)
    (next : α → β → Job σ γ) : Job σ γ

namespace Job

variable {σ α β : Type}

def bind : Job σ α → (α → Job σ β) → Job σ β
  | done result, after => after result
  | step act next, after => step act fun value => (next value).bind after
  | both sideBySide left right next, after =>
    both sideBySide left right fun first second => (next first second).bind after

instance : Monad (Job σ) where
  pure := done
  bind := bind

def atomic (act : StateM σ α) : Job σ α :=
  step act done

instance : MonadLift (StateM σ) (Job σ) where
  monadLift := atomic

/-- Does all of a job, of two jobs the left one first, whether or not they may go side by side. -/
def run : {α : Type} → Job σ α → σ → α × σ
  | _, done result, state => (result, state)
  | _, step act next, state =>
    let (value, state) := act state
    (next value).run state
  | _, both _ left right next, state =>
    let (first, state) := left.run state
    let (second, state) := right.run state
    (next first second).run state

end Job

end SpokenMarkup
