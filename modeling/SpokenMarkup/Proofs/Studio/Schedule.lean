import SpokenMarkup.Proofs.Studio.Perform

set_option autoImplicit false

namespace SpokenMarkup

namespace Job

variable {σ : Type}

/-- One step of a schedule: from a job and a state to what is left of the job and the state after. A
right job waits for the left one unless the two may go side by side. -/
inductive Step : {α : Type} → Job σ α → σ → Job σ α → σ → Prop
  | act {α β : Type} (act : σ → β × σ) (next : β → Job σ α) (state : σ) :
    Step (.step act next) state (next (act state).1) (act state).2
  | left {α β γ : Type} {sideBySide : Bool} {left later : Job σ α} {right : Job σ β}
    {next : α → β → Job σ γ} {state after : σ} (moved : Step left state later after) :
    Step (.both sideBySide left right next) state (.both sideBySide later right next) after
  | right {α β γ : Type} {sideBySide : Bool} {left : Job σ α} {right later : Job σ β}
    {next : α → β → Job σ γ} {state after : σ}
    (allowed : sideBySide = true ∨ ∃ result, left = .done result)
    (moved : Step right state later after) :
    Step (.both sideBySide left right next) state (.both sideBySide left later next) after
  | join {α β γ : Type} (sideBySide : Bool) (first : α) (second : β) (next : α → β → Job σ γ)
    (state : σ) :
    Step (.both sideBySide (.done first) (.done second) next) state (next first second) state

inductive Steps {α : Type} (job : Job σ α) (state : σ) : Job σ α → σ → Prop
  | refl : Steps job state job state
  | tail {between later : Job σ α} {middle after : σ} (earlier : Steps job state between middle)
    (moved : Step between middle later after) : Steps job state later after

variable {α β : Type}

theorem Steps.trans {job between later : Job σ α} {state middle after : σ}
    (early : Steps job state between middle) (late : Steps between middle later after) :
    Steps job state later after := by
  induction late with
  | refl => exact early
  | tail _ moved ih => exact .tail ih moved

theorem Steps.head {job between later : Job σ α} {state middle after : σ}
    (moved : Step job state between middle) (rest : Steps between middle later after) :
    Steps job state later after :=
  (Steps.tail .refl moved).trans rest

theorem Step.bind {job later : Job σ α} {state after : σ} (next : α → Job σ β)
    (moved : Step job state later after) : Step (job.bind next) state (later.bind next) after := by
  cases moved with
  | act act rest state => exact .act act _ state
  | left moved => exact .left moved
  | right allowed moved => exact .right allowed moved
  | join sideBySide first second rest state => exact .join sideBySide first second _ state

theorem Steps.before {job later : Job σ α} {state after : σ} (next : α → Job σ β)
    (steps : Steps job state later after) : Steps (job.bind next) state (later.bind next) after := by
  induction steps with
  | refl => exact .refl
  | tail _ moved ih => exact .tail ih (moved.bind next)

theorem Steps.bind {job : Job σ α} {next : α → Job σ β} {later : Job σ β} {value : α}
    {state middle after : σ} (early : Steps job state (.done value) middle)
    (late : Steps (next value) middle later after) : Steps (job >>= next) state later after :=
  (early.before next).trans late

/-- A schedule is never stuck before its job is done. -/
theorem done_or_step (job : Job σ α) (state : σ) :
    (∃ result, job = .done result) ∨ ∃ later after, Step job state later after := by
  induction job generalizing state with
  | done result => exact Or.inl ⟨result, rfl⟩
  | step act next ih => exact Or.inr ⟨_, _, .act act next state⟩
  | both sideBySide left right next ihLeft ihRight ih =>
      apply Or.inr
      rcases ihLeft state with ⟨first, rfl⟩ | ⟨later, after, moved⟩
      · rcases ihRight state with ⟨second, rfl⟩ | ⟨later, after, moved⟩
        · exact ⟨_, _, .join sideBySide first second next state⟩
        · exact ⟨_, _, .right (Or.inr ⟨first, rfl⟩) moved⟩
      · exact ⟨_, _, .left moved⟩

def Later (later earlier : Job σ α) : Prop :=
  ∃ state after, Step earlier state later after

theorem acc_both {β γ : Type} (sideBySide : Bool) {left : Job σ α} {right : Job σ β}
    (next : α → β → Job σ γ) (accLeft : Acc Later left) (accRight : Acc Later right)
    (accNext : ∀ first second, Acc Later (next first second)) :
    Acc Later (.both sideBySide left right next) := by
  induction accLeft generalizing right with
  | intro left _ ihLeft =>
      induction accRight with
      | intro right closed ihRight =>
          constructor
          intro later step
          rcases step with ⟨state, after, moved⟩
          cases moved with
          | left moved => exact ihLeft _ ⟨state, after, moved⟩ ⟨right, closed⟩
          | right _ moved => exact ihRight _ ⟨state, after, moved⟩
          | join _ first second => exact accNext first second

/-- No schedule goes on forever, not even one between whose steps others change the state. -/
theorem acc_later (job : Job σ α) : Acc Later job := by
  induction job with
  | done result =>
      constructor
      intro later step
      rcases step with ⟨state, after, moved⟩
      cases moved
  | step act next ih =>
      constructor
      intro later step
      rcases step with ⟨state, after, moved⟩
      cases moved with
      | act => exact ih _
  | both sideBySide left right next ihLeft ihRight ih =>
      exact acc_both sideBySide next ihLeft ihRight ih

theorem completes (job : Job σ α) (state : σ) :
    ∃ result after, Steps job state (.done result) after := by
  induction acc_later job generalizing state with
  | intro job _ ih =>
      rcases done_or_step job state with ⟨result, rfl⟩ | ⟨later, middle, moved⟩
      · exact ⟨result, state, .refl⟩
      · obtain ⟨result, after, rest⟩ := ih later ⟨state, middle, moved⟩ middle
        exact ⟨result, after, rest.head moved⟩

end Job

end SpokenMarkup
