import SpokenMarkup.Studio.Equipment

set_option autoImplicit false

namespace SpokenMarkup

theorem eq_ok_of_toOption {ε α : Type} {result : Except ε α} {value : α}
    (told : result.toOption = some value) : result = .ok value := by
  cases result with
  | error fault => cases told
  | ok other => rw [Option.some.inj told]

namespace Job

variable {σ α β : Type}

@[simp] theorem run_pure (result : α) (state : σ) :
    (pure result : Job σ α).run state = (result, state) := rfl

theorem run_step (act : σ → β × σ) (next : β → Job σ α) (state : σ) :
    (Job.step act next).run state = (next (act state).1).run (act state).2 := rfl

@[simp] theorem run_bind (job : Job σ α) (next : α → Job σ β) (state : σ) :
    (job >>= next).run state = (next (job.run state).1).run (job.run state).2 := by
  change (job.bind next).run state = _
  induction job generalizing state with
  | done result => rfl
  | step act after ih => exact ih (act state).1 next (act state).2
  | both sideBySide left right after ihLeft ihRight ih => exact ih _ _ next _

end Job

namespace StudioJob

variable {V α β : Type}

/-- Does all of a job that may fail. -/
def perform (job : StudioJob V α) (studio : Studio V) : Except Fault α × Studio V :=
  Job.run (ExceptT.run job) studio

@[simp] theorem perform_pure (value : α) (studio : Studio V) :
    perform (pure value : StudioJob V α) studio = (.ok value, studio) := rfl

@[simp] theorem perform_throw (fault : Fault) (studio : Studio V) :
    perform (throw fault : StudioJob V α) studio = (.error fault, studio) := rfl

theorem perform_bind (job : StudioJob V α) (next : α → StudioJob V β) (studio : Studio V) :
    perform (job >>= next) studio = match perform job studio with
      | (.ok value, after) => perform (next value) after
      | (.error fault, after) => (.error fault, after) := by
  unfold perform
  simp only [ExceptT.run_bind, Job.run_bind]
  cases ended : (Job.run (ExceptT.run job) studio) with
  | mk result after =>
      cases result with
      | ok value => rfl
      | error fault => rfl

@[simp] theorem perform_modify (change : Studio V → Studio V) (studio : Studio V) :
    perform (modify change : StudioJob V PUnit) studio = (.ok ⟨⟩, change studio) := rfl

@[simp] theorem perform_get (studio : Studio V) :
    perform (get : StudioJob V (Studio V)) studio = (.ok studio, studio) := rfl

@[simp] theorem perform_attempt (task : StudioTask V α) (studio : Studio V) :
    perform (Equipment.attempt task) studio = task studio := rfl

@[simp] theorem perform_attemptOnDisk (task : FileTask α) (studio : Studio V) :
    perform (Equipment.attemptOnDisk task : StudioJob V α) studio =
      ((task studio.disk).1, { studio with disk := (task studio.disk).2 }) := rfl

end StudioJob

end SpokenMarkup
