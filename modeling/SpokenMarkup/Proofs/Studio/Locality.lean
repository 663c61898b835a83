import Mathlib.Data.Set.Basic
import SpokenMarkup.Proofs.Studio.Schedule

set_option autoImplicit false

namespace SpokenMarkup

/-- The cells that a state is looked at through, and the states that occur. -/
structure Cells (σ κ ν : Type) where
  content : σ → κ → ν
  occurs : σ → Prop

namespace Cells

variable {σ κ ν : Type} (cells : Cells σ κ ν)

def SameOn (on : Set κ) (left right : σ) : Prop :=
  ∀ cell, cell ∈ on → cells.content left cell = cells.content right cell

def SameOff (off : Set κ) (left right : σ) : Prop :=
  ∀ cell, cell ∉ off → cells.content left cell = cells.content right cell

variable {cells} {on off wider : Set κ} {first second third : σ}

theorem SameOn.symm (same : cells.SameOn on first second) : cells.SameOn on second first :=
  fun cell inside => (same cell inside).symm

theorem SameOn.trans (early : cells.SameOn on first second) (late : cells.SameOn on second third) :
    cells.SameOn on first third :=
  fun cell inside => (early cell inside).trans (late cell inside)

theorem SameOff.trans (early : cells.SameOff off first second)
    (late : cells.SameOff off second third) : cells.SameOff off first third :=
  fun cell outside => (early cell outside).trans (late cell outside)

theorem SameOff.mono (same : cells.SameOff off first second) (contained : off ⊆ wider) :
    cells.SameOff wider first second :=
  fun cell outside => same cell fun inside => outside (contained inside)

theorem SameOff.sameOn (same : cells.SameOff off first second)
    (apart : ∀ cell, cell ∈ on → cell ∉ off) : cells.SameOn on first second :=
  fun cell inside => same cell (apart cell inside)

end Cells

namespace Job

variable {σ κ ν : Type}

/--
The job reads and writes the cells in `on` only, in all states that occur, and its results satisfy
`post`. Jobs inside of it that may go side by side keep to cells of their own.
-/
inductive Local (cells : Cells σ κ ν) : {α : Type} → Set κ → Job σ α → (α → Prop) → Prop
  | done {α : Type} {on : Set κ} {result : α} {post : α → Prop} (holds : post result) :
    Local cells on (.done result) post
  | step {α β : Type} {on : Set κ} {act : σ → β × σ} {next : β → Job σ α} {post : α → Prop}
    (keeps : ∀ state, cells.occurs state →
      cells.occurs (act state).2 ∧ cells.SameOff on state (act state).2)
    (steady : ∀ state other, cells.occurs state → cells.occurs other →
      cells.SameOn on state other → next (act state).1 = next (act other).1 ∧
        cells.SameOn on (act state).2 (act other).2)
    (later : ∀ state, cells.occurs state → Local cells on (next (act state).1) post) :
    Local cells on (.step act next) post
  | both {α β γ : Type} {on onLeft onRight : Set κ} {sideBySide : Bool} {left : Job σ α}
    {right : Job σ β} {next : α → β → Job σ γ} {postLeft : α → Prop} {postRight : β → Prop}
    {post : γ → Prop} (insideLeft : onLeft ⊆ on) (insideRight : onRight ⊆ on)
    (apart : ∀ cell, cell ∈ onLeft → cell ∉ onRight)
    (localLeft : Local cells onLeft left postLeft)
    (localRight : Local cells onRight right postRight)
    (later : ∀ first second, postLeft first → postRight second →
      Local cells on (next first second) post) :
    Local cells on (.both sideBySide left right next) post

variable {cells : Cells σ κ ν} {α β : Type} {on wider : Set κ}

/-- What running a local job leaves, and that other cells have no part in it. -/
structure RunsLocally (cells : Cells σ κ ν) (on : Set κ) (job : Job σ α) (post : α → Prop) :
    Prop where
  occurs : ∀ state, cells.occurs state → cells.occurs (job.run state).2
  kept : ∀ state, cells.occurs state → cells.SameOff on state (job.run state).2
  holds : ∀ state, cells.occurs state → post (job.run state).1
  steady : ∀ state other, cells.occurs state → cells.occurs other →
    cells.SameOn on state other → (job.run state).1 = (job.run other).1 ∧
      cells.SameOn on (job.run state).2 (job.run other).2

theorem sameOn_widen {state other after afterOther : σ}
    (same : cells.SameOn wider state other) (kept : cells.SameOff on state after)
    (keptOther : cells.SameOff on other afterOther) (changed : cells.SameOn on after afterOther) :
    cells.SameOn wider after afterOther := by
  intro cell inside
  by_cases touched : cell ∈ on
  · exact changed cell touched
  · rw [← kept cell touched, ← keptOther cell touched]
    exact same cell inside

theorem RunsLocally.mono {job : Job σ α} {post : α → Prop}
    (runs : RunsLocally cells on job post) (contained : on ⊆ wider) :
    RunsLocally cells wider job post := by
  refine ⟨runs.occurs, fun state occurs => (runs.kept state occurs).mono contained, runs.holds, ?_⟩
  intro state other occurs occursOther same
  obtain ⟨result, changed⟩ := runs.steady state other occurs occursOther
    fun cell inside => same cell (contained inside)
  exact ⟨result, sameOn_widen same (runs.kept state occurs)
    (runs.kept other occursOther) changed⟩

theorem Local.runsLocally {job : Job σ α} {post : α → Prop} (isLocal : Local cells on job post) :
    RunsLocally cells on job post := by
  induction isLocal with
  | done holds =>
      exact ⟨fun _ occurs => occurs, fun _ _ _ _ => rfl, fun _ _ => holds,
        fun _ _ _ _ same => ⟨rfl, same⟩⟩
  | @step α β on act next post keeps steady later ih =>
      refine ⟨?_, ?_, ?_, ?_⟩
      · intro state occurs
        exact (ih state occurs).occurs _ (keeps state occurs).1
      · intro state occurs
        exact (keeps state occurs).2.trans ((ih state occurs).kept _ (keeps state occurs).1)
      · intro state occurs
        exact (ih state occurs).holds _ (keeps state occurs).1
      · intro state other occurs occursOther same
        obtain ⟨next, after⟩ := steady state other occurs occursOther same
        simp only [run]
        rw [← next]
        exact (ih state occurs).steady _ _ (keeps state occurs).1 (keeps other occursOther).1 after
  | @both α β γ on onLeft onRight sideBySide left right next postLeft postRight post insideLeft
      insideRight apart localLeft localRight later ihLeft ihRight ih =>
      have runsLeft := ihLeft.mono insideLeft
      have runsRight := ihRight.mono insideRight
      have between := runsLeft.occurs
      have beyond := fun state occurs => runsRight.occurs _ (between state occurs)
      have rest := fun state occurs =>
        ih _ _ (runsLeft.holds state occurs) (runsRight.holds _ (between state occurs))
      refine ⟨?_, ?_, ?_, ?_⟩
      · intro state occurs
        exact (rest state occurs).occurs _ (beyond state occurs)
      · intro state occurs
        exact ((runsLeft.kept state occurs).trans (runsRight.kept _ (between state occurs))).trans
          ((rest state occurs).kept _ (beyond state occurs))
      · intro state occurs
        exact (rest state occurs).holds _ (beyond state occurs)
      · intro state other occurs occursOther same
        obtain ⟨first, afterLeft⟩ := runsLeft.steady state other occurs occursOther same
        obtain ⟨second, afterRight⟩ := runsRight.steady _ _ (between state occurs)
          (between other occursOther) afterLeft
        simp only [run]
        rw [← first, ← second]
        exact (rest state occurs).steady _ _ (beyond state occurs) (beyond other occursOther)
          afterRight

/-- A job that is local to some cells is local to more, and to whatever follows from its results. -/
theorem Local.mono {job : Job σ α} {post weaker : α → Prop} (isLocal : Local cells on job post)
    (contained : on ⊆ wider) (follows : ∀ result, post result → weaker result) :
    Local cells wider job weaker := by
  induction isLocal with
  | done holds => exact .done (follows _ holds)
  | step keeps steady later ih =>
      refine .step ?_ ?_ fun state occurs => ih state occurs contained follows
      · intro state occurs
        exact ⟨(keeps state occurs).1, (keeps state occurs).2.mono contained⟩
      · intro state other occurs occursOther same
        obtain ⟨next, changed⟩ := steady state other occurs occursOther
          fun cell inside => same cell (contained inside)
        exact ⟨next, sameOn_widen same (keeps state occurs).2
          (keeps other occursOther).2 changed⟩
  | both insideLeft insideRight apart localLeft localRight later _ _ ih =>
      exact .both (insideLeft.trans contained) (insideRight.trans contained) apart localLeft
        localRight fun first second holds holdsToo => ih first second holds holdsToo contained
          follows

theorem Local.bind {job : Job σ α} {next : α → Job σ β} {middle : α → Prop} {post : β → Prop}
    (isLocal : Local cells on job middle)
    (rest : ∀ result, middle result → Local cells on (next result) post) :
    Local cells on (job >>= next) post := by
  change Local cells on (job.bind next) post
  induction isLocal with
  | done holds => exact rest _ holds
  | step keeps steady later ih =>
      refine .step keeps ?_ fun state occurs => ih state occurs rest
      intro state other occurs occursOther same
      obtain ⟨equal, changed⟩ := steady state other occurs occursOther same
      exact ⟨by rw [equal], changed⟩
  | both insideLeft insideRight apart localLeft localRight later _ _ ih =>
      exact .both insideLeft insideRight apart localLeft localRight
        fun first second holds holdsToo => ih first second holds holdsToo rest

/-- What is left of a job after a step comes to the same as the job. -/
structure Continues (cells : Cells σ κ ν) (on : Set κ) (post : α → Prop) (job : Job σ α) (state : σ)
    (later : Job σ α) (after : σ) : Prop where
  isLocal : Local cells on later post
  occurs : cells.occurs after
  kept : cells.SameOff on state after
  result : (later.run after).1 = (job.run state).1
  same : cells.SameOn Set.univ (later.run after).2 (job.run state).2

theorem RunsLocally.everywhere {job : Job σ α} {post : α → Prop}
    (runs : RunsLocally cells on job post) {state other : σ} (occurs : cells.occurs state)
    (occursOther : cells.occurs other) (same : cells.SameOn Set.univ state other) :
    (job.run state).1 = (job.run other).1 ∧
      cells.SameOn Set.univ (job.run state).2 (job.run other).2 :=
  (runs.mono (Set.subset_univ on)).steady state other occurs occursOther same

/-- A step of the right job commutes with all of the left one. -/
theorem right_commutes {onLeft onRight : Set κ} {left : Job σ α} {right later : Job σ β}
    {postLeft : α → Prop} {postRight : β → Prop} {state after : σ}
    (apart : ∀ cell, cell ∈ onLeft → cell ∉ onRight)
    (runsLeft : RunsLocally cells onLeft left postLeft)
    (runsRight : RunsLocally cells onRight right postRight) (occurs : cells.occurs state)
    (continues : Continues cells onRight postRight right state later after) :
    (left.run after).1 = (left.run state).1 ∧
      (later.run (left.run after).2).1 = (right.run (left.run state).2).1 ∧
      cells.SameOn Set.univ (later.run (left.run after).2).2
        (right.run (left.run state).2).2 := by
  have runsLater := continues.isLocal.runsLocally
  have occursAfter := continues.occurs
  have keptLeft := runsLeft.kept state occurs
  have keptLeftAfter := runsLeft.kept after occursAfter
  have occursLeft := runsLeft.occurs state occurs
  have occursLeftAfter := runsLeft.occurs after occursAfter
  obtain ⟨first, sameLeft⟩ := runsLeft.steady after state occursAfter occurs
    (continues.kept.sameOn apart).symm
  have apartRight : ∀ cell, cell ∈ onRight → cell ∉ onLeft :=
    fun cell inside insideLeft => apart cell insideLeft inside
  obtain ⟨second, sameRight⟩ := runsRight.steady state _ occurs occursLeft
    (keptLeft.sameOn apartRight)
  obtain ⟨secondAfter, sameRightAfter⟩ := runsLater.steady after _ occursAfter occursLeftAfter
    (keptLeftAfter.sameOn apartRight)
  refine ⟨first, ?_, ?_⟩
  · rw [← secondAfter, ← second]
    exact continues.result
  · intro cell _
    by_cases inRight : cell ∈ onRight
    · rw [← sameRightAfter cell inRight, ← sameRight cell inRight]
      exact continues.same cell (Set.mem_univ cell)
    · rw [← runsLater.kept _ occursLeftAfter cell inRight,
        ← runsRight.kept _ occursLeft cell inRight]
      by_cases inLeft : cell ∈ onLeft
      · exact sameLeft cell inLeft
      · rw [← keptLeftAfter cell inLeft, ← keptLeft cell inLeft]
        exact (continues.kept cell inRight).symm

theorem Local.continues_of_step {job later : Job σ α} {state after : σ} {post : α → Prop}
    (isLocal : Local cells on job post) (occurs : cells.occurs state)
    (moved : Step job state later after) : Continues cells on post job state later after := by
  induction moved generalizing on with
  | act act next state =>
      cases isLocal with
      | step keeps steady rest =>
          exact ⟨rest state occurs, (keeps state occurs).1, (keeps state occurs).2, rfl,
            fun _ _ => rfl⟩
  | @left α β γ sideBySide left later right next state after moved ih =>
      cases isLocal with
      | @both _ _ _ _ onLeft onRight _ _ _ _ postLeft postRight _ insideLeft insideRight apart
          localLeft localRight rest =>
          have continues := ih localLeft occurs
          have runsLeft := localLeft.runsLocally
          have runsRight := localRight.runsLocally
          have occursLeft := runsLeft.occurs state occurs
          have occursLater := continues.isLocal.runsLocally.occurs after continues.occurs
          obtain ⟨second, same⟩ := runsRight.everywhere occursLater occursLeft continues.same
          have runsNext := (rest _ _ (runsLeft.holds state occurs)
            (runsRight.holds _ occursLeft)).runsLocally
          obtain ⟨result, sameAfter⟩ := runsNext.everywhere (runsRight.occurs _ occursLater)
            (runsRight.occurs _ occursLeft) same
          refine ⟨.both insideLeft insideRight apart continues.isLocal localRight rest,
            continues.occurs, continues.kept.mono insideLeft, ?_, ?_⟩
          · simp only [run]
            rw [continues.result, second]
            exact result
          · simp only [run]
            rw [continues.result, second]
            exact sameAfter
  | @right α β γ sideBySide left right later next state after allowed moved ih =>
      cases isLocal with
      | @both _ _ _ _ onLeft onRight _ _ _ _ postLeft postRight _ insideLeft insideRight apart
          localLeft localRight rest =>
          have continues := ih localRight occurs
          have runsLeft := localLeft.runsLocally
          have runsRight := localRight.runsLocally
          have occursLeft := runsLeft.occurs state occurs
          obtain ⟨first, second, same⟩ :=
            right_commutes apart runsLeft runsRight occurs continues
          have runsNext := (rest _ _ (runsLeft.holds state occurs)
            (runsRight.holds _ occursLeft)).runsLocally
          obtain ⟨result, sameAfter⟩ := runsNext.everywhere
            (continues.isLocal.runsLocally.occurs _ (runsLeft.occurs after continues.occurs))
            (runsRight.occurs _ occursLeft) same
          refine ⟨.both insideLeft insideRight apart localLeft continues.isLocal rest,
            continues.occurs, continues.kept.mono insideRight, ?_, ?_⟩
          · simp only [run]
            rw [first, second]
            exact result
          · simp only [run]
            rw [first, second]
            exact sameAfter
  | @join α β γ sideBySide first second next state =>
      cases isLocal with
      | both insideLeft insideRight apart localLeft localRight rest =>
          refine ⟨rest first second (localLeft.runsLocally.holds state occurs)
            (localRight.runsLocally.holds state occurs), occurs, fun _ _ => rfl, rfl,
            fun _ _ => rfl⟩

/-- Whatever the schedule of a local job, what is left of it comes to the same as the job. -/
theorem Local.continues {job later : Job σ α} {state after : σ} {post : α → Prop}
    (isLocal : Local cells on job post) (occurs : cells.occurs state)
    (steps : Steps job state later after) : Continues cells on post job state later after := by
  induction steps with
  | refl => exact ⟨isLocal, occurs, fun _ _ => rfl, rfl, fun _ _ => rfl⟩
  | tail _ moved ih =>
      have last := ih.isLocal.continues_of_step ih.occurs moved
      exact ⟨last.isLocal, last.occurs, ih.kept.trans last.kept, last.result.trans ih.result,
        last.same.trans ih.same⟩

end Job

end SpokenMarkup
