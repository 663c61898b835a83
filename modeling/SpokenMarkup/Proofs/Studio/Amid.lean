import SpokenMarkup.Proofs.Studio.Schedule

set_option autoImplicit false

namespace SpokenMarkup

namespace Job

variable {σ α β γ : Type} {rely guar : σ → σ → Prop} {pre : σ → Prop}

/-- What is left of a job after steps of its own and changes by others in any order. -/
inductive Amid (rely : σ → σ → Prop) (job : Job σ α) (state : σ) : Job σ α → σ → Prop
  | refl : Amid rely job state job state
  | own {between later : Job σ α} {middle after : σ} (earlier : Amid rely job state between middle)
    (moved : Step between middle later after) : Amid rely job state later after
  | other {between : Job σ α} {middle after : σ} (earlier : Amid rely job state between middle)
    (changed : rely middle after) : Amid rely job state between after

/-- Amid others that do no more than `rely` says, every step of the job is one of `guar`, and `post`
holds of its result from then on. -/
def Ensures (rely guar : σ → σ → Prop) (pre : σ → Prop) (job : Job σ α) (post : α → σ → Prop) :
    Prop :=
  ∀ state, pre state → ∀ later after, Amid rely job state later after →
    (∀ next beyond, Step later after next beyond → guar after beyond) ∧
      ∀ result, later = .done result → post result after

def Stable (rely : σ → σ → Prop) (holds : σ → Prop) : Prop :=
  ∀ state after, rely state after → holds state → holds after

theorem Ensures.mono {weaker stronger : σ → σ → Prop} {earlier : σ → Prop} {job : Job σ α}
    {post later : α → σ → Prop} (ensures : Ensures rely guar pre job post)
    (relies : ∀ state after, stronger state after → rely state after)
    (guarantees : ∀ state after, guar state after → weaker state after)
    (starts : ∀ state, earlier state → pre state)
    (ends : ∀ result state, post result state → later result state) :
    Ensures stronger weaker earlier job later := by
  intro state holds rest after amid
  have wider : Amid rely job state rest after := by
    induction amid with
    | refl => exact .refl
    | own _ moved ih => exact .own ih moved
    | other _ changed ih => exact .other ih (relies _ _ changed)
  obtain ⟨steps, results⟩ := ensures state (starts state holds) rest after wider
  exact ⟨fun next beyond moved => guarantees _ _ (steps next beyond moved),
    fun result equal => ends _ _ (results result equal)⟩

theorem Amid.trans {job between later : Job σ α} {state middle after : σ}
    (early : Amid rely job state between middle) (late : Amid rely between middle later after) :
    Amid rely job state later after := by
  induction late with
  | refl => exact early
  | own _ moved ih => exact .own ih moved
  | other _ changed ih => exact .other ih changed

theorem amid_left {left later : Job σ α} {state after : σ} (sideBySide : Bool) (right : Job σ β)
    (next : α → β → Job σ γ) (amid : Amid rely left state later after) :
    Amid rely (.both sideBySide left right next) state (.both sideBySide later right next)
      after := by
  induction amid with
  | refl => exact .refl
  | own _ moved ih => exact .own ih (.left moved)
  | other _ changed ih => exact .other ih changed

theorem amid_right {right later : Job σ β} {state after : σ} (sideBySide : Bool) (first : α)
    (next : α → β → Job σ γ) (amid : Amid rely right state later after) :
    Amid rely (.both sideBySide (.done first) right next) state
      (.both sideBySide (.done first) later next) after := by
  induction amid with
  | refl => exact .refl
  | own _ moved ih => exact .own ih (.right (Or.inr ⟨first, rfl⟩) moved)
  | other _ changed ih => exact .other ih changed

theorem amid_run (job : Job σ α) (state : σ) :
    Amid rely job state (.done (job.run state).1) (job.run state).2 := by
  induction job generalizing state with
  | done result => exact .refl
  | step act next ih => exact Amid.trans (.own .refl (.act act next state)) (ih _ _)
  | both sideBySide left right next ihLeft ihRight ih =>
      refine Amid.trans (amid_left sideBySide right next (ihLeft state)) ?_
      refine Amid.trans (amid_right sideBySide _ next (ihRight _)) ?_
      exact Amid.trans (.own .refl (.join sideBySide _ _ next _)) (ih _ _ _)

/-- What a job ensures amid others holds when it is alone. -/
theorem Ensures.run {job : Job σ α} {post : α → σ → Prop}
    (ensures : Ensures rely guar pre job post) (state : σ) (start : pre state) :
    post (job.run state).1 (job.run state).2 :=
  (ensures state start _ _ (amid_run job state)).2 _ rfl

theorem ensures_done {post : α → σ → Prop} (result : α) (holds : ∀ state, pre state → post result state)
    (stable : Stable rely (post result)) : Ensures rely guar pre (.done result) post := by
  intro state start later after amid
  have stays : later = .done result ∧ post result after := by
    induction amid with
    | refl => exact ⟨rfl, holds state start⟩
    | own _ moved ih =>
        rw [ih.1] at moved
        cases moved
    | other _ changed ih => exact ⟨ih.1, stable _ _ changed ih.2⟩
  obtain ⟨rfl, ends⟩ := stays
  refine ⟨?_, ?_⟩
  · intro next beyond moved
    cases moved
  · intro other equal
    cases equal
    exact ends

theorem amid_step {act : σ → β × σ} {next : β → Job σ α} {state after : σ} {later : Job σ α}
    (stable : Stable rely pre) (start : pre state)
    (amid : Amid rely (.step act next) state later after) :
    (later = .step act next ∧ pre after) ∨
      ∃ middle, pre middle ∧ Amid rely (next (act middle).1) (act middle).2 later after := by
  induction amid with
  | refl => exact Or.inl ⟨rfl, start⟩
  | own _ moved ih =>
      rcases ih with ⟨rfl, holds⟩ | ⟨middle, holds, earlier⟩
      · cases moved
        exact Or.inr ⟨_, holds, .refl⟩
      · exact Or.inr ⟨middle, holds, .own earlier moved⟩
  | other _ changed ih =>
      rcases ih with ⟨rfl, holds⟩ | ⟨middle, holds, earlier⟩
      · exact Or.inl ⟨rfl, stable _ _ changed holds⟩
      · exact Or.inr ⟨middle, holds, .other earlier changed⟩

theorem ensures_step {act : σ → β × σ} {next : β → Job σ α} {post : α → σ → Prop}
    (between : β → σ → Prop) (stable : Stable rely pre)
    (acts : ∀ state, pre state →
      guar state (act state).2 ∧ between (act state).1 (act state).2)
    (follows : ∀ value, Ensures rely guar (between value) (next value) post) :
    Ensures rely guar pre (.step act next) post := by
  intro state start later after amid
  rcases amid_step stable start amid with ⟨rfl, holds⟩ | ⟨middle, holds, earlier⟩
  · refine ⟨?_, nofun⟩
    intro next beyond moved
    cases moved
    exact (acts after holds).1
  · exact follows _ _ (acts middle holds).2 later after earlier

/-- A step of a job with another one behind it is a step of the first one, or of the second one if
the first one is done. -/
theorem step_bind {job later : Job σ β} {rest : Job σ α} {next : α → Job σ β} {state after : σ}
    (same : job = rest.bind next) (moved : Step job state later after) :
    (∃ further, Step rest state further after ∧ later = further.bind next) ∨
      ∃ result, rest = .done result ∧ Step (next result) state later after := by
  cases rest with
  | done result =>
      rw [same] at moved
      exact Or.inr ⟨result, rfl, moved⟩
  | step act follow =>
      cases moved with
      | act act' next' => cases same; exact Or.inl ⟨_, .act act follow state, rfl⟩
      | left | right | join => cases same
  | both sideBySide left right follow =>
      apply Or.inl
      cases moved with
      | act => cases same
      | left moved => cases same; exact ⟨_, .left moved, rfl⟩
      | right allowed moved => cases same; exact ⟨_, .right allowed moved, rfl⟩
      | join _ first second => cases same; exact ⟨_, .join _ first second follow _, rfl⟩

theorem amid_bind {job : Job σ α} {next : α → Job σ β} {state after : σ} {later : Job σ β}
    (amid : Amid rely (job.bind next) state later after) :
    (∃ rest, later = rest.bind next ∧ Amid rely job state rest after) ∨
      ∃ result middle, Amid rely job state (.done result) middle ∧
        Amid rely (next result) middle later after := by
  induction amid with
  | refl => exact Or.inl ⟨job, rfl, .refl⟩
  | own _ moved ih =>
      rcases ih with ⟨rest, same, earlier⟩ | ⟨result, middle, ended, earlier⟩
      · rcases step_bind same moved with ⟨further, step, equal⟩ | ⟨result, rfl, step⟩
        · exact Or.inl ⟨further, equal, .own earlier step⟩
        · exact Or.inr ⟨result, _, earlier, .own .refl step⟩
      · exact Or.inr ⟨result, middle, ended, .own earlier moved⟩
  | other _ changed ih =>
      rcases ih with ⟨rest, same, earlier⟩ | ⟨result, middle, ended, earlier⟩
      · exact Or.inl ⟨rest, same, .other earlier changed⟩
      · exact Or.inr ⟨result, middle, ended, .other earlier changed⟩

theorem ensures_bind {job : Job σ α} {next : α → Job σ β} {post : β → σ → Prop}
    (between : α → σ → Prop) (first : Ensures rely guar pre job between)
    (follows : ∀ result, Ensures rely guar (between result) (next result) post) :
    Ensures rely guar pre (job >>= next) post := by
  intro state start later after amid
  change Amid rely (job.bind next) state later after at amid
  rcases amid_bind amid with ⟨rest, same, earlier⟩ | ⟨result, middle, ended, earlier⟩
  · obtain ⟨steps, results⟩ := first state start rest after earlier
    refine ⟨?_, ?_⟩
    · intro further beyond moved
      rcases step_bind same moved with ⟨_, step, -⟩ | ⟨result, equal, step⟩
      · exact steps _ _ step
      · exact (follows result after (results result equal) _ after .refl).1 _ _ step
    · intro value equal
      -- only a job that is done itself is done with another one behind it
      cases rest with
      | done result =>
          have ends := follows result after (results result rfl) _ after .refl
          exact ends.2 value (same.symm.trans equal)
      | step act follow => cases same.symm.trans equal
      | both sideBySide left right follow => cases same.symm.trans equal
  · have holds := (first state start _ middle ended).2 result rfl
    exact follows result middle holds later after earlier

variable {relyLeft relyRight guarLeft guarRight : σ → σ → Prop} {left : Job σ α} {right : Job σ β}
  {preLeft preRight : σ → Prop} {postLeft : α → σ → Prop} {postRight : β → σ → Prop}

/-- Two jobs, each amid the other and the others, or what follows them. -/
theorem amid_both {sideBySide : Bool} {next : α → β → Job σ γ} {state after : σ}
    {later : Job σ γ}
    (relies : ∀ state after, rely state after → relyLeft state after ∧ relyRight state after)
    (bears : ∀ state after, guarRight state after → relyLeft state after)
    (borne : ∀ state after, guarLeft state after → relyRight state after)
    (first : Ensures relyLeft guarLeft preLeft left postLeft)
    (second : Ensures relyRight guarRight preRight right postRight)
    (startLeft : preLeft state) (startRight : preRight state)
    (amid : Amid rely (.both sideBySide left right next) state later after) :
    (∃ restLeft restRight, later = .both sideBySide restLeft restRight next ∧
        Amid relyLeft left state restLeft after ∧ Amid relyRight right state restRight after) ∨
      ∃ one two middle, (postLeft one middle ∧ postRight two middle) ∧
        Amid rely (next one two) middle later after := by
  induction amid with
  | refl => exact Or.inl ⟨left, right, rfl, .refl, .refl⟩
  | own _ moved ih =>
      rcases ih with ⟨restLeft, restRight, rfl, ofLeft, ofRight⟩ | ⟨one, two, middle, ended, rest⟩
      · cases moved with
        | left moved =>
            have own := (first _ startLeft _ _ ofLeft).1 _ _ moved
            exact Or.inl ⟨_, _, rfl, .own ofLeft moved, .other ofRight (borne _ _ own)⟩
        | right allowed moved =>
            have own := (second _ startRight _ _ ofRight).1 _ _ moved
            exact Or.inl ⟨_, _, rfl, .other ofLeft (bears _ _ own), .own ofRight moved⟩
        | join _ one two =>
            have endLeft := (first _ startLeft _ _ ofLeft).2 one rfl
            have endRight := (second _ startRight _ _ ofRight).2 two rfl
            exact Or.inr ⟨one, two, _, ⟨endLeft, endRight⟩, .refl⟩
      · exact Or.inr ⟨one, two, middle, ended, .own rest moved⟩
  | other _ changed ih =>
      rcases ih with ⟨restLeft, restRight, rfl, ofLeft, ofRight⟩ | ⟨one, two, middle, ended, rest⟩
      · obtain ⟨byLeft, byRight⟩ := relies _ _ changed
        exact Or.inl ⟨restLeft, restRight, rfl, .other ofLeft byLeft, .other ofRight byRight⟩
      · exact Or.inr ⟨one, two, middle, ended, .other rest changed⟩

theorem ensures_both {sideBySide : Bool} {next : α → β → Job σ γ} {post : γ → σ → Prop}
    (idle : ∀ state, guar state state)
    (relies : ∀ state after, rely state after → relyLeft state after ∧ relyRight state after)
    (guarantees : ∀ state after, guarLeft state after ∨ guarRight state after → guar state after)
    (bears : ∀ state after, guarRight state after → relyLeft state after)
    (borne : ∀ state after, guarLeft state after → relyRight state after)
    (starts : ∀ state, pre state → preLeft state ∧ preRight state)
    (first : Ensures relyLeft guarLeft preLeft left postLeft)
    (second : Ensures relyRight guarRight preRight right postRight)
    (follows : ∀ one two, Ensures rely guar (fun state => postLeft one state ∧ postRight two state)
      (next one two) post) :
    Ensures rely guar pre (.both sideBySide left right next) post := by
  intro state start later after amid
  obtain ⟨startLeft, startRight⟩ := starts state start
  rcases amid_both relies bears borne first second startLeft startRight amid with
    ⟨restLeft, restRight, rfl, ofLeft, ofRight⟩ | ⟨one, two, middle, ended, rest⟩
  · refine ⟨?_, nofun⟩
    intro further beyond moved
    cases moved with
    | left moved => exact guarantees _ _ (Or.inl ((first _ startLeft _ _ ofLeft).1 _ _ moved))
    | right allowed moved =>
        exact guarantees _ _ (Or.inr ((second _ startRight _ _ ofRight).1 _ _ moved))
    | join => exact idle _
  · exact follows one two middle ended later after rest

end Job

namespace StudioJob

variable {V α β : Type} {rely guar : Studio V → Studio V → Prop} {pre : Studio V → Prop}

/-- What holds of the value of a job that may fail, and what holds if it failed. -/
def Ends (post : α → Studio V → Prop) (failed : Studio V → Prop) :
    Except Fault α → Studio V → Prop
  | .ok value, studio => post value studio
  | .error _, studio => failed studio

/-- Amid others that do no more than `rely` says, a job that may fail keeps the guarantee and ends
with a value of which `post` holds, or else `failed` holds. -/
def Ensures (rely guar : Studio V → Studio V → Prop) (pre : Studio V → Prop)
    (job : StudioJob V α) (post : α → Studio V → Prop) (failed : Studio V → Prop) : Prop :=
  Job.Ensures rely guar pre (ExceptT.run job) (Ends post failed)

theorem stable_ends {post : α → Studio V → Prop} {failed : Studio V → Prop}
    (stable : ∀ value, Job.Stable rely (post value)) (stableFailed : Job.Stable rely failed)
    (result : Except Fault α) : Job.Stable rely (Ends post failed result) := by
  cases result with
  | ok value => exact stable value
  | error fault => exact stableFailed

theorem ensures_pure {post : α → Studio V → Prop} {failed : Studio V → Prop} (value : α)
    (holds : ∀ studio, pre studio → post value studio) (stable : Job.Stable rely (post value)) :
    Ensures rely guar pre (pure value : StudioJob V α) post failed :=
  Job.ensures_done _ holds stable

theorem ensures_throw {post : α → Studio V → Prop} {failed : Studio V → Prop} (fault : Fault)
    (holds : ∀ studio, pre studio → failed studio) (stable : Job.Stable rely failed) :
    Ensures rely guar pre (throw fault : StudioJob V α) post failed :=
  Job.ensures_done _ holds stable

theorem ensures_bind {job : StudioJob V α} {next : α → StudioJob V β}
    {post : β → Studio V → Prop} {failed : Studio V → Prop} (between : α → Studio V → Prop)
    (stable : Job.Stable rely failed) (first : Ensures rely guar pre job between failed)
    (follows : ∀ value, Ensures rely guar (between value) (next value) post failed) :
    Ensures rely guar pre (job >>= next) post failed := by
  refine Job.ensures_bind (Ends between failed) first ?_
  intro result
  cases result with
  | ok value => exact follows value
  | error fault => exact Job.ensures_done _ (fun _ holds => holds) stable

theorem ensures_attempt {task : StudioTask V α} {post : α → Studio V → Prop}
    {failed : Studio V → Prop} (start : Job.Stable rely pre)
    (stable : ∀ value, Job.Stable rely (post value)) (stableFailed : Job.Stable rely failed)
    (acts : ∀ studio, pre studio →
      guar studio (task studio).2 ∧ Ends post failed (task studio).1 (task studio).2) :
    Ensures rely guar pre (Equipment.attempt task) post failed :=
  Job.ensures_step (Ends post failed) start acts fun result =>
    Job.ensures_done result (fun _ holds => holds) (stable_ends stable stableFailed result)

theorem ensures_modify {change : Studio V → Studio V} {post failed : Studio V → Prop}
    (start : Job.Stable rely pre) (stable : Job.Stable rely post)
    (acts : ∀ studio, pre studio → guar studio (change studio) ∧ post (change studio)) :
    Ensures rely guar pre (modify change : StudioJob V PUnit) (fun _ => post) failed :=
  Job.ensures_step (fun _ => post) start acts fun _ =>
    Job.ensures_done _ (fun _ holds => holds) stable

theorem ensures_get {post : Studio V → Studio V → Prop} {failed : Studio V → Prop}
    (start : Job.Stable rely pre) (stable : ∀ seen, Job.Stable rely (post seen))
    (acts : ∀ studio, pre studio → guar studio studio ∧ post studio studio) :
    Ensures rely guar pre (get : StudioJob V (Studio V)) post failed :=
  Job.ensures_step post start acts fun seen =>
    Job.ensures_done _ (fun _ holds => holds) (stable seen)

end StudioJob

namespace Job

variable {σ α β : Type}

theorem steps_iff_amid {job later : Job σ α} {state after : σ} :
    Steps job state later after ↔ Amid (fun _ _ => False) job state later after := by
  constructor
  · intro steps
    induction steps with
    | refl => exact .refl
    | tail _ moved ih => exact .own ih moved
  · intro amid
    induction amid with
    | refl => exact .refl
    | own _ moved ih => exact .tail ih moved
    | other _ impossible _ => exact impossible.elim

theorem steps_bind {job : Job σ α} {next : α → Job σ β} {state after : σ} {result : β}
    (steps : Steps (job >>= next) state (.done result) after) :
    ∃ value middle, Steps job state (.done value) middle ∧
      Steps (next value) middle (.done result) after := by
  rw [steps_iff_amid] at steps
  change Amid _ (job.bind next) _ _ _ at steps
  rcases amid_bind steps with ⟨rest, same, earlier⟩ | ⟨value, middle, ended, later⟩
  · -- only a job that is done itself is done with another one behind it
    cases rest with
    | done value =>
        refine ⟨value, after, steps_iff_amid.mpr earlier, ?_⟩
        rw [show next value = .done result from same.symm]
        exact .refl
    | step act follow => cases same
    | both sideBySide left right follow => cases same
  · exact ⟨value, middle, steps_iff_amid.mpr ended, steps_iff_amid.mpr later⟩

/-- A job without any other one beside it. -/
inductive IsStraight : {α : Type} → Job σ α → Prop
  | done {α : Type} (result : α) : IsStraight (.done result)
  | step {α β : Type} (act : σ → β × σ) {next : β → Job σ α}
    (later : ∀ value, IsStraight (next value)) : IsStraight (.step act next)

theorem IsStraight.bind {job : Job σ α} {next : α → Job σ β} (straight : IsStraight job)
    (rest : ∀ value, IsStraight (next value)) : IsStraight (job >>= next) := by
  change IsStraight (job.bind next)
  induction straight with
  | done result => exact rest result
  | step act later ih => exact .step act fun value => ih value

/-- There is one schedule of a straight job. -/
theorem run_of_steps {job : Job σ α} {state after : σ} {result : α} (straight : IsStraight job)
    (steps : Steps job state (.done result) after) : job.run state = (result, after) := by
  have along : ∀ (later : Job σ α) (middle : σ), Steps job state later middle →
      IsStraight later ∧ later.run middle = job.run state := by
    intro later middle steps
    induction steps with
    | refl => exact ⟨straight, rfl⟩
    | tail _ moved ih =>
        obtain ⟨rest, same⟩ := ih
        cases moved with
        | act act next state =>
            cases rest with
            | step _ later => exact ⟨later _, same⟩
        | left | right | join => cases rest
  exact (along _ _ steps).2.symm

theorem steps_step {act : σ → β × σ} {next : β → Job σ α} {state after : σ} {result : α}
    (steps : Steps (.step act next) state (.done result) after) :
    Steps (next (act state).1) (act state).2 (.done result) after := by
  change Steps (.step act .done >>= next) state (.done result) after at steps
  obtain ⟨value, middle, early, late⟩ := steps_bind steps
  obtain ⟨rfl, rfl⟩ := Prod.mk.inj (run_of_steps (.step act fun _ => .done _) early)
  exact late

theorem done_of_steps {result other : α} {state after : σ}
    (steps : Steps (.done result) state (.done other) after) : result = other ∧ state = after :=
  Prod.mk.inj (run_of_steps (.done result) steps)

end Job

end SpokenMarkup
