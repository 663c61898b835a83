import Mathlib.Order.BooleanAlgebra.Set
import SpokenMarkup.Proofs.Studio.Amid

set_option autoImplicit false

namespace SpokenMarkup

namespace Job

section Lockstep

variable {σ κ α β : Type} {happened : σ → σ → Prop} {twins : Set κ → Set κ → σ → σ → Prop}

/-- The steps of a job on its schedules from one state to one end. -/
def Occurs (job : Job σ α) (start : σ) (result : α) (ending before after : σ) : Prop :=
  ∃ earlier later, Steps job start earlier before ∧ Step earlier before later after ∧
    Steps later after (.done result) ending

/--
The job takes the same steps from two states that are twins: they differ at the places that are lost
on them at most, and some of these places are free to be written. The job counts on places that are
not lost (`sure`) and on places that are free for it alone (`own`). An act may use some of its own
places and win back some of those, and there may be something learned from its value. The results of
the job satisfy `post`, and then the places in `gains` are not lost. Only what `happened` need be
thought of.
-/
inductive Lockstep (happened : σ → σ → Prop) (twins : Set κ → Set κ → σ → σ → Prop) :
    {α : Type} → Set κ → Set κ → Job σ α → (α → Prop) → (α → Set κ) → Prop
  | done {α : Type} {sure own : Set κ} {result : α} {post : α → Prop} {gains : α → Set κ}
    (holds : post result) (gained : gains result ⊆ sure) :
    Lockstep happened twins sure own (.done result) post gains
  | step {α β : Type} {sure own : Set κ} {act : σ → β × σ} {next : β → Job σ α} {post : α → Prop}
    {gains : α → Set κ} (learned : β → Prop) (won used : β → Set κ)
    (written : ∀ value, won value ⊆ used value) (owned : ∀ value, used value ⊆ own)
    (moves : ∀ lost free first second, (∀ place ∈ sure, place ∉ lost) → own ⊆ free →
      happened first (act first).2 → twins lost free first second →
        learned (act first).1 ∧ next (act first).1 = next (act second).1 ∧
        twins (lost \ won (act first).1) (free \ used (act first).1) (act first).2 (act second).2)
    (later : ∀ value, learned value →
      Lockstep happened twins (sure ∪ won value) (own \ used value) (next value) post gains) :
    Lockstep happened twins sure own (.step act next) post gains
  | both {α β γ : Type} {sure own ownLeft ownRight ownNext : Set κ} {sideBySide : Bool}
    {left : Job σ α} {right : Job σ β} {next : α → β → Job σ γ} {postLeft : α → Prop}
    {postRight : β → Prop} {post : γ → Prop} {gainsLeft : α → Set κ} {gainsRight : β → Set κ}
    {gains : γ → Set κ} (insideLeft : ownLeft ⊆ own) (insideRight : ownRight ⊆ own)
    (insideNext : ownNext ⊆ own) (apart : ∀ place ∈ ownLeft, place ∉ ownRight)
    (apartLeft : ∀ place ∈ ownNext, place ∉ ownLeft)
    (apartRight : ∀ place ∈ ownNext, place ∉ ownRight)
    (lockedLeft : Lockstep happened twins sure ownLeft left postLeft gainsLeft)
    (lockedRight : Lockstep happened twins sure ownRight right postRight gainsRight)
    (later : ∀ first second, postLeft first → postRight second →
      Lockstep happened twins (sure ∪ (gainsLeft first ∪ gainsRight second)) ownNext
        (next first second) post gains) :
    Lockstep happened twins sure own (.both sideBySide left right next) post gains

variable {sure own surer more lost free : Set κ}

/-- A job that counts on less may be given more. -/
theorem Lockstep.mono {job : Job σ α} {post weaker : α → Prop} {gains fewer : α → Set κ}
    (locked : Lockstep happened twins sure own job post gains) (certain : sure ⊆ surer)
    (contained : own ⊆ more) (follows : ∀ result, post result → weaker result)
    (within : ∀ result, post result → fewer result ⊆ gains result) :
    Lockstep happened twins surer more job weaker fewer := by
  induction locked generalizing surer more with
  | done holds gained =>
      exact .done (follows _ holds) ((within _ holds).trans (gained.trans certain))
  | step learned won used written owned moves later ih =>
      refine .step learned won used written (fun value => (owned value).trans contained) ?_ ?_
      · intro lost free first second apart inside occurred twin
        exact moves lost free first second (fun place known => apart place (certain known))
          (contained.trans inside) occurred twin
      · intro value known
        exact ih value known (Set.union_subset_union_left _ certain)
          (Set.sdiff_subset_sdiff_left contained) follows within
  | both insideLeft insideRight insideNext apart apartLeft apartRight _ _ _ ihLeft ihRight ih =>
      refine .both (insideLeft.trans contained) (insideRight.trans contained)
        (insideNext.trans contained) apart apartLeft apartRight
        (ihLeft certain (subset_refl _) (fun _ holds => holds) fun _ _ => subset_refl _)
        (ihRight certain (subset_refl _) (fun _ holds => holds) fun _ _ => subset_refl _) ?_
      intro first second holds holdsToo
      exact ih first second holds holdsToo (Set.union_subset_union_left _ certain) (subset_refl _)
        follows within

theorem Lockstep.widen {job : Job σ α} {post : α → Prop} {gains : α → Set κ}
    (locked : Lockstep happened twins sure own job post gains) (certain : sure ⊆ surer)
    (contained : own ⊆ more) : Lockstep happened twins surer more job post gains :=
  locked.mono certain contained (fun _ holds => holds) fun _ _ => subset_refl _

theorem Lockstep.besides {job : Job σ α} {post : α → Prop} {gains : α → Set κ} {gained : Set κ}
    (locked : Lockstep happened twins (sure ∪ gained) own job post gains) :
    Lockstep happened twins ((sure ∪ more) ∪ gained) own job post gains :=
  locked.widen (Set.union_subset_union_left _ Set.subset_union_left) (subset_refl _)

theorem Lockstep.bind {job : Job σ α} {next : α → Job σ β} {middle : α → Prop} {post : β → Prop}
    {gained : α → Set κ} {gains : β → Set κ} {whole : Set κ}
    (locked : Lockstep happened twins sure own job middle gained)
    (rest : ∀ result, middle result →
      Lockstep happened twins (sure ∪ gained result) more (next result) post gains)
    (apart : ∀ place ∈ more, place ∉ own) (inside : own ⊆ whole) (insideMore : more ⊆ whole) :
    Lockstep happened twins sure whole (job >>= next) post gains := by
  change Lockstep happened twins sure whole (job.bind next) post gains
  induction locked generalizing whole with
  | done holds known =>
      exact (rest _ holds).widen (Set.union_subset (subset_refl _) known) insideMore
  | step learned won used written owned moves later ih =>
      refine .step learned won used written (fun value => (owned value).trans inside) ?_ ?_
      · intro lost free first second known allowed occurred twin
        obtain ⟨knows, same, after⟩ :=
          moves lost free first second known (inside.trans allowed) occurred twin
        exact ⟨knows, by rw [same], after⟩
      · intro value knows
        refine ih value knows ?_ ?_ (Set.sdiff_subset_sdiff_left inside) ?_
        · intro result holds
          exact (rest result holds).besides
        · exact fun place reserved owns => apart place reserved owns.1
        · exact fun place reserved =>
            ⟨insideMore reserved, fun spent => apart place reserved (owned value spent)⟩
  | @both α β γ sure own ownLeft ownRight ownNext _ _ _ _ _ _ _ _ _ _ insideLeft insideRight
      insideNext apartBoth apartLeft apartRight lockedLeft lockedRight _ _ _ ih =>
      have beyond : ∀ place ∈ more, place ∉ ownNext :=
        fun place reserved owns => apart place reserved (insideNext owns)
      refine .both (insideLeft.trans inside) (insideRight.trans inside)
        (Set.union_subset (insideNext.trans inside) insideMore) apartBoth ?_ ?_ lockedLeft
        lockedRight ?_
      · rintro place (next | reserved) owns
        · exact apartLeft place next owns
        · exact apart place reserved (insideLeft owns)
      · rintro place (next | reserved) owns
        · exact apartRight place next owns
        · exact apart place reserved (insideRight owns)
      · intro first second holds holdsToo
        refine ih first second holds holdsToo ?_ beyond Set.subset_union_left
          Set.subset_union_right
        intro result known
        exact (rest result known).besides

theorem Lockstep.result {result : α} {post : α → Prop} {gains : α → Set κ}
    (locked : Lockstep happened twins sure own (.done result) post gains) :
    post result ∧ gains result ⊆ sure := by
  cases locked with
  | done holds gained => exact ⟨holds, gained⟩

/-- A step that is taken from one of two twins can be taken from the other. -/
theorem Lockstep.of_step {job later : Job σ α} {post : α → Prop} {gains : α → Set κ}
    {first second after : σ} (locked : Lockstep happened twins sure own job post gains)
    (moved : Step job first later after) (occurred : happened first after)
    (known : ∀ place ∈ sure, place ∉ lost) (allowed : own ⊆ free)
    (twin : twins lost free first second) :
    ∃ won used other, won ⊆ used ∧ used ⊆ own ∧ Step job second later other ∧
      twins (lost \ won) (free \ used) after other ∧
      Lockstep happened twins (sure ∪ won) (own \ used) later post gains := by
  induction moved generalizing sure own with
  | act act next state =>
      cases locked with
      | step learned won used written owned moves later =>
          obtain ⟨knows, same, twinAfter⟩ := moves lost free state second known allowed occurred twin
          refine ⟨_, _, (act second).2, written _, owned _, ?_, twinAfter, later _ knows⟩
          rw [same]
          exact .act act next second
  | left moved ih =>
      cases locked with
      | both insideLeft insideRight insideNext apart apartLeft apartRight lockedLeft lockedRight
          later =>
          obtain ⟨won, used, other, written, owned, follows, twinAfter, rest⟩ :=
            ih lockedLeft occurred known (insideLeft.trans allowed) twin
          refine ⟨won, used, other, written, owned.trans insideLeft, .left follows, twinAfter, ?_⟩
          refine .both (Set.sdiff_subset_sdiff_left insideLeft) ?_ ?_
            (fun place inside => apart place inside.1)
            (fun place inside owns => apartLeft place inside owns.1) apartRight rest
            (lockedRight.widen Set.subset_union_left (subset_refl _)) ?_
          · exact fun place inside =>
              ⟨insideRight inside, fun spent => apart place (owned spent) inside⟩
          · exact fun place inside =>
              ⟨insideNext inside, fun spent => apartLeft place inside (owned spent)⟩
          · intro first second holds holdsToo
            exact (later first second holds holdsToo).besides
  | right waits moved ih =>
      cases locked with
      | both insideLeft insideRight insideNext apart apartLeft apartRight lockedLeft lockedRight
          later =>
          obtain ⟨won, used, other, written, owned, follows, twinAfter, rest⟩ :=
            ih lockedRight occurred known (insideRight.trans allowed) twin
          refine ⟨won, used, other, written, owned.trans insideRight, .right waits follows,
            twinAfter, ?_⟩
          refine .both ?_ (Set.sdiff_subset_sdiff_left insideRight) ?_
            (fun place inside owns => apart place inside owns.1) apartLeft
            (fun place inside owns => apartRight place inside owns.1)
            (lockedLeft.widen Set.subset_union_left (subset_refl _)) rest ?_
          · exact fun place inside =>
              ⟨insideLeft inside, fun spent => apart place inside (owned spent)⟩
          · exact fun place inside =>
              ⟨insideNext inside, fun spent => apartRight place inside (owned spent)⟩
          · intro first second holds holdsToo
            exact (later first second holds holdsToo).besides
  | join sideBySide one two next state =>
      cases locked with
      | both insideLeft insideRight insideNext apart apartLeft apartRight lockedLeft lockedRight
          later =>
          obtain ⟨holds, gainedLeft⟩ := lockedLeft.result
          obtain ⟨holdsToo, gainedRight⟩ := lockedRight.result
          refine ⟨∅, ∅, second, subset_refl _, Set.empty_subset _,
            .join sideBySide one two next second, ?_, ?_⟩
          · rw [Set.sdiff_empty, Set.sdiff_empty]
            exact twin
          · rw [Set.union_empty, Set.sdiff_empty]
            exact (later one two holds holdsToo).widen
              (Set.union_subset (subset_refl _) (Set.union_subset gainedLeft gainedRight))
              insideNext

/-- Every schedule of a job in lockstep is one from the other twin, too; free places that are not
the job's own stay free. -/
theorem Lockstep.steps {job : Job σ α} {post : α → Prop} {gains : α → Set κ} {first second after : σ}
    {result : α} (locked : Lockstep happened twins sure own job post gains)
    (steps : Steps job first (.done result) after)
    (occurs : ∀ one two, Occurs job first result after one two → happened one two)
    (known : ∀ place ∈ sure, place ∉ lost) (allowed : own ⊆ free)
    (twin : twins lost free first second) :
    ∃ lostAfter freeAfter other, Steps job second (.done result) other ∧
      twins lostAfter freeAfter after other ∧ post result ∧
      (∀ place ∈ gains result, place ∉ lostAfter) ∧ lostAfter ⊆ lost ∧ free \ own ⊆ freeAfter := by
  have along : ∀ (later : Job σ α) (middle : σ), Steps job first later middle →
      Steps later middle (.done result) after →
      ∃ sureAfter ownAfter lostAfter freeAfter other, Steps job second later other ∧
        twins lostAfter freeAfter middle other ∧
        Lockstep happened twins sureAfter ownAfter later post gains ∧
        (∀ place ∈ sureAfter, place ∉ lostAfter) ∧ ownAfter ⊆ freeAfter ∧ ownAfter ⊆ own ∧
        lostAfter ⊆ lost ∧ free \ own ⊆ freeAfter := by
    intro later middle steps rest
    induction steps with
    | refl => exact ⟨sure, own, lost, free, second, .refl, twin, locked, known, allowed,
        subset_refl _, subset_refl _, Set.sdiff_subset⟩
    | tail earlier moved ih =>
        obtain ⟨sureNow, ownNow, lostNow, freeNow, otherNow, follows, twinNow, lockedNow, knownNow,
          allowedNow, within, fewer, spared⟩ := ih (rest.head moved)
        obtain ⟨won, used, other, -, owned, last, twinAfter, locked⟩ :=
          lockedNow.of_step moved (occurs _ _ ⟨_, _, earlier, moved, rest⟩) knownNow allowedNow
            twinNow
        refine ⟨_, _, _, _, other, .tail follows last, twinAfter, locked, ?_,
          Set.sdiff_subset_sdiff_left allowedNow, Set.sdiff_subset.trans within,
          Set.sdiff_subset.trans fewer, ?_⟩
        · rintro place (before | gained) ⟨still, notGained⟩
          · exact knownNow place before still
          · exact notGained gained
        · exact fun place inside => ⟨spared inside, fun spent => inside.2 (within (owned spent))⟩
  obtain ⟨sureAfter, ownAfter, lostAfter, freeAfter, other, follows, twinAfter, ended, knownAfter,
    -, -, fewer, spared⟩ := along _ _ steps .refl
  obtain ⟨holds, gained⟩ := ended.result
  exact ⟨lostAfter, freeAfter, other, follows, twinAfter, holds,
    fun place inside => knownAfter place (gained inside), fewer, spared⟩

end Lockstep

section Carries

variable {σ κ α β : Type}

/-- Every schedule of the job from a state is one from each state that is like it, with the same
result, and the states that they lead to are alike again. -/
def Carries (pre : σ → σ → Prop) (job : Job σ α) (post : α → σ → σ → Prop) : Prop :=
  ∀ first second, pre first second → ∀ result after, Steps job first (.done result) after →
    ∃ other, Steps job second (.done result) other ∧ post result after other

variable {pre : σ → σ → Prop}

theorem carries_done {result : α} {post : α → σ → σ → Prop}
    (follows : ∀ first second, pre first second → post result first second) :
    Carries pre (.done result) post := by
  intro first second alike other after steps
  obtain ⟨rfl, rfl⟩ := done_of_steps steps
  exact ⟨second, .refl, follows first second alike⟩

theorem Carries.mono {job : Job σ α} {stronger : σ → σ → Prop} {post weaker : α → σ → σ → Prop}
    (carries : Carries pre job post) (given : ∀ first second, stronger first second → pre first second)
    (follows : ∀ result first second, post result first second → weaker result first second) :
    Carries stronger job weaker := by
  intro first second alike result after steps
  obtain ⟨other, stepsToo, holds⟩ := carries first second (given _ _ alike) result after steps
  exact ⟨other, stepsToo, follows _ _ _ holds⟩

theorem Carries.bind {job : Job σ α} {next : α → Job σ β} {middle : α → σ → σ → Prop}
    {post : β → σ → σ → Prop} (carries : Carries pre job middle)
    (rest : ∀ value, Carries (middle value) (next value) post) :
    Carries pre (job >>= next) post := by
  intro first second alike result after steps
  obtain ⟨value, between, early, late⟩ := steps_bind steps
  obtain ⟨other, earlyToo, still⟩ := carries first second alike value between early
  obtain ⟨otherAfter, lateToo, holds⟩ := rest value between other still result after late
  exact ⟨otherAfter, earlyToo.bind lateToo, holds⟩

theorem carries_step {act : σ → β × σ} {next : β → Job σ α} {middle : β → σ → σ → Prop}
    {post : α → σ → σ → Prop}
    (moves : ∀ first second, pre first second →
      (act first).1 = (act second).1 ∧ middle (act first).1 (act first).2 (act second).2)
    (rest : ∀ value, Carries (middle value) (next value) post) :
    Carries pre (.step act next) post := by
  have atomic : Carries pre (.step act .done) middle := by
    intro first second alike result after steps
    obtain ⟨same, still⟩ := moves first second alike
    obtain ⟨rfl, rfl⟩ := Prod.mk.inj (run_of_steps (.step act fun _ => .done _) steps)
    refine ⟨(act second).2, ?_, still⟩
    change Steps _ second (.done (act first).1) _
    rw [same]
    exact .tail .refl (.act act .done second)
  exact atomic.bind rest

end Carries

end Job

section Locked

variable {V κ α β : Type} {happened : Studio V → Studio V → Prop}
  {twins : Set κ → Set κ → Studio V → Studio V → Prop} {sure own : Set κ}

/-- Work that may fail, in lockstep. What it wins back it wins back if it succeeds. -/
def Locked (happened : Studio V → Studio V → Prop)
    (twins : Set κ → Set κ → Studio V → Studio V → Prop) (sure own : Set κ) (work : StudioJob V α)
    (gains : α → Set κ) : Prop :=
  Job.Lockstep happened twins sure own (ExceptT.run work) (fun _ => True) fun result =>
    {place | ∃ value, result = .ok value ∧ place ∈ gains value}

theorem locked_pure {value : α} {gains : α → Set κ} (gained : gains value ⊆ sure) :
    Locked happened twins sure own (pure value : StudioJob V α) gains := by
  refine .done trivial ?_
  rintro place ⟨_, ⟨⟩, inside⟩
  exact gained inside

theorem locked_throw {fault : Fault} {gains : α → Set κ} :
    Locked happened twins sure own (throw fault : StudioJob V α) gains := by
  refine .done trivial ?_
  rintro place ⟨_, ⟨⟩, _⟩

theorem Locked.bind {more whole : Set κ} {work : StudioJob V α} {next : α → StudioJob V β}
    {gained : α → Set κ} {gains : β → Set κ}
    (locked : Locked happened twins sure own work gained)
    (rest : ∀ value, Locked happened twins (sure ∪ gained value) more (next value) gains)
    (apart : ∀ place ∈ more, place ∉ own) (inside : own ⊆ whole) (insideMore : more ⊆ whole) :
    Locked happened twins sure whole (work >>= next) gains := by
  unfold Locked
  rw [ExceptT.run_bind]
  refine Job.Lockstep.bind locked ?_ apart inside insideMore
  intro result _
  cases result with
  | ok value =>
      refine (rest value).widen (Set.union_subset_union_right _ ?_) (subset_refl _)
      exact fun place inside => ⟨value, rfl, inside⟩
  | error fault =>
      refine .done trivial ?_
      rintro place ⟨_, ⟨⟩, _⟩

theorem Locked.after {work : StudioJob V α} {next : α → StudioJob V β} {gains : β → Set κ}
    (locked : Locked happened twins sure ∅ work fun _ => ∅)
    (rest : ∀ value, Locked happened twins sure own (next value) gains) :
    Locked happened twins sure own (work >>= next) gains := by
  refine locked.bind ?_ (fun _ _ => Set.notMem_empty _) (Set.empty_subset _) (subset_refl _)
  intro value
  exact (rest value).widen Set.subset_union_left (subset_refl _)

theorem Locked.before {work : StudioJob V α} {next : α → StudioJob V β}
    {gained : α → Set κ} {gains : β → Set κ}
    (locked : Locked happened twins sure own work gained)
    (rest : ∀ value, Locked happened twins (sure ∪ gained value) ∅ (next value) gains) :
    Locked happened twins sure own (work >>= next) gains :=
  locked.bind rest (fun _ inside => absurd inside (Set.notMem_empty _)) (subset_refl _)
    (Set.empty_subset _)

theorem Locked.telling {work : StudioJob V Unit} {place : κ}
    (locked : Locked happened twins sure own work fun _ => {place}) :
    Locked happened twins sure own (work >>= fun _ => pure true)
      fun told => {other | told = true ∧ other = place} := by
  refine locked.before fun _ => locked_pure ?_
  rintro other ⟨-, rfl⟩
  exact Or.inr rfl

theorem locked_step {act : Studio V → α × Studio V} {next : α → Job (Studio V) (Except Fault β)}
    {gains : β → Set κ}
    (learned : α → Prop)
    (moves : ∀ lost free first second, happened first (act first).2 →
      twins lost free first second → learned (act first).1 ∧
        next (act first).1 = next (act second).1 ∧ twins lost free (act first).2 (act second).2)
    (later : ∀ value, learned value → Locked happened twins sure own (ExceptT.mk (next value)) gains) :
    Locked happened twins sure own (ExceptT.mk (.step act next)) gains := by
  refine .step learned (fun _ => ∅) (fun _ => ∅) (fun _ => subset_refl _)
    (fun _ => Set.empty_subset _) ?_ ?_
  · intro lost free first second _ _ occurred alike
    rw [Set.sdiff_empty, Set.sdiff_empty]
    exact moves lost free first second occurred alike
  · intro value knows
    rw [Set.union_empty, Set.sdiff_empty]
    exact later value knows

/-- How the work on a node ends: there is audio in its file, or none. -/
def Concludes (target : Path) (parts : List Rendition) (rendition : Rendition) : Prop :=
  rendition = ⟨none, parts⟩ ∨ rendition = ⟨some target, parts⟩

/-- What the work on a node wins back it wins back if the node has audio. -/
theorem Locked.conclude {target : Path} {parts : List Rendition} {work : StudioJob V Bool}
    {won : Set κ}
    (notes : ∀ event lost free first second, twins lost free first second →
      twins lost free (first.noting event) (second.noting event))
    (locked : Locked happened twins sure own work fun told =>
      {place | told = true ∧ place ∈ won}) :
    Job.Lockstep happened twins sure own (Equipment.conclude target parts work)
      (Concludes target parts) fun rendition => {place | rendition.audio ≠ none ∧ place ∈ won} := by
  have silent : ∀ {sure own : Set κ}, Job.Lockstep happened twins sure own
      (.done ⟨none, parts⟩ : Job (Studio V) Rendition) (Concludes target parts)
      fun rendition => {place | rendition.audio ≠ none ∧ place ∈ won} :=
    .done (Or.inl rfl) fun _ impossible => absurd rfl impossible.1
  refine Job.Lockstep.bind locked ?_ (fun _ inside => absurd inside (Set.notMem_empty _))
    (subset_refl _) (Set.empty_subset _)
  intro result _
  rcases result with fault | _ | _
  · refine .step (fun _ => True) (fun _ => ∅) (fun _ => ∅) (fun _ => subset_refl _)
      (fun _ => Set.empty_subset _) ?_ fun _ _ => silent
    intro lost free first second _ _ _ alike
    rw [Set.sdiff_empty, Set.sdiff_empty]
    exact ⟨trivial, rfl, notes _ lost free first second alike⟩
  · exact silent
  · refine .done (Or.inr rfl) ?_
    rintro place ⟨-, inside⟩
    exact Or.inr ⟨true, rfl, rfl, inside⟩

end Locked

end SpokenMarkup
