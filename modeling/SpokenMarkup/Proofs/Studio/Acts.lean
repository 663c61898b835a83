import SpokenMarkup.Proofs.Studio.Calls
import SpokenMarkup.Proofs.Studio.SideBySide

set_option autoImplicit false

namespace SpokenMarkup

namespace Job

variable {σ α β : Type}

/-- Acts that may be taken, each with what makes no difference to what follows it: two results of
the act that are alike. -/
abbrev Repertoire (σ : Type) :=
  (β : Type) → (σ → β × σ) → (β → β → Prop) → Prop

/--
Every step of the job is an act from the repertoire, whatever the state it is taken in, and what
follows an act is the same after results that are alike. The results of the job satisfy `post`.
-/
inductive MadeOf (repertoire : Repertoire σ) : {α : Type} → Job σ α → (α → Prop) → Prop
  | done {α : Type} {result : α} {post : α → Prop} (holds : post result) :
    MadeOf repertoire (.done result) post
  | step {α β : Type} {act : σ → β × σ} {alike : β → β → Prop} {next : β → Job σ α}
    {post : α → Prop} (listed : repertoire β act alike)
    (blind : ∀ first second, alike first second → next first = next second)
    (later : ∀ state, MadeOf repertoire (next (act state).1) post) :
    MadeOf repertoire (.step act next) post
  | both {α β γ : Type} {sideBySide : Bool} {left : Job σ α} {right : Job σ β}
    {next : α → β → Job σ γ} {postLeft : α → Prop} {postRight : β → Prop} {post : γ → Prop}
    (ofLeft : MadeOf repertoire left postLeft) (ofRight : MadeOf repertoire right postRight)
    (later : ∀ first second, postLeft first → postRight second →
      MadeOf repertoire (next first second) post) :
    MadeOf repertoire (.both sideBySide left right next) post

variable {repertoire wider : Repertoire σ}

theorem MadeOf.mono {job : Job σ α} {post weaker : α → Prop} (made : MadeOf repertoire job post)
    (lists : ∀ (β : Type) (act : σ → β × σ) (alike : β → β → Prop), repertoire β act alike →
      ∃ coarser, wider β act coarser ∧ ∀ first second, coarser first second → alike first second)
    (follows : ∀ result, post result → weaker result) : MadeOf wider job weaker := by
  induction made with
  | done holds => exact .done (follows _ holds)
  | @step α β act alike next post listed blind later ih =>
      obtain ⟨coarser, listedToo, finer⟩ := lists β act alike listed
      exact .step listedToo (fun first second same => blind first second (finer first second same))
        fun state => ih state follows
  | both ofLeft ofRight later ihLeft ihRight ih =>
      exact .both (ihLeft fun _ holds => holds) (ihRight fun _ holds => holds)
        fun first second holds holdsToo => ih first second holds holdsToo follows

theorem MadeOf.bind {job : Job σ α} {next : α → Job σ β} {middle : α → Prop} {post : β → Prop}
    (made : MadeOf repertoire job middle)
    (rest : ∀ result, middle result → MadeOf repertoire (next result) post) :
    MadeOf repertoire (job >>= next) post := by
  change MadeOf repertoire (job.bind next) post
  induction made with
  | done holds => exact rest _ holds
  | step listed blind later ih =>
      refine .step listed ?_ fun state => ih state rest
      intro first second same
      rw [blind first second same]
  | both ofLeft ofRight later _ _ ih =>
      exact .both ofLeft ofRight fun first second holds holdsToo =>
        ih first second holds holdsToo rest

theorem MadeOf.result {result : α} {post : α → Prop}
    (made : MadeOf repertoire (.done result) post) : post result := by
  cases made with
  | done holds => exact holds

/-- An act from the repertoire was taken, or nothing was done. -/
def Takes (repertoire : Repertoire σ) (state after : σ) : Prop :=
  after = state ∨ ∃ (β : Type) (act : σ → β × σ) (alike : β → β → Prop),
    repertoire β act alike ∧ after = (act state).2

theorem MadeOf.of_step {job later : Job σ α} {post : α → Prop} {state after : σ}
    (made : MadeOf repertoire job post) (moved : Step job state later after) :
    MadeOf repertoire later post ∧ Takes repertoire state after := by
  induction moved with
  | act act next state =>
      cases made with
      | step listed blind later => exact ⟨later state, Or.inr ⟨_, act, _, listed, rfl⟩⟩
  | left moved ih =>
      cases made with
      | both ofLeft ofRight later =>
          obtain ⟨rest, takes⟩ := ih ofLeft
          exact ⟨.both rest ofRight later, takes⟩
  | right allowed moved ih =>
      cases made with
      | both ofLeft ofRight later =>
          obtain ⟨rest, takes⟩ := ih ofRight
          exact ⟨.both ofLeft rest later, takes⟩
  | join sideBySide first second next state =>
      cases made with
      | both ofLeft ofRight later =>
          exact ⟨later first second ofLeft.result ofRight.result, Or.inl rfl⟩

/-- Amid others, whatever they do, a job stays of the same make. -/
theorem MadeOf.amid {rely : σ → σ → Prop} {job later : Job σ α} {post : α → Prop} {state after : σ}
    (made : MadeOf repertoire job post) (amid : Amid rely job state later after) :
    MadeOf repertoire later post := by
  induction amid with
  | refl => exact made
  | own _ moved ih => exact (ih.of_step moved).1
  | other _ _ ih => exact ih

theorem MadeOf.run {job : Job σ α} {post : α → Prop} (made : MadeOf repertoire job post)
    (state : σ) : post (job.run state).1 := by
  have alone : Amid (fun _ _ => False) job state _ _ := amid_run job state
  exact (made.amid alone).result

/-- What others and all acts of the repertoire keep is kept all the time. -/
theorem MadeOf.holds {rely : σ → σ → Prop} {holds : σ → Prop} {job later : Job σ α}
    {post : α → Prop} {state after : σ} (made : MadeOf repertoire job post)
    (stable : Stable rely holds)
    (keeps : ∀ (β : Type) (act : σ → β × σ) (alike : β → β → Prop), repertoire β act alike →
      ∀ state, holds state → holds (act state).2)
    (start : holds state) (amid : Amid rely job state later after) : holds after := by
  induction amid with
  | refl => exact start
  | own earlier moved ih =>
      rcases ((made.amid earlier).of_step moved).2 with rfl | ⟨β, act, alike, listed, rfl⟩
      · exact ih
      · exact keeps β act alike listed _ ih
  | other _ changed ih => exact stable _ _ changed ih

end Job

namespace Equipment

variable {V : Type}

/-- The tasks of a render in a directory that write its file with this number. -/
inductive Task (equipment : Equipment V) (dir : Path) (number : Nat) :
    {α : Type} → FileTask α → Prop
  | write (audio : ByteArray) : Task equipment dir number (do
      FileTask.makeRoom (numberedFile dir number)
      FileTask.update (equipment.host.write (numberedFile dir number) audio) fun error =>
        .voice (.notWritten (numberedFile dir number) error))
  | place (id : String) (disk : Disk) (asset : Asset) (found : equipment.assets id disk = some asset) :
    Task equipment dir number (equipment.mixer.place equipment.host asset (numberedFile dir number))
  | copy (source : Nat) :
    Task equipment dir number
      (FileTask.copy equipment.host (numberedFile dir source) (numberedFile dir number))
  | join (sources : List Nat) : Task equipment dir number
      (equipment.mixer.join (sources.map (numberedFile dir)) (numberedFile dir number))
  | preset (preset : Preset) (source : Nat) : Task equipment dir number
      (equipment.mixer.applyPreset preset (numberedFile dir source) (numberedFile dir number))
  | filter (id : String) (disk : Disk) (program : Path)
    (offered : equipment.programFor? id disk = some program) (source : Nat) :
    Task equipment dir number
      (runFilter equipment.launcher program (numberedFile dir source) (numberedFile dir number))

/-- The disk is looked at for sound effects and filter programs only, and they are the same. -/
def SeesSame (equipment : Equipment V) (first second : Studio V) : Prop :=
  ∀ id, equipment.assets id first.disk = equipment.assets id second.disk ∧
    equipment.programFor? id first.disk = equipment.programFor? id second.disk

/-- The acts of a render in a directory. -/
inductive Act (equipment : Equipment V) (dir : Path) : Job.Repertoire (Studio V)
  | note (change : Studio V → Studio V)
    (idle : ∀ studio, ∃ journal, change studio = { studio with journal }) :
    Act equipment dir PUnit (fun studio => (⟨⟩, change studio)) Eq
  | look : Act equipment dir (Studio V) (fun studio => (studio, studio)) equipment.SeesSame
  | speak (speaker text : String) :
    Act equipment dir (Except Fault ByteArray) (equipment.voice.speakAs speaker text) Eq
  | onDisk {α : Type} {task : FileTask α} (number : Nat)
    (listed : equipment.Task dir number task) :
    Act equipment dir (Except Fault α) (Studio.onDisk task) Eq

end Equipment

def WorkOf {V α : Type} (repertoire : Job.Repertoire (Studio V)) (work : StudioJob V α) : Prop :=
  Job.MadeOf repertoire (ExceptT.run work) fun _ => True

section WorkOf

variable {V α β : Type} {repertoire : Job.Repertoire (Studio V)}

theorem WorkOf.bind {work : StudioJob V α} {next : α → StudioJob V β}
    (made : WorkOf repertoire work) (rest : ∀ value, WorkOf repertoire (next value)) :
    WorkOf repertoire (work >>= next) := by
  unfold WorkOf
  rw [ExceptT.run_bind]
  refine Job.MadeOf.bind made ?_
  intro result _
  cases result with
  | ok value => exact rest value
  | error fault => exact .done trivial

theorem workOf_pure (value : α) : WorkOf repertoire (pure value : StudioJob V α) :=
  .done trivial

theorem workOf_throw (fault : Fault) : WorkOf repertoire (throw fault : StudioJob V α) :=
  .done trivial

theorem workOf_attempt {task : StudioTask V α}
    (listed : repertoire (Except Fault α) task Eq) : WorkOf repertoire (Equipment.attempt task) :=
  .step listed (fun _ _ same => congrArg Job.done same) fun _ => .done trivial

theorem made_after {first : StudioJob V α} {next : α → StudioJob V β} {middle : α → Prop}
    {post : Except Fault β → Prop}
    (made : Job.MadeOf repertoire (ExceptT.run first) fun result =>
      ∃ value, result = .ok value ∧ middle value)
    (rest : ∀ value, middle value → Job.MadeOf repertoire (ExceptT.run (next value)) post) :
    Job.MadeOf repertoire (ExceptT.run (first >>= next)) post := by
  rw [ExceptT.run_bind]
  refine Job.MadeOf.bind made ?_
  rintro _ ⟨value, rfl, holds⟩
  exact rest value holds

end WorkOf

section Acts

variable {V : Type} {equipment : Equipment V} {dir : Path} {number source : Nat}

theorem workOf_noting (event : Event) :
    WorkOf (equipment.Act dir) (modify (·.noting event) : StudioJob V PUnit) :=
  .step (.note _ fun studio => ⟨studio.journal.push event, rfl⟩) (fun _ _ _ => rfl)
    fun _ => .done trivial

theorem workOf_get {α : Type} {next : Studio V → StudioJob V α}
    (blind : ∀ first second, equipment.SeesSame first second → next first = next second)
    (rest : ∀ seen, WorkOf (equipment.Act dir) (next seen)) :
    WorkOf (equipment.Act dir) (get >>= next : StudioJob V α) :=
  .step .look (fun first second same => congrArg ExceptT.run (blind first second same)) rest

theorem workOf_onDisk {α : Type} {task : FileTask α} (listed : equipment.Task dir number task) :
    WorkOf (equipment.Act dir) (Equipment.attemptOnDisk task : StudioJob V α) :=
  workOf_attempt (.onDisk number listed)

theorem speech_made (speaker text : String) :
    WorkOf (equipment.Act dir) (equipment.speech speaker text (numberedFile dir number)) := by
  refine (workOf_noting _).bind fun _ => ?_
  refine (workOf_attempt (.speak speaker text)).bind fun audio => ?_
  exact workOf_onDisk (.write audio)

theorem effect_made (id : String) :
    WorkOf (equipment.Act dir) (equipment.effect id (numberedFile dir number)) := by
  refine (workOf_noting _).bind fun _ => ?_
  refine workOf_get ?_ ?_
  · intro first second same
    rw [(same id).1]
  · intro seen
    cases found : equipment.assets id seen.disk with
    | none => exact workOf_throw _
    | some asset => exact workOf_onDisk (.place id seen.disk asset found)

theorem joined_made (sources : List Nat) :
    WorkOf (equipment.Act dir)
      (equipment.joined (sources.map (numberedFile dir)) (numberedFile dir number)) := by
  match sources with
  | [] => exact workOf_pure _
  | [only] => exact (workOf_onDisk (.copy only)).bind fun _ => workOf_pure _
  | first :: second :: rest =>
      exact (workOf_onDisk (.join (first :: second :: rest))).bind fun _ => workOf_pure _

theorem filtered_made (id : String) :
    WorkOf (equipment.Act dir)
      (equipment.filtered id (numberedFile dir source) (numberedFile dir number)) := by
  have copied : WorkOf (equipment.Act dir)
      (Equipment.attemptOnDisk
        (FileTask.copy equipment.host (numberedFile dir source) (numberedFile dir number))) :=
    workOf_onDisk (.copy source)
  refine (workOf_noting _).bind fun _ => ?_
  refine workOf_get ?_ ?_
  · intro first second same
    rw [(same id).2]
  · intro seen
    cases offered : equipment.programFor? id seen.disk with
    | none =>
        unfold Equipment.builtInFilter
        cases Preset.find? id with
        | none => exact (workOf_noting _).bind fun _ => copied
        | some preset => exact workOf_onDisk (.preset preset source)
    | some program =>
        refine WorkOf.bind (workOf_onDisk (.filter id seen.disk program offered source)) ?_
        intro ending
        cases ending with
        | success => exact workOf_pure _
        | failed status => exact workOf_throw _
        | unavailable reason => exact (workOf_noting _).bind fun _ => copied

theorem conclude_made {work : StudioJob V Bool} (parts : List Rendition)
    (made : WorkOf (equipment.Act dir) work) :
    Job.MadeOf (equipment.Act dir) (Equipment.conclude (numberedFile dir number) parts work)
      (NamesFile dir number) := by
  refine Job.MadeOf.bind made ?_
  intro result _
  rcases result with fault | _ | _
  · exact .step (.note _ fun studio =>
      ⟨studio.journal.push (.nodeDropped (numberedFile dir number) fault), rfl⟩)
      (fun _ _ _ => rfl) fun _ => .done nofun
  · exact .done nofun
  · refine .done ?_
    intro path equal
    cases equal
    rfl

mutual

/-- The job of a tree is made of acts on the files with the numbers of its nodes. -/
theorem job_made (sideBySide : Bool) (node : Node) (number : Nat) :
    Job.MadeOf (equipment.Act dir)
      (equipment.job sideBySide (node.numberFrom dir number).1) (NamesFile dir number) := by
  cases node with
  | speech speaker text target =>
      refine conclude_made [] ?_
      exact (speech_made speaker text).bind fun _ => workOf_pure _
  | effect id target =>
      refine conclude_made [] ?_
      exact (effect_made id).bind fun _ => workOf_pure _
  | group children target =>
      simp only [Node.numberFrom, Equipment.job]
      refine (jobs_made sideBySide children (number + 1)).bind ?_
      rintro renditions ⟨survivors, -, files⟩
      rw [files]
      exact conclude_made renditions (joined_made survivors)
  | filter id child target =>
      simp only [Node.numberFrom, Equipment.job]
      refine (job_made sideBySide child (number + 1)).bind ?_
      intro rendition names
      cases audible : rendition.audio with
      | none => exact .done nofun
      | some input =>
          rw [names input audible]
          exact conclude_made [rendition] ((filtered_made id).bind fun _ => workOf_pure _)

theorem jobs_made (sideBySide : Bool) (nodes : List Node) (number : Nat) :
    Job.MadeOf (equipment.Act dir)
      (equipment.jobs sideBySide (Node.numberAllFrom dir number nodes).1)
      (NameFiles dir number (number + Node.sizeAll nodes)) := by
  cases nodes with
  | nil => exact .done ⟨[], nofun, rfl⟩
  | cons node rest =>
      have others := jobs_made sideBySide rest (number + node.size)
      rw [Nat.add_assoc] at others
      simp only [Node.numberAllFrom, Equipment.jobs, Node.numberFrom_snd, Node.sizeAll]
      refine .both (job_made sideBySide node number) others ?_
      intro part parts names left
      exact .done (names.cons (Nat.lt_add_of_pos_right node.size_pos)
        (by omega) left)

end

theorem perform_made (session : Session V) (scratch : Path) (markup : String) :
    Job.MadeOf (session.equipment.Act scratch) (session.perform scratch markup).run fun result =>
      ∃ take, result = .ok take ∧ take.scratch = scratch ∧
        ∀ path ∈ take.artifact, path = numberedFile scratch 0 := by
  have noted : ∀ events : Studio V → Studio V,
      (∀ studio, ∃ journal, events studio = { studio with journal }) →
      Job.MadeOf (session.equipment.Act scratch)
        (ExceptT.run (modify events : StudioJob V PUnit)) fun result =>
          ∃ value, result = .ok value ∧ True :=
    fun events idle => .step (.note events idle) (fun _ _ _ => rfl) fun _ => .done ⟨_, rfl, trivial⟩
  refine made_after (noted _ fun _ => ⟨_, rfl⟩) fun _ _ => ?_
  refine made_after (noted _ fun _ => ⟨_, rfl⟩) fun _ _ => ?_
  have rendered : Job.MadeOf (session.equipment.Act scratch) _ (NamesFile scratch 0) :=
    job_made session.settings.parallel (session.tree markup) 0
  rw [← Node.number_eq_numberFrom] at rendered
  refine made_after (rendered.bind fun rendition names => .done ⟨rendition, rfl, names⟩)
    fun rendition names => ?_
  refine made_after (noted _ fun _ => ⟨_, rfl⟩) fun _ _ => ?_
  exact .done ⟨_, rfl, rfl, names⟩

/-- From its number on a render makes its scratch directory, and then does such acts there. -/
theorem recordAs_made {repertoire : Job.Repertoire (Studio V)} (session : Session V)
    (markup : String) (number : Nat)
    (opens : repertoire (Except Fault Unit) (session.makeScratch number) Eq)
    (acts : ∀ (β : Type) (act : Studio V → β × Studio V) (alike : β → β → Prop),
      session.equipment.Act (session.scratchDir number) β act alike →
      ∃ coarser, repertoire β act coarser ∧
        ∀ first second, coarser first second → alike first second) :
    Job.MadeOf repertoire (session.recordAs markup number).run fun result =>
      ∀ take, result = .ok take → take.scratch = session.scratchDir number ∧
        ∀ path ∈ take.artifact, path = numberedFile (session.scratchDir number) 0 := by
  have opened : Job.MadeOf repertoire (ExceptT.run (session.openAs number)) fun result =>
      ∀ scratch, result = .ok scratch → scratch = session.scratchDir number := by
    refine .step opens (fun _ _ same => congrArg _ same) ?_
    intro studio
    cases (session.makeScratch number studio).1 with
    | ok value => exact .done fun _ same => (Except.ok.inj same).symm
    | error fault => exact .done nofun
  unfold Session.recordAs
  rw [ExceptT.run_bind]
  refine opened.bind ?_
  intro result here
  cases result with
  | error fault => exact .done nofun
  | ok scratch =>
      rw [here scratch rfl]
      refine (perform_made session _ markup).mono acts ?_
      rintro _ ⟨take, rfl, own⟩ other same
      cases same
      exact own

/-- A whole render notes that it starts, takes its number, makes its scratch directory, and then
does acts there. -/
theorem record_made {repertoire : Job.Repertoire (Studio V)} (session : Session V)
    (markup : String)
    (noted : ∀ event, repertoire Unit (fun studio => ((), studio.noting event)) Eq)
    (counted : repertoire Nat Studio.takeNumber Eq)
    (opens : ∀ number, repertoire (Except Fault Unit) (session.makeScratch number) Eq)
    (acts : ∀ (number : Nat) (β : Type) (act : Studio V → β × Studio V) (alike : β → β → Prop),
      session.equipment.Act (session.scratchDir number) β act alike →
      ∃ coarser, repertoire β act coarser ∧
        ∀ first second, coarser first second → alike first second) :
    Job.MadeOf repertoire (session.record markup).run fun _ => True := by
  rw [session.record_run markup]
  refine .step (noted _) (fun _ _ _ => rfl) fun _ => ?_
  refine .step counted (fun _ _ same => by rw [same]) fun studio => ?_
  exact (recordAs_made session markup _ (opens _) (acts _)).mono
    (fun β act alike listed => ⟨alike, listed, fun _ _ same => same⟩) fun _ _ => trivial

end Acts

end SpokenMarkup
