import SpokenMarkup.Proofs.Studio.Plain

set_option autoImplicit false

namespace SpokenMarkup

open Disk (numbered numberedIn)

/-- The files of a studio, in all states that a render may bring about. -/
def studioCells {V : Type} (voice : Voice V) (start : Disk) (folder : Location)
    (initial : Booth V) : Cells (Studio V) Location (Option Entry) where
  content studio location := studio.disk.entry? location
  occurs studio := start.AgreeOff (Disk.below folder) studio.disk ∧
    voice.Reaches start folder initial studio.booth

/-- Work that may fail and is local to some files. -/
def LocalWork {V α : Type} (cells : Cells (Studio V) Location (Option Entry)) (on : Set Location)
    (work : StudioJob V α) : Prop :=
  Job.Local cells on (ExceptT.run work) fun _ => True

variable {V α β : Type} {equipment : Equipment V} {start : Disk} {dir : Path} {folder : Location}
  {initial : Booth V} {sound : String → String → Except Fault ByteArray} {on : Set Location}

section LocalWork

variable {cells : Cells (Studio V) Location (Option Entry)}

theorem LocalWork.bind {work : StudioJob V α} {next : α → StudioJob V β}
    (isLocal : LocalWork cells on work) (rest : ∀ value, LocalWork cells on (next value)) :
    LocalWork cells on (work >>= next) := by
  unfold LocalWork
  rw [ExceptT.run_bind]
  refine Job.Local.bind isLocal ?_
  intro result _
  cases result with
  | ok value => exact rest value
  | error fault => exact .done trivial

theorem localWork_pure (value : α) : LocalWork cells on (pure value : StudioJob V α) :=
  .done trivial

theorem localWork_throw (fault : Fault) : LocalWork cells on (throw fault : StudioJob V α) :=
  .done trivial

theorem localWork_attempt {task : StudioTask V α}
    (keeps : ∀ studio, cells.occurs studio →
      cells.occurs (task studio).2 ∧ cells.SameOff on studio (task studio).2)
    (steady : ∀ studio other, cells.occurs studio → cells.occurs other →
      cells.SameOn on studio other → (task studio).1 = (task other).1 ∧
        cells.SameOn on (task studio).2 (task other).2) :
    LocalWork cells on (Equipment.attempt task) := by
  refine .step keeps ?_ fun _ _ => .done trivial
  intro studio other occurs occursOther same
  obtain ⟨result, after⟩ := steady studio other occurs occursOther same
  exact ⟨congrArg Job.done result, after⟩

end LocalWork

section Studio

theorem localWork_noting (event : Event) :
    LocalWork (studioCells equipment.voice start folder initial) on
      (modify (·.noting event) : StudioJob V PUnit) :=
  .step (fun _ occurs => ⟨occurs, fun _ _ => rfl⟩) (fun _ _ _ _ same => ⟨rfl, same⟩)
    fun _ _ => .done trivial

/-- Work that looks at the studio may go on from what is the same in all studios that occur. -/
theorem localWork_get {next : Studio V → StudioJob V α}
    (steady : ∀ studio other,
      (studioCells equipment.voice start folder initial).occurs studio →
      (studioCells equipment.voice start folder initial).occurs other → next studio = next other)
    (rest : ∀ studio, (studioCells equipment.voice start folder initial).occurs studio →
      LocalWork (studioCells equipment.voice start folder initial) on (next studio)) :
    LocalWork (studioCells equipment.voice start folder initial) on
      (get >>= next : StudioJob V α) :=
  .step (fun _ occurs => ⟨occurs, fun _ _ => rfl⟩)
    (fun studio other occurs occursOther same =>
      ⟨congrArg ExceptT.run (steady studio other occurs occursOther), same⟩)
    rest

theorem localWork_speakAs
    (repeats : equipment.voice.Repeats start folder initial sound) (speaker text : String) :
    LocalWork (studioCells equipment.voice start folder initial) on
      (Equipment.attempt (equipment.voice.speakAs speaker text)) := by
  apply localWork_attempt
  · intro studio occurs
    rcases occurs with ⟨agree, reached⟩
    have kept := repeats.kept studio reached agree speaker text
    exact ⟨⟨agree.trans (kept.mono (Set.empty_subset _)), .spoken reached agree speaker text⟩,
      fun location _ => kept.entry location (Set.notMem_empty _)⟩
  · intro studio other occurs occursOther same
    rcases occurs with ⟨agree, reached⟩
    rcases occursOther with ⟨agreeOther, reachedOther⟩
    have kept := repeats.kept studio reached agree speaker text
    have keptOther := repeats.kept other reachedOther agreeOther speaker text
    refine ⟨?_, ?_⟩
    · rw [repeats.said studio reached agree, repeats.said other reachedOther agreeOther]
    · intro location inside
      exact ((kept.entry location (Set.notMem_empty _)).symm.trans (same location inside)).trans
        (keptOther.entry location (Set.notMem_empty _))

/-- A task that keeps to an output and to inputs that are settled by local files is local. -/
theorem localWork_onDisk {number : Nat} {inputs : List Path} {task : FileTask α}
    (confined : Confined start folder inputs (numbered folder number) task)
    (own : numbered folder number ∈ on)
    (settled : ∀ studio other,
      (studioCells equipment.voice start folder initial).occurs studio →
      (studioCells equipment.voice start folder initial).occurs other →
      (studioCells equipment.voice start folder initial).SameOn on studio other →
      ∀ input ∈ inputs, studio.disk.openFile input = other.disk.openFile input) :
    LocalWork (studioCells equipment.voice start folder initial) on
      (Equipment.attemptOnDisk task) := by
  have inside : {numbered folder number} ⊆ Disk.below folder := by
    intro location single
    rw [single]
    exact Disk.numbered_mem_below folder number
  have single : ∀ {location}, location ∉ on → location ∉ ({numbered folder number} : Set _) := by
    intro location outside single
    exact outside (single ▸ own)
  apply localWork_attempt
  · intro studio occurs
    rcases occurs with ⟨agree, reached⟩
    have frame := confined.frame studio.disk agree
    exact ⟨⟨agree.trans (frame.mono inside), reached⟩,
      fun location outside => frame.entry location (single outside)⟩
  · intro studio other occurs occursOther same
    obtain ⟨result, after⟩ := confined.steady studio.disk other.disk occurs.1 occursOther.1
      (settled studio other occurs occursOther same) (same _ own)
    refine ⟨result, ?_⟩
    intro location within
    by_cases output : location = numbered folder number
    · rw [output]
      exact after
    · have frame := (confined.frame studio.disk occurs.1).entry location output
      have frameOther := (confined.frame other.disk occursOther.1).entry location output
      exact (frame.symm.trans (same location within)).trans frameOther

theorem openFile_numberedFile_congr (fresh : start.IsEmptyFolder dir folder) {first second : Disk}
    (agree : start.AgreeOff (Disk.below folder) first)
    (agreeOther : start.AgreeOff (Disk.below folder) second) {number : Nat}
    (held : first.entry? (numbered folder number) = second.entry? (numbered folder number)) :
    first.openFile (numberedFile dir number) = second.openFile (numberedFile dir number) := by
  unfold Disk.openFile
  rw [fresh.locate_numberedFile agree, fresh.locate_numberedFile agreeOther]
  split
  · simp only [bind, Except.bind, held]
  · rfl

theorem speech_local (fresh : start.IsEmptyFolder dir folder)
    (repeats : equipment.voice.Repeats start folder initial sound) {number : Nat}
    (own : numbered folder number ∈ on) (speaker text : String) :
    LocalWork (studioCells equipment.voice start folder initial) on
      (equipment.speech speaker text (numberedFile dir number)) := by
  refine (localWork_noting _).bind fun _ => ?_
  refine (localWork_speakAs repeats speaker text).bind fun content => ?_
  exact localWork_onDisk (confined_makeRoom fresh (confined_write [] fresh _ content _)) own nofun

theorem effect_local (fresh : start.IsEmptyFolder dir folder)
    (confines : equipment.Confines start dir folder) {number : Nat}
    (own : numbered folder number ∈ on) (id : String) :
    LocalWork (studioCells equipment.voice start folder initial) on
      (equipment.effect id (numberedFile dir number)) := by
  refine (localWork_noting _).bind fun _ => ?_
  refine localWork_get ?_ ?_
  · intro studio other occurs occursOther
    rw [confines.finds _ occurs.1 id, confines.finds _ occursOther.1 id]
  · intro studio occurs
    rw [confines.finds _ occurs.1 id]
    cases found : equipment.assets id start with
    | none => exact localWork_throw _
    | some asset =>
        have settled : ∀ disk, start.AgreeOff (Disk.below folder) disk →
            disk.openFile asset.path = start.openFile asset.path :=
          fun disk agree => confines.opens disk agree id asset found
        have confined : Confined start folder [asset.path] (numbered folder number)
            (equipment.mixer.place equipment.host asset (numberedFile dir number)) := by
          unfold Mixer.place
          by_cases wave : asset.isWave = true
          · rw [if_pos wave]
            refine confined_copy fresh _ asset.path ?_
            intro first second agree agreeOther held opened _
            rw [settled first agree] at opened
            obtain ⟨location, located⟩ := Disk.located_of_openFile opened
            rw [agree.locate_eq fresh.barred asset.path location located,
              agreeOther.locate_eq fresh.barred asset.path location located]
          · rw [if_neg wave]
            exact confines.converts id asset number found
        refine localWork_onDisk confined own ?_
        intro studio other occurs occursOther _ input member
        rw [List.mem_singleton.mp member, settled _ occurs.1, settled _ occursOther.1]

theorem copy_local (fresh : start.IsEmptyFolder dir folder) {source number : Nat}
    (own : numbered folder number ∈ on) (inside : numbered folder source ∈ on) :
    LocalWork (studioCells equipment.voice start folder initial) on
      (Equipment.attemptOnDisk
        (FileTask.copy equipment.host (numberedFile dir source) (numberedFile dir number))) := by
  refine localWork_onDisk (confined_copy fresh _ _ ?_) own ?_
  · intro first second agree agreeOther _ _ _
    rw [fresh.locate_numberedFile agree, fresh.locate_numberedFile agreeOther]
  · intro studio other occurs occursOther same input member
    rw [List.mem_singleton.mp member]
    exact openFile_numberedFile_congr fresh occurs.1 occursOther.1 (same _ inside)

theorem joined_local (fresh : start.IsEmptyFolder dir folder)
    (confines : equipment.Confines start dir folder) {number : Nat}
    (own : numbered folder number ∈ on) (sources : List Nat)
    (inside : ∀ source ∈ sources, numbered folder source ∈ on) :
    LocalWork (studioCells equipment.voice start folder initial) on
      (equipment.joined (sources.map (numberedFile dir)) (numberedFile dir number)) := by
  match sources, inside with
  | [], _ => exact localWork_pure _
  | [source], inside =>
      exact (copy_local fresh own (inside source List.mem_cons_self)).bind fun _ =>
        localWork_pure _
  | first :: second :: rest, inside =>
      refine LocalWork.bind ?_ fun _ => localWork_pure _
      refine localWork_onDisk (confines.joins (first :: second :: rest) number) own ?_
      intro studio other occurs occursOther same input member
      rcases List.mem_map.mp member with ⟨source, listed, rfl⟩
      exact openFile_numberedFile_congr fresh occurs.1 occursOther.1
        (same _ (inside source listed))

theorem filtered_local (fresh : start.IsEmptyFolder dir folder)
    (confines : equipment.Confines start dir folder) {source number : Nat}
    (own : numbered folder number ∈ on) (inside : numbered folder source ∈ on) (id : String) :
    LocalWork (studioCells equipment.voice start folder initial) on
      (equipment.filtered id (numberedFile dir source) (numberedFile dir number)) := by
  have settled : ∀ studio other,
      (studioCells equipment.voice start folder initial).occurs studio →
      (studioCells equipment.voice start folder initial).occurs other →
      (studioCells equipment.voice start folder initial).SameOn on studio other →
      ∀ input ∈ [numberedFile dir source],
        studio.disk.openFile input = other.disk.openFile input := by
    intro studio other occurs occursOther same input member
    rw [List.mem_singleton.mp member]
    exact openFile_numberedFile_congr fresh occurs.1 occursOther.1 (same _ inside)
  refine (localWork_noting _).bind fun _ => ?_
  refine localWork_get ?_ ?_
  · intro studio other occurs occursOther
    rw [confines.offers _ occurs.1 id, confines.offers _ occursOther.1 id]
  · intro studio occurs
    rw [confines.offers _ occurs.1 id]
    cases offered : equipment.programFor? id start with
    | none =>
        unfold Equipment.builtInFilter
        cases Preset.find? id with
        | none =>
            exact (localWork_noting _).bind fun _ => copy_local fresh own inside
        | some preset =>
            exact localWork_onDisk (confines.applies preset source number) own settled
    | some program =>
        have confined := confined_runFilter fresh equipment.launcher program _
          (confines.runs id program source number offered)
        refine LocalWork.bind (localWork_onDisk confined own settled) ?_
        intro ending
        cases ending with
        | success => exact localWork_pure _
        | failed status => exact localWork_throw _
        | unavailable reason =>
            exact (localWork_noting _).bind fun _ => copy_local fresh own inside

/-- The result of a node with this number is its own file, if anything. -/
def NamesFile (dir : Path) (number : Nat) (rendition : Rendition) : Prop :=
  ∀ path, rendition.audio = some path → path = numberedFile dir number

def NameFiles (dir : Path) (first last : Nat) (renditions : List Rendition) : Prop :=
  ∃ survivors : List Nat, (∀ survivor ∈ survivors, first ≤ survivor ∧ survivor < last) ∧
    renditions.filterMap (·.audio) = survivors.map (numberedFile dir)

theorem NamesFile.cons {number first last : Nat} {part : Rendition} {parts : List Rendition}
    (early : number < first) (late : first ≤ last) (names : NamesFile dir number part)
    (left : NameFiles dir first last parts) : NameFiles dir number last (part :: parts) := by
  obtain ⟨survivors, ranged, files⟩ := left
  have rangedAll : ∀ survivor ∈ survivors, number ≤ survivor ∧ survivor < last := by
    intro survivor member
    obtain ⟨lower, upper⟩ := ranged survivor member
    omega
  cases audible : part.audio with
  | none =>
      refine ⟨survivors, rangedAll, ?_⟩
      rw [List.filterMap_cons_none audible]
      exact files
  | some path =>
      refine ⟨number :: survivors, ?_, ?_⟩
      · intro survivor member
        rcases List.mem_cons.mp member with rfl | later
        · omega
        · exact rangedAll survivor later
      · rw [List.filterMap_cons_some audible, List.map_cons, files, names path audible]

theorem conclude_local {number : Nat} {work : StudioJob V Bool} (parts : List Rendition)
    (isLocal : LocalWork (studioCells equipment.voice start folder initial) on work) :
    Job.Local (studioCells equipment.voice start folder initial) on
      (Equipment.conclude (numberedFile dir number) parts work) (NamesFile dir number) := by
  refine Job.Local.bind isLocal ?_
  intro result _
  rcases result with fault | _ | _
  · exact .step (fun _ occurs => ⟨occurs, fun _ _ => rfl⟩) (fun _ _ _ _ same => ⟨rfl, same⟩)
      fun _ _ => .done nofun
  · exact .done nofun
  · refine .done ?_
    intro path equal
    cases equal
    rfl

mutual

/-- The job of a tree keeps to the files with the numbers of its nodes. -/
theorem job_local (fresh : start.IsEmptyFolder dir folder)
    (confines : equipment.Confines start dir folder)
    (repeats : equipment.voice.Repeats start folder initial sound) (sideBySide : Bool)
    (node : Node) (number : Nat) :
    Job.Local (studioCells equipment.voice start folder initial)
      (numberedIn folder number (number + node.size))
      (equipment.job sideBySide (node.numberFrom dir number).1) (NamesFile dir number) := by
  have own : numbered folder number ∈ numberedIn folder number (number + node.size) :=
    Disk.numbered_mem_numberedIn_iff.mpr
      ⟨Nat.le_refl _, Nat.lt_add_of_pos_right node.size_pos⟩
  cases node with
  | speech speaker text target =>
      refine conclude_local [] ?_
      exact (speech_local fresh repeats own speaker text).bind fun _ => localWork_pure _
  | effect id target =>
      refine conclude_local [] ?_
      exact (effect_local fresh confines own id).bind fun _ => localWork_pure _
  | group children target =>
      have inner := jobs_local fresh confines repeats sideBySide children (number + 1)
      rw [Nat.add_assoc] at inner
      simp only [Node.numberFrom, Equipment.job]
      refine (inner.mono (Disk.numberedIn_mono (Nat.le_succ _) (Nat.le_refl _))
        fun _ names => names).bind ?_
      intro renditions left
      rcases left with ⟨survivors, ranged, files⟩
      rw [files]
      refine conclude_local renditions (joined_local fresh confines own survivors ?_)
      intro survivor member
      obtain ⟨lower, upper⟩ := ranged survivor member
      exact Disk.numbered_mem_numberedIn_iff.mpr ⟨by omega, upper⟩
  | filter id child target =>
      have inner := job_local fresh confines repeats sideBySide child (number + 1)
      rw [Nat.add_assoc] at inner
      simp only [Node.numberFrom, Equipment.job]
      refine (inner.mono (Disk.numberedIn_mono (Nat.le_succ _) (Nat.le_refl _))
        fun _ names => names).bind ?_
      intro rendition names
      cases audible : rendition.audio with
      | none => exact .done nofun
      | some input =>
          rw [names input audible]
          refine conclude_local [rendition] ?_
          refine (filtered_local fresh confines own ?_ id).bind fun _ => localWork_pure _
          have positive := child.size_pos
          exact Disk.numbered_mem_numberedIn_iff.mpr ⟨by omega, by simp only [Node.size]; omega⟩

theorem jobs_local (fresh : start.IsEmptyFolder dir folder)
    (confines : equipment.Confines start dir folder)
    (repeats : equipment.voice.Repeats start folder initial sound) (sideBySide : Bool)
    (nodes : List Node) (number : Nat) :
    Job.Local (studioCells equipment.voice start folder initial)
      (numberedIn folder number (number + Node.sizeAll nodes))
      (equipment.jobs sideBySide (Node.numberAllFrom dir number nodes).1)
      (NameFiles dir number (number + Node.sizeAll nodes)) := by
  cases nodes with
  | nil => exact .done ⟨[], nofun, rfl⟩
  | cons node rest =>
      have one := job_local fresh confines repeats sideBySide node number
      have others := jobs_local fresh confines repeats sideBySide rest (number + node.size)
      rw [Nat.add_assoc] at others
      simp only [Node.numberAllFrom, Equipment.jobs, Node.numberFrom_snd, Node.sizeAll]
      refine .both (Disk.numberedIn_mono (Nat.le_refl _) (by omega))
        (Disk.numberedIn_mono (by omega) (Nat.le_refl _)) ?_ one others ?_
      · intro location first second
        rcases first with ⟨early, -, low, rfl⟩
        rcases second with ⟨late, high, -, equal⟩
        have same := Disk.numbered_injective equal
        omega
      · intro part parts names left
        exact .done (names.cons (Nat.lt_add_of_pos_right node.size_pos) (by omega) left)

end

end Studio

mutual

/-- One after the other, jobs come to the same whether or not they may go side by side. -/
theorem job_run_sideBySide (sideBySide : Bool) (node : Node) (studio : Studio V) :
    (equipment.job sideBySide node).run studio = (equipment.job false node).run studio := by
  match node with
  | .group children none | .speech _ _ none | .effect _ none | .filter _ child none => rfl
  | .speech speaker text (some target) => rfl
  | .effect id (some target) => rfl
  | .group children (some target) =>
      simp only [Equipment.job, Job.run_bind]
      rw [jobs_run_sideBySide sideBySide children studio]
  | .filter id child (some target) =>
      simp only [Equipment.job, Job.run_bind]
      rw [job_run_sideBySide sideBySide child studio]

theorem jobs_run_sideBySide (sideBySide : Bool) (nodes : List Node) (studio : Studio V) :
    (equipment.jobs sideBySide nodes).run studio = (equipment.jobs false nodes).run studio := by
  cases nodes with
  | nil => rfl
  | cons node rest =>
      simp only [Equipment.jobs, Job.run]
      rw [job_run_sideBySide sideBySide node studio, jobs_run_sideBySide sideBySide rest]

end

/--
Every schedule of a render side by side comes to what the render comes to that does one thing after
the other: no schedule is stuck before its end, and at its end the result of every node and the
content of every file are the same.
-/
theorem schedules_agree (equipment : Equipment V) (tree : Node) (dir : Path) (folder : Location)
    (first : Nat) (studio : Studio V) (sound : String → String → Except Fault ByteArray)
    (fresh : studio.disk.IsEmptyFolder dir folder)
    (confines : equipment.Confines studio.disk dir folder)
    (repeats : equipment.voice.Repeats studio.disk folder studio.booth sound)
    (rest : Job (Studio V) Rendition) (between : Studio V)
    (steps : Job.Steps (equipment.job true (tree.number dir first)) studio rest between) :
    let ending := (equipment.job false (tree.number dir first)).run studio
    (∃ rendition after, Job.Steps rest between (.done rendition) after) ∧
      ∀ rendition, rest = .done rendition → rendition = ending.1 ∧
        ∀ location, between.disk.entry? location = Disk.entry? ending.2.disk location := by
  intro ending
  refine ⟨Job.completes rest between, ?_⟩
  intro rendition same
  subst same
  have isLocal := job_local fresh confines repeats true tree first
  rw [← Node.number_eq_numberFrom] at isLocal
  have continues := isLocal.continues ⟨Disk.AgreeOff.refl _ _, .initial⟩ steps
  have sequential : (equipment.job true (tree.number dir first)).run studio = ending :=
    job_run_sideBySide true _ studio
  have result := continues.result
  have same := continues.same
  change (Job.run (.done rendition) between).1 =
    ((equipment.job true (tree.number dir first)).run studio).1 at result
  change (studioCells _ _ _ _).SameOn Set.univ (Job.run (.done rendition) between).2
    ((equipment.job true (tree.number dir first)).run studio).2 at same
  rw [sequential] at result same
  exact ⟨result, fun location => same location (Set.mem_univ location)⟩

/-- A schedule of a duet that begins with the second voice. -/
theorem schedules_agree_in_duet :
    let job := Plain.kit.job true (Plain.duet.number ⟨"/work"⟩ 0)
    let ending := (Plain.kit.job false (Plain.duet.number ⟨"/work"⟩ 0)).run Plain.stage
    ∃ later middle, Job.Step job Plain.stage later middle ∧
      middle.journal = #[.speaking "b" "yo"] ∧
      ∃ rendition after, Job.Steps later middle (.done rendition) after ∧
        rendition = ending.1 ∧
        ∀ location, after.disk.entry? location = Disk.entry? ending.2.disk location := by
  have agrees := schedules_agree Plain.kit Plain.duet ⟨"/work"⟩ ["work"] 0 Plain.stage
    Plain.utterance Plain.work_isEmptyFolder Plain.kit_confines
    (Plain.voice_repeats Plain.house ["work"] none)
  have begins : ∃ later middle, Job.Step (Plain.kit.job true (Plain.duet.number ⟨"/work"⟩ 0))
      Plain.stage later middle ∧ middle.journal = #[.speaking "b" "yo"] := by
    have shape : Plain.duet.number ⟨"/work"⟩ 0 =
        .group [.speech "a" "hi" (numberedFile ⟨"/work"⟩ 1),
          .speech "b" "yo" (numberedFile ⟨"/work"⟩ 2)] (numberedFile ⟨"/work"⟩ 0) :=
      Node.number_eq_numberFrom _ _ _
    rw [shape]
    generalize numberedFile ⟨"/work"⟩ 0 = root, numberedFile ⟨"/work"⟩ 1 = first,
      numberedFile ⟨"/work"⟩ 2 = second
    exact ⟨_, _, .right (Or.inl rfl) (.left (.act _ _ _)), rfl⟩
  -- the two runs stay closed from here on
  generalize Plain.kit.job true (Plain.duet.number ⟨"/work"⟩ 0) = job at agrees begins ⊢
  generalize (Plain.kit.job false (Plain.duet.number ⟨"/work"⟩ 0)).run Plain.stage = ending
    at agrees ⊢
  obtain ⟨later, middle, moved, journal⟩ := begins
  obtain ⟨⟨rendition, after, rest⟩, -⟩ := agrees later middle (.tail .refl moved)
  obtain ⟨-, equal⟩ := agrees (.done rendition) after (Job.Steps.head moved rest)
  exact ⟨later, middle, moved, journal, rendition, after, rest, equal rendition rfl⟩

end SpokenMarkup
