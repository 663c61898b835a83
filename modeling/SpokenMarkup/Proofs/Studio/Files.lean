import SpokenMarkup.Proofs.Disk.Growth
import SpokenMarkup.Proofs.Studio.Amid
import SpokenMarkup.Proofs.Studio.Plain

set_option autoImplicit false

namespace SpokenMarkup

/-- A task that takes nothing away, and leaves a file at its output if it succeeds. -/
structure Leaves (output : Path) (before : Disk) (ending : Except Fault Unit × Disk) : Prop where
  keeps : before.Keeps ∅ ending.2
  isFile : ending.1 = .ok () → ending.2.isFile output = true

/-- All tasks of the equipment take nothing away, and those that succeed leave a file at their
output; so does every filter program that exits with 0. -/
structure Equipment.LeavesFiles {V : Type} (equipment : Equipment V) : Prop where
  activates : ∀ speaker engine disk,
    Disk.Keeps ∅ disk (equipment.voice.activate speaker engine disk).2.2
  utters : ∀ text engine disk, Disk.Keeps ∅ disk (equipment.voice.utter text engine disk).2.2
  joins : ∀ inputs output disk, Leaves output disk (equipment.mixer.join inputs output disk)
  applies : ∀ preset input output disk,
    Leaves output disk (equipment.mixer.applyPreset preset input output disk)
  converts : ∀ input output disk,
    Leaves output disk (equipment.mixer.convert input output disk)
  runs : ∀ program call disk outcome after,
    equipment.launcher program call disk = .ok (outcome, after) → Disk.Keeps ∅ disk after
  succeeds : ∀ program (input output : Path) disk outcome after,
    equipment.launcher program { arguments := [input.text, output.text] } disk =
      .ok (outcome, after) → outcome.status.succeeded = true → after.isFile output = true

mutual

/-- Whatever is said to have audio, here and in all parts, has a file. -/
def Rendition.Stands (disk : Disk) : Rendition → Prop
  | ⟨audio, parts⟩ => (∀ path ∈ audio, disk.isFile path = true) ∧ StandAll disk parts

def Rendition.StandAll (disk : Disk) : List Rendition → Prop
  | [] => True
  | part :: rest => Rendition.Stands disk part ∧ StandAll disk rest

end

mutual

theorem Rendition.Stands.keeps {before after : Disk} (kept : before.Keeps ∅ after)
    (rendition : Rendition) (stands : rendition.Stands before) : rendition.Stands after := by
  obtain ⟨audio, parts⟩ := rendition
  exact ⟨fun path member => kept.isFile (stands.1 path member),
    Rendition.StandAll.keeps kept parts stands.2⟩

theorem Rendition.StandAll.keeps {before after : Disk} (kept : before.Keeps ∅ after)
    (renditions : List Rendition) (stand : Rendition.StandAll before renditions) :
    Rendition.StandAll after renditions := by
  cases renditions with
  | nil => trivial
  | cons part rest =>
      exact ⟨Rendition.Stands.keeps kept part stand.1, Rendition.StandAll.keeps kept rest stand.2⟩

end

theorem leaves_after_room (output : Path) (task : FileTask Unit)
    (leaves : ∀ disk, Leaves output disk (task disk)) (disk : Disk) :
    Leaves output disk ((do FileTask.makeRoom output; task : FileTask Unit) disk) := by
  have grows := FileTask.makeRoom_grows output disk
  rw [task_bind]
  generalize FileTask.makeRoom output disk = ending at grows ⊢
  obtain ⟨result, made⟩ := ending
  cases result with
  | error fault => exact ⟨grows.keeps, nofun⟩
  | ok value =>
      obtain ⟨keeps, isFile⟩ := leaves made
      exact ⟨grows.keeps.trans keeps, isFile⟩

theorem leaves_update {output : Path} {operation : Disk → Except OsError Unit × Disk}
    (fault : OsError → Fault) (saves : Disk.Saves output operation) (disk : Disk) :
    Leaves output disk (FileTask.update operation fault disk) := by
  have saved := saves disk
  rw [update_apply]
  generalize operation disk = ending at saved ⊢
  obtain ⟨result, after⟩ := ending
  rcases saved with ⟨error, refused⟩ | saved
  · obtain ⟨rfl, rfl⟩ := Prod.mk.inj refused
    exact ⟨Disk.Keeps.refl _ _, nofun⟩
  · exact ⟨saved.keeps, fun _ => saved.isFile⟩

theorem leaves_copy (host : Host) (input output : Path) (disk : Disk) :
    Leaves output disk (FileTask.copy host input output disk) :=
  leaves_after_room output _ (leaves_update _ (Disk.saves_copy host input output)) disk

theorem runFilter_leaves {V : Type} {equipment : Equipment V} (leaves : equipment.LeavesFiles)
    (program input target : Path) (disk : Disk) :
    disk.Keeps ∅ (runFilter equipment.launcher program input target disk).2 ∧
      ((runFilter equipment.launcher program input target disk).1 = .ok .success →
        (runFilter equipment.launcher program input target disk).2.isFile target = true) := by
  have grows := FileTask.makeRoom_grows target disk
  rw [runFilter, task_bind]
  generalize FileTask.makeRoom target disk = ending at grows ⊢
  obtain ⟨result, made⟩ := ending
  have keeps : disk.Keeps ∅ made := grows.keeps
  cases result with
  | error fault => exact ⟨keeps, nofun⟩
  | ok value =>
      simp only
      cases started : equipment.launcher program { arguments := [input.text, target.text] } made with
      | error error => cases error <;> exact ⟨keeps, nofun⟩
      | ok outcome =>
          obtain ⟨outcome, after⟩ := outcome
          have runs := leaves.runs program _ made outcome after started
          cases succeeded : outcome.status.succeeded with
          | true =>
              simp only [succeeded, if_true]
              exact ⟨keeps.trans runs,
                fun _ => leaves.succeeds program input target made outcome after started succeeded⟩
          | false =>
              simp only [succeeded, Bool.false_eq_true, if_false]
              exact ⟨keeps.trans runs, nofun⟩

section Work

variable {V : Type} {equipment : Equipment V} {kept : Studio V → Prop}

def keeping (before after : Studio V) : Prop :=
  before.disk.Keeps ∅ after.disk

theorem stable_isFile (path : Path) :
    Job.Stable keeping fun studio : Studio V => studio.disk.isFile path = true :=
  fun _ _ keeps found => keeps.isFile found

theorem Stable.and {first second : Studio V → Prop} (early : Job.Stable keeping first)
    (late : Job.Stable keeping second) :
    Job.Stable keeping fun studio => first studio ∧ second studio :=
  fun _ _ keeps holds => ⟨early _ _ keeps holds.1, late _ _ keeps holds.2⟩

theorem speakAs_keeps (leaves : equipment.LeavesFiles) (speaker text : String)
    (studio : Studio V) : keeping studio (equipment.voice.speakAs speaker text studio).2 :=
  speakAs_disk equipment.voice (Disk.Keeps.refl ∅) (fun _ _ _ early late => early.trans late)
    leaves.activates leaves.utters speaker text studio

/-- A job that leaves a file if it succeeds; whatever is kept by all others is kept, too. -/
def Makes {α : Type} (kept : Studio V → Prop) (target : Path) (work : StudioJob V α) : Prop :=
  StudioJob.Ensures keeping keeping kept work
    (fun _ studio => studio.disk.isFile target = true ∧ kept studio) kept

variable (stable : Job.Stable keeping kept)
include stable

theorem ensures_noting (event : Event) :
    StudioJob.Ensures keeping keeping kept
      (modify (·.noting event) : StudioJob V PUnit) (fun _ => kept) kept := by
  refine StudioJob.ensures_modify stable stable ?_
  intro studio holds
  have keeps : keeping studio (studio.noting event) := Disk.Keeps.refl _ _
  exact ⟨keeps, stable _ _ keeps holds⟩

theorem makes_onDisk {target : Path} {task : FileTask Unit}
    (leaves : ∀ disk, Leaves target disk (task disk)) :
    Makes kept target (Equipment.attemptOnDisk task : StudioJob V Unit) := by
  refine StudioJob.ensures_attempt stable (fun _ => Stable.and (stable_isFile target) stable)
    stable ?_
  intro studio holds
  have keeps : keeping studio (Studio.onDisk task studio).2 := (leaves studio.disk).keeps
  refine ⟨keeps, ?_⟩
  have isFile := (leaves studio.disk).isFile
  have still := stable _ _ keeps holds
  unfold Studio.onDisk at still ⊢
  generalize task studio.disk = ending at isFile still ⊢
  obtain ⟨result, after⟩ := ending
  cases result with
  | ok value => exact ⟨isFile rfl, still⟩
  | error fault => exact still

theorem makes_after {α β : Type} {target : Path} {first : StudioJob V α}
    {next : α → StudioJob V β}
    (begins : StudioJob.Ensures keeping keeping kept first (fun _ => kept) kept)
    (makes : ∀ value, Makes kept target (next value)) : Makes kept target (first >>= next) :=
  StudioJob.ensures_bind (fun _ => kept) stable begins makes

theorem makes_speech (leaves : equipment.LeavesFiles) (speaker text : String) (target : Path) :
    Makes kept target (equipment.speech speaker text target) := by
  refine makes_after stable (ensures_noting stable _) fun _ => ?_
  refine makes_after stable ?_ fun content => ?_
  · refine StudioJob.ensures_attempt stable (fun _ => stable) stable ?_
    intro studio holds
    have keeps := speakAs_keeps leaves speaker text studio
    have still := stable _ _ keeps holds
    refine ⟨keeps, ?_⟩
    cases (equipment.voice.speakAs speaker text studio).1 with
    | ok value => exact still
    | error fault => exact still
  · exact makes_onDisk stable (leaves_after_room target _
      (leaves_update _ (Disk.saves_write equipment.host target content)))

theorem makes_effect (leaves : equipment.LeavesFiles) (id : String) (target : Path) :
    Makes kept target (equipment.effect id target) := by
  refine makes_after stable (ensures_noting stable _) fun _ => ?_
  refine makes_after stable ?_ fun seen => ?_
  · exact StudioJob.ensures_get stable (fun _ => stable)
      fun studio holds => ⟨Disk.Keeps.refl _ _, holds⟩
  · cases equipment.assets id seen.disk with
    | none => exact StudioJob.ensures_throw _ (fun _ holds => holds) stable
    | some asset =>
        refine makes_onDisk stable ?_
        intro disk
        rw [Mixer.place]
        by_cases wave : asset.isWave = true
        · rw [if_pos wave]
          exact leaves_copy equipment.host asset.path target disk
        · rw [if_neg wave]
          exact leaves.converts asset.path target disk

/-- A job that tells whether there is a file now. -/
def Tells (kept : Studio V → Prop) (target : Path) (work : StudioJob V Bool) : Prop :=
  StudioJob.Ensures keeping keeping kept work
    (fun value studio => (value = true → studio.disk.isFile target = true) ∧ kept studio) kept

omit stable in
theorem stable_tells (stable : Job.Stable keeping kept) (target : Path) (told : Prop) :
    Job.Stable keeping fun studio : Studio V =>
      (told → studio.disk.isFile target = true) ∧ kept studio :=
  Stable.and (fun _ _ keeps found holds => keeps.isFile (found holds)) stable

theorem Makes.tells {target : Path} {work : StudioJob V Unit} (makes : Makes kept target work) :
    Tells kept target (do work; pure true : StudioJob V Bool) :=
  StudioJob.ensures_bind _ stable makes fun _ =>
    StudioJob.ensures_pure true (fun _ holds => ⟨fun _ => holds.1, holds.2⟩)
      (stable_tells stable target _)

theorem makes_filtered (leaves : equipment.LeavesFiles) (id : String) (input target : Path) :
    Makes kept target (equipment.filtered id input target) := by
  have copied : Makes kept target (Equipment.attemptOnDisk
      (FileTask.copy equipment.host input target)) :=
    makes_onDisk stable (leaves_copy equipment.host input target)
  refine makes_after stable (ensures_noting stable _) fun _ => ?_
  refine makes_after stable ?_ fun seen => ?_
  · exact StudioJob.ensures_get stable (fun _ => stable)
      fun studio holds => ⟨Disk.Keeps.refl _ _, holds⟩
  · cases equipment.programFor? id seen.disk with
    | none =>
        simp only [Equipment.builtInFilter]
        cases Preset.find? id with
        | none => exact makes_after stable (ensures_noting stable _) fun _ => copied
        | some preset => exact makes_onDisk stable (leaves.applies preset input target)
    | some program =>
        -- only a program that succeeds has to leave the file itself
        refine StudioJob.ensures_bind (fun ending studio =>
          (ending = .success → studio.disk.isFile target = true) ∧ kept studio) stable ?_ ?_
        · refine StudioJob.ensures_attempt stable ?_ stable ?_
          · intro ending
            exact Stable.and (fun _ _ keeps found same => keeps.isFile (found same)) stable
          · intro studio holds
            obtain ⟨keeps, isFile⟩ := runFilter_leaves leaves program input target studio.disk
            have keep : keeping studio
                (Studio.onDisk (runFilter equipment.launcher program input target) studio).2 := keeps
            refine ⟨keep, ?_⟩
            have still := stable _ _ keep holds
            unfold Studio.onDisk at still ⊢
            generalize runFilter equipment.launcher program input target studio.disk = ending
              at isFile still ⊢
            obtain ⟨result, after⟩ := ending
            cases result with
            | ok value => exact ⟨fun same => isFile (congrArg Except.ok same), still⟩
            | error fault => exact still
        · intro ending
          cases ending with
          | success =>
              refine StudioJob.ensures_pure _ ?_ (Stable.and (stable_isFile target) stable)
              intro studio holds
              exact ⟨holds.1 rfl, holds.2⟩
          | failed status =>
              exact StudioJob.ensures_throw _ (fun _ holds => holds.2) stable
          | unavailable reason =>
              refine Job.Ensures.mono (makes_after stable (ensures_noting stable _) fun _ => copied)
                (fun _ _ keeps => keeps) (fun _ _ keeps => keeps) (fun _ holds => holds.2)
                fun _ _ holds => holds

theorem joined_tells (leaves : equipment.LeavesFiles) (files : List Path) (target : Path) :
    Tells kept target (equipment.joined files target) := by
  match files with
  | [] =>
      exact StudioJob.ensures_pure false (fun _ holds => ⟨nofun, holds⟩)
        (stable_tells stable target _)
  | [only] => exact Makes.tells stable (makes_onDisk stable (leaves_copy _ only target))
  | first :: second :: rest =>
      exact Makes.tells stable (makes_onDisk stable (leaves.joins (first :: second :: rest) target))

/-- A node that is said to have audio has its own file. -/
theorem ensures_conclude {target : Path} {work : StudioJob V Bool} (parts : List Rendition)
    (tells : Tells kept target work) :
    Job.Ensures keeping keeping kept (Equipment.conclude target parts work)
      fun rendition studio => (rendition.parts = parts ∧ ∀ path ∈ rendition.audio,
        path = target ∧ studio.disk.isFile path = true) ∧ kept studio := by
  refine Job.ensures_bind _ tells ?_
  intro result
  rcases result with fault | _ | _
  · refine Job.ensures_step (fun _ => kept) stable ?_ ?_
    · intro studio holds
      have keeps : keeping studio (studio.noting (.nodeDropped target fault)) :=
        Disk.Keeps.refl _ _
      exact ⟨keeps, stable _ _ keeps holds⟩
    · intro _
      exact Job.ensures_done _ (fun _ holds => ⟨⟨rfl, nofun⟩, holds⟩)
        fun _ _ keeps holds => ⟨⟨rfl, nofun⟩, stable _ _ keeps holds.2⟩
  · exact Job.ensures_done _ (fun _ holds => ⟨⟨rfl, nofun⟩, holds.2⟩)
      fun _ _ keeps holds => ⟨⟨rfl, nofun⟩, stable _ _ keeps holds.2⟩
  · refine Job.ensures_done _ ?_ ?_
    · intro studio holds
      refine ⟨⟨rfl, ?_⟩, holds.2⟩
      intro path member
      cases member
      exact ⟨rfl, holds.1 rfl⟩
    · intro studio after keeps holds
      refine ⟨⟨rfl, ?_⟩, stable _ _ keeps holds.2⟩
      intro path member
      obtain ⟨own, found⟩ := holds.1.2 path member
      exact ⟨own, Disk.Keeps.isFile keeps found⟩

end Work

section Tree

variable {V : Type} {equipment : Equipment V}

/-- What came of a node stands, and its audio is in the file of the node. -/
def Node.Holds (node : Node) (rendition : Rendition) (studio : Studio V) : Prop :=
  rendition.Stands studio.disk ∧ ∀ path ∈ rendition.audio, node.target = some path

theorem stable_standAll (parts : List Rendition) :
    Job.Stable keeping fun studio : Studio V => Rendition.StandAll studio.disk parts :=
  fun _ _ keeps stand => Rendition.StandAll.keeps keeps parts stand

/-- A node whose parts stand stands, once the work on it is concluded. -/
theorem conclude_holds (node : Node) {target : Path} (named : node.target = some target)
    {work : StudioJob V Bool} (parts : List Rendition)
    (tells : Tells (fun studio => Rendition.StandAll studio.disk parts) target work) :
    Job.Ensures keeping keeping (fun studio => Rendition.StandAll studio.disk parts)
      (Equipment.conclude target parts work) node.Holds := by
  refine Job.Ensures.mono (ensures_conclude (stable_standAll parts) parts tells)
    (fun _ _ keeps => keeps) (fun _ _ keeps => keeps) (fun _ stand => stand) ?_
  rintro ⟨audio, rest⟩ studio ⟨⟨same, own⟩, stand⟩
  obtain rfl : rest = parts := same
  refine ⟨⟨fun path member => (own path member).2, stand⟩, ?_⟩
  intro path member
  rw [named, (own path member).1]

theorem unnamed_holds (node : Node) : Job.Ensures (σ := Studio V) keeping keeping (fun _ => True)
    Equipment.unnamed node.Holds := by
  refine Job.ensures_step (fun _ _ => True) (fun _ _ _ _ => trivial) ?_ ?_
  · intro studio _
    exact ⟨Disk.Keeps.refl _ _, trivial⟩
  · intro _
    exact Job.ensures_done _ (fun _ _ => ⟨⟨nofun, trivial⟩, nofun⟩)
      fun _ _ _ _ => ⟨⟨nofun, trivial⟩, nofun⟩

mutual

/-- The job of a tree, amid others that take nothing away. -/
theorem job_holds (leaves : equipment.LeavesFiles) (sideBySide : Bool) (node : Node) :
    Job.Ensures keeping keeping (fun _ => True) (equipment.job sideBySide node) node.Holds := by
  have still : Job.Stable keeping fun studio : Studio V => Rendition.StandAll studio.disk [] :=
    stable_standAll []
  match node with
  | .group _ none | .speech _ _ none | .effect _ none | .filter _ _ none =>
      exact unnamed_holds _
  | .speech speaker text (some target) =>
      exact conclude_holds _ rfl []
        (Makes.tells still (makes_speech still leaves speaker text target))
  | .effect id (some target) =>
      exact conclude_holds _ rfl [] (Makes.tells still (makes_effect still leaves id target))
  | .group children (some target) =>
      refine Job.ensures_bind _ (jobs_stand leaves sideBySide children) ?_
      intro parts
      exact conclude_holds _ rfl parts (joined_tells (stable_standAll parts) leaves _ target)
  | .filter id child (some target) =>
      refine Job.ensures_bind _ (job_holds leaves sideBySide child) ?_
      intro part
      cases audible : part.audio with
      | none =>
          refine Job.ensures_done _ ?_ ?_
          · intro studio holds
            exact ⟨⟨nofun, holds.1, trivial⟩, nofun⟩
          · intro studio after keeps holds
            exact ⟨Rendition.Stands.keeps keeps _ holds.1, nofun⟩
      | some input =>
          refine Job.Ensures.mono (conclude_holds _ rfl [part]
            (Makes.tells (stable_standAll [part])
              (makes_filtered (stable_standAll [part]) leaves id input target)))
            (fun _ _ keeps => keeps) (fun _ _ keeps => keeps) ?_ fun _ _ holds => holds
          intro studio holds
          exact ⟨holds.1, trivial⟩

theorem jobs_stand (leaves : equipment.LeavesFiles) (sideBySide : Bool) (nodes : List Node) :
    Job.Ensures keeping keeping (fun _ => True) (equipment.jobs sideBySide nodes)
      fun parts (studio : Studio V) => Rendition.StandAll studio.disk parts := by
  cases nodes with
  | nil => exact Job.ensures_done _ (fun _ _ => trivial) (stable_standAll [])
  | cons node rest =>
      refine Job.ensures_both (fun studio => Disk.Keeps.refl _ studio.disk)
        (fun _ _ keeps => ⟨keeps, keeps⟩) (fun _ _ keeps => keeps.elim id id)
        (fun _ _ keeps => keeps) (fun _ _ keeps => keeps) (fun _ _ => ⟨trivial, trivial⟩)
        (job_holds leaves sideBySide node) (jobs_stand leaves sideBySide rest) ?_
      intro part parts
      exact Job.ensures_done _ (fun _ holds => ⟨holds.1.1, holds.2⟩) (stable_standAll (part :: parts))

end

/--
Where every filter program that exits with 0 leaves a file at its output, and nothing is taken
away: a node that is said to have audio has its own file, whatever goes on beside it, and so has
every part of it.
-/
theorem rendered_nodes_have_files (equipment : Equipment V) (leaves : equipment.LeavesFiles)
    (sideBySide : Bool) (node : Node) (studio after : Studio V) (rendition : Rendition)
    (amid : Job.Amid (fun before later => before.disk.Keeps ∅ later.disk)
      (equipment.job sideBySide node) studio (.done rendition) after) :
    rendition.Stands after.disk ∧ ∀ path ∈ rendition.audio,
      node.target = some path ∧ after.disk.isFile path = true := by
  obtain ⟨stands, own⟩ := (job_holds leaves sideBySide node studio trivial _ after amid).2 _ rfl
  refine ⟨stands, ?_⟩
  intro path member
  obtain ⟨audio, parts⟩ := rendition
  exact ⟨own path member, stands.1 path member⟩

end Tree

namespace Plain

theorem leaves_after_load {α : Type} {output : Path} (reader : FileTask α)
    (reads : ∀ disk, (reader disk).2 = disk) (next : α → FileTask Unit)
    (leaves : ∀ value disk, Leaves output disk (next value disk)) (disk : Disk) :
    Leaves output disk ((reader >>= next) disk) := by
  rw [task_bind_kept _ (reads disk)]
  cases (reader disk).1 with
  | ok value => exact leaves value disk
  | error fault => exact ⟨Disk.Keeps.refl _ _, nofun⟩

theorem save_leaves (output : Path) (content : ByteArray) (disk : Disk) :
    Leaves output disk (save output content disk) :=
  leaves_after_room output _ (leaves_update _ (Disk.saves_write {} output content)) disk

theorem respond_leaves (mark : ByteArray) (output : Path) (heard : Except OsError ByteArray)
    (disk : Disk) : disk.Keeps ∅ (respond mark output heard disk).2 ∧
      ((respond mark output heard disk).1.status.succeeded = true →
        (respond mark output heard disk).2.isFile output = true) := by
  cases heard with
  | error error => exact ⟨Disk.Keeps.refl _ _, nofun⟩
  | ok content =>
      let task := FileTask.update (Host.write {} output (mark ++ content))
        (.audio <| .reported <| OsError.message ·)
      have written : Leaves output disk (task disk) :=
        leaves_update _ (Disk.saves_write {} output (mark ++ content)) disk
      have equal : respond mark output (.ok content) disk =
        (outcome (task disk).1, (task disk).2) := rfl
      rw [equal]
      generalize task disk = ending at written ⊢
      obtain ⟨result, after⟩ := ending
      cases result with
      | ok value => exact ⟨written.keeps, fun _ => written.isFile rfl⟩
      | error fault => exact ⟨written.keeps, nofun⟩

theorem program_of_launcher {path : Path} {call : Invocation} {disk after : Disk}
    {outcome : Outcome} (started : launcher path call disk = .ok (outcome, after)) :
    ∃ content, program content call disk = (outcome, after) := by
  unfold launcher Launcher.ofFiles at started
  by_cases nul : call.hasNul = true
  · simp [nul, bind, Except.bind, throw, throwThe, MonadExceptOf.throw] at started
  · cases held : disk.executable path with
    | error error => simp [nul, held, bind, Except.bind] at started
    | ok content =>
        by_cases long : call.isTooLong path = true
        · simp [nul, held, long, bind, Except.bind, throw, throwThe,
            MonadExceptOf.throw] at started
        · simp only [nul, held, long, bind, Except.bind, pure, Except.pure, Bool.false_eq_true,
            if_false, Except.ok.injEq] at started
          exact ⟨content, started⟩

theorem leavesFiles (sounds filters : Path) : (equipment sounds filters).LeavesFiles where
  activates speaker engine disk := Disk.Keeps.refl _ _
  utters text engine disk := Disk.Keeps.refl _ _
  joins inputs output disk :=
    leaves_after_load _ (fun _ => (loadAll_congr inputs fun _ _ => rfl).2) _
      (fun contents => save_leaves output (joined contents)) disk
  applies preset input output disk :=
    leaves_after_load _ (load_kept input) _
      (fun content => save_leaves output (marked preset.name content)) disk
  converts input output disk :=
    leaves_after_load _ (load_kept input) _
      (fun content => save_leaves output (marked "wav" content)) disk
  runs := by
    intro path call disk outcome after started
    obtain ⟨content, ended⟩ := program_of_launcher started
    unfold program at ended
    split at ended
    · rename_i input output _
      have leaves := respond_leaves content ⟨output⟩ (disk.read ⟨input⟩) disk
      rw [ended] at leaves
      exact leaves.1
    · obtain ⟨-, rfl⟩ := Prod.mk.inj ended
      exact Disk.Keeps.refl _ _
  succeeds := by
    intro path input output disk outcome after started succeeded
    obtain ⟨content, ended⟩ := program_of_launcher started
    have leaves := respond_leaves content output (disk.read input) disk
    rw [(congrFun (program_apply content input output) disk).symm.trans ended] at leaves
    exact leaves.2 succeeded

def mute : Equipment (Option String) :=
  { kit with
    launcher := Launcher.ofFiles fun _ => .ok fun _ disk => ({ status := .exited 0 }, disk) }

def half : Node :=
  .group [.speech "a" "one", .filter "loud" (.speech "a" "two")]

end Plain

theorem rendered_nodes_have_files_in_house :
    let ending := (Plain.kit.job true (Plain.half.number ⟨"/work"⟩ 0)).run Plain.stage
    ending.1.Stands ending.2.disk ∧ ending.1.audio = some ⟨"/work/000.wav"⟩ ∧
      ending.2.disk.isFile ⟨"/work/000.wav"⟩ = true := by
  have files := rendered_nodes_have_files Plain.kit (Plain.leavesFiles _ _) true _ Plain.stage _ _
    (Job.amid_run (Plain.kit.job true (Plain.half.number ⟨"/work"⟩ 0)) Plain.stage)
  have audible : ((Plain.kit.job true (Plain.half.number ⟨"/work"⟩ 0)).run Plain.stage).1.audio =
      some ⟨"/work/000.wav"⟩ := by
    decide +kernel
  -- the run stays closed from here on
  generalize (Plain.kit.job true (Plain.half.number ⟨"/work"⟩ 0)).run Plain.stage = ending
    at files audible ⊢
  exact ⟨files.1, audible, (files.2 _ audible).2⟩

/-- A mute program makes a node of which it is said to have audio, but there is no file, and the
group around it fails. -/
theorem rendered_node_without_file :
    let ending := (Plain.mute.job false (Plain.half.number ⟨"/work"⟩ 0)).run Plain.stage
    ending.1.parts.map (·.audio) = [some ⟨"/work/001.wav"⟩, some ⟨"/work/002.wav"⟩] ∧
      ending.2.disk.isFile ⟨"/work/001.wav"⟩ = true ∧
      ending.2.disk.isFile ⟨"/work/002.wav"⟩ = false ∧ ending.1.audio = none := by
  decide +kernel

end SpokenMarkup
