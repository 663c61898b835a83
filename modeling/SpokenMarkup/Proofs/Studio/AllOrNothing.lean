import SpokenMarkup.Proofs.Disk.Matching
import SpokenMarkup.Proofs.Studio.Acts
import SpokenMarkup.Proofs.Studio.Files

set_option autoImplicit false

namespace SpokenMarkup

open Disk (numbered)

/-- Whatever its tasks come to, the equipment writes the outputs that they are given, and its voice
writes nothing. -/
structure Equipment.WritesOutputs {V : Type} (equipment : Equipment V) : Prop where
  activates : ∀ speaker engine disk,
    Disk.AgreeOff ∅ disk (equipment.voice.activate speaker engine disk).2.2
  utters : ∀ text engine disk,
    Disk.AgreeOff ∅ disk (equipment.voice.utter text engine disk).2.2
  joins : ∀ inputs output disk, Disk.Writes output disk (equipment.mixer.join inputs output disk).2
  applies : ∀ preset input output disk,
    Disk.Writes output disk (equipment.mixer.applyPreset preset input output disk).2
  converts : ∀ input output disk,
    Disk.Writes output disk (equipment.mixer.convert input output disk).2
  runs : ∀ program (input output : Path) disk outcome after,
    equipment.launcher program { arguments := [input.text, output.text] } disk =
      .ok (outcome, after) → Disk.Writes output disk after

theorem Equipment.WritesOutputs.speaks {V : Type} {equipment : Equipment V}
    (writes : equipment.WritesOutputs) (speaker text : String) (studio : Studio V) :
    Disk.AgreeOff ∅ studio.disk (equipment.voice.speakAs speaker text studio).2.disk :=
  speakAs_disk equipment.voice (Disk.AgreeOff.refl ∅) (fun _ _ _ early late => early.trans late)
    writes.activates writes.utters speaker text studio

section Rooms

variable {V : Type} {equipment : Equipment V} {dir : Path} {folder : Location} {number : Nat}
  {disk : Disk}

theorem place_numberedFile (disk : Disk) (dir : Path) (number : Nat) :
    disk.place (numberedFile dir number) = numbered (disk.place dir) number := by
  obtain ⟨nonempty, notDot, notDots, plain, -, -⟩ :=
    (Path.isPlainName_iff _).mp (isPlainName_numberedName number)
  rw [numberedFile_eq_join, Disk.place_join disk dir nonempty plain notDot notDots]
  rfl

theorem way_numberedFile (disk : Disk) (dir : Path) (number : Nat) :
    disk.way (numberedFile dir number) = disk.way dir ++ [disk.place dir] := by
  obtain ⟨nonempty, -, -, plain, -, -⟩ :=
    (Path.isPlainName_iff _).mp (isPlainName_numberedName number)
  rw [numberedFile_eq_join, Disk.way_join disk dir nonempty plain]

theorem numberedFile_way (located : disk.locate dir = .ok folder)
    (standing : disk.entry? folder = some .directory) (number : Nat) :
    (∀ location ∈ disk.way (numberedFile dir number), disk.entry? location = some .directory) ∧
      disk.place (numberedFile dir number) = numbered folder number := by
  obtain ⟨-, passedBy, leads⟩ := (Disk.locate_eq_ok disk dir folder).mp located
  rw [way_numberedFile, place_numberedFile, leads]
  refine ⟨?_, rfl⟩
  intro location member
  rcases List.mem_append.mp member with onWay | here
  · exact passedBy location onWay
  · rw [List.mem_singleton.mp here]
    exact standing

theorem writes_after_room {output : Path} {operation : Disk → Except OsError Unit × Disk}
    {fault : OsError → Fault} (saves : Disk.Saves output operation) (disk : Disk) :
    disk.Writes output ((do
      FileTask.makeRoom output
      FileTask.update operation fault : FileTask Unit) disk).2 := by
  have room := (disk.makeRoom_grows_way output).writes
  rw [task_bind]
  generalize FileTask.makeRoom output disk = ending at room ⊢
  obtain ⟨_ | _, between⟩ := ending
  · exact room
  · simp only [update_apply]
    rcases saves between with ⟨error, refused⟩ | saved
    · rw [refused]
      exact room
    · exact room.saved saved

theorem task_writes (writes : equipment.WritesOutputs) {α : Type} {task : FileTask α}
    (listed : equipment.Task dir number task) (disk : Disk) :
    disk.Writes (numberedFile dir number) (task disk).2 := by
  have copied : ∀ input : Path,
      disk.Writes (numberedFile dir number)
        (FileTask.copy equipment.host input (numberedFile dir number) disk).2 :=
    fun input => writes_after_room (Disk.saves_copy _ input _) disk
  cases listed with
  | write audio => exact writes_after_room (Disk.saves_write _ _ audio) disk
  | place id seen asset found =>
      unfold Mixer.place
      by_cases wave : asset.isWave = true
      · rw [if_pos wave]
        exact copied asset.path
      · rw [if_neg wave]
        exact writes.converts _ _ _
  | copy source => exact copied _
  | join sources => exact writes.joins _ _ _
  | preset preset source => exact writes.applies _ _ _ _
  | filter id seen program offered source =>
      have room := (disk.makeRoom_grows_way (numberedFile dir number)).writes
      rw [runFilter, task_bind]
      generalize FileTask.makeRoom (numberedFile dir number) disk = ending at room ⊢
      obtain ⟨_ | _, between⟩ := ending
      · exact room
      · dsimp only
        cases started : equipment.launcher program
            { arguments := [(numberedFile dir source).text, (numberedFile dir number).text] }
            between with
        | error error => cases error <;> exact room
        | ok ending =>
            obtain ⟨outcome, after⟩ := ending
            have changed := room.trans (writes.runs _ _ _ _ _ _ started)
            dsimp only
            split
            · exact changed
            · exact changed

theorem task_staysIn (writes : equipment.WritesOutputs) (located : disk.locate dir = .ok folder)
    (standing : disk.entry? folder = some .directory) {α : Type} {task : FileTask α}
    (listed : equipment.Task dir number task) :
    disk.StaysIn {numbered folder number} (task disk).2 := by
  obtain ⟨way, place⟩ := numberedFile_way located standing number
  rw [← place]
  exact (task_writes writes listed disk).staysIn way

/-- The room stands, and nothing was changed outside of it since it was made. -/
structure Furnished (dir : Path) (folder : Location) (opening : Disk) (studio : Studio V) :
    Prop where
  located : studio.disk.locate dir = .ok folder
  standing : studio.disk.entry? folder = some .directory
  stays : opening.StaysIn (Disk.below folder) studio.disk

theorem Furnished.later {opening : Disk} {studio after : Studio V}
    (furnished : Furnished dir folder opening studio)
    (changed : studio.disk.StaysIn (Disk.below folder) after.disk) :
    Furnished dir folder opening after :=
  ⟨changed.locate furnished.located, changed.directories folder furnished.standing,
    furnished.stays.trans changed⟩

/-- What is left alone by what changes no files, and by all tasks, is left alone by every act. -/
theorem act_keeps (writes : equipment.WritesOutputs) (holds : Disk → Prop)
    (silent : ∀ before after, Disk.AgreeOff ∅ before after → holds before → holds after)
    (tasks : ∀ (number : Nat) {α : Type} {task : FileTask α}, equipment.Task dir number task →
      ∀ disk, holds disk → holds (task disk).2)
    {β : Type} {act : Studio V → β × Studio V} {alike : β → β → Prop}
    (listed : equipment.Act dir β act alike) (studio : Studio V) (start : holds studio.disk) :
    holds (act studio).2.disk := by
  cases listed with
  | note change idle =>
      obtain ⟨journal, same⟩ := idle studio
      dsimp only
      rw [same]
      exact start
  | look => exact start
  | speak speaker text =>
      exact silent _ _ (writes.speaks speaker text studio) start
  | onDisk number listed => exact tasks number listed studio.disk start

end Rooms

section Alone

variable {V : Type} {session : Session V} {markup : String} {studio middle : Studio V}

theorem openAs_ends (number : Nat) (studio : Studio V) :
    StudioJob.perform (session.openAs number) studio =
      ((session.makeScratch number studio).1.map fun _ => session.scratchDir number,
        (session.makeScratch number studio).2) := by
  unfold Session.openAs
  rw [StudioJob.perform_bind, StudioJob.perform_attempt]
  rcases session.makeScratch number studio with ⟨_ | _, after⟩ <;> rfl

theorem furnished_of_made (number : Nat)
    (made : (studio.disk.makeDirectories (session.scratchDir number)).1 = .ok ()) :
    Furnished (session.scratchDir number) (studio.disk.place (session.scratchDir number))
      (studio.disk.makeDirectories (session.scratchDir number)).2
      { studio with disk := (studio.disk.makeDirectories (session.scratchDir number)).2 } := by
  obtain ⟨located, held⟩ := (session.makesRoom number studio.disk).stands made
  -- a variable, as the unifier would compute the name of the room otherwise
  generalize session.scratchDir number = dir at located held ⊢
  exact ⟨located, held, Disk.StaysIn.refl _ _⟩

/-- A render that has its number makes its scratch directory, and then it renders in there; or that
is all it does. -/
inductive Opens (session : Session V) (markup : String) (number : Nat) (studio : Studio V) :
    Except Fault Take → Studio V → Prop
  | shut {error : OsError} {disk : Disk}
    (failed : studio.disk.makeDirectories (session.scratchDir number) = (.error error, disk)) :
    Opens session markup number studio
      (.error (.scratchDirectory (session.scratchDir number) error)) { studio with disk }
  | performed {disk : Disk} {outcome : Except Fault Take} {middle : Studio V}
    (made : studio.disk.makeDirectories (session.scratchDir number) = (.ok (), disk))
    (opens : Job.Steps (session.openAs number).run studio (.done (.ok (session.scratchDir number)))
      { studio with disk })
    (performs : Job.Steps (session.perform (session.scratchDir number) markup).run
      { studio with disk } (.done outcome) middle) :
    Opens session markup number studio outcome middle

theorem recordAs_opens (number : Nat) {outcome : Except Fault Take}
    (steps : Job.Steps (session.recordAs markup number).run studio (.done outcome) middle) :
    Opens session markup number studio outcome middle := by
  have straight : Job.IsStraight (ExceptT.run (session.openAs number)) := by
    refine .step _ fun result => ?_
    cases result with
    | ok value => exact .done _
    | error fault => exact .done _
  unfold Session.recordAs at steps
  rw [ExceptT.run_bind] at steps
  obtain ⟨value, between, opens, performs⟩ := Job.steps_bind steps
  have opened := (openAs_ends number studio).symm.trans (Job.run_of_steps straight opens)
  have shut := fun error disk => @Opens.shut V session markup number studio error disk
  have performed := fun disk => @Opens.performed V session markup number studio disk
  rw [Session.makeScratch_apply] at opened
  generalize studio.disk.makeDirectories (session.scratchDir number) = ending
    at opened shut performed
  obtain ⟨result, made⟩ := ending
  cases result with
  | error error =>
      obtain ⟨rfl, rfl⟩ := Prod.mk.inj opened
      obtain ⟨rfl, rfl⟩ := Job.done_of_steps performs
      exact shut error made rfl
  | ok done =>
      obtain ⟨rfl, rfl⟩ := Prod.mk.inj opened
      exact performed made rfl opens performs

/-- Whether a copy gets so far that its output is open. -/
def FileTask.opens (input output : Path) (disk : Disk) : Bool :=
  match makeRoom output disk with
  | (.error _, _) => false
  | (.ok (), room) => (room.openForCopying input output).isOk

/-- What is in the output of a copy that got so far: all of the input, or what of it was transferred
before the copy broke off. -/
inductive Host.Transfers (host : Host) (input output : Path) (content : ByteArray) :
    Except Fault Unit → ByteArray → Prop
  | whole (carried : host.copying input output content = none) :
    Transfers host input output content (.ok ()) content
  | broken {stop : Break} (stops : host.copying input output content = some stop) (fault : Fault)
    (written : Nat) : Transfers host input output content (.error fault) (content.extract 0 written)

/-- How a copy ends whose input stands and is not its output. -/
structure Copied (host : Host) (input output : Path) (before : Disk)
    (ending : Except Fault Unit × Disk) : Prop where
  shut : FileTask.opens input output before = false →
    (∃ fault, ending.1 = .error fault) ∧ Disk.Grows (before.onWay output) before ending.2
  opened : FileTask.opens input output before = true →
    ∃ content bytes mode, before.read input = .ok content ∧
      host.Transfers input output content ending.1 bytes ∧
      Disk.openFile ending.2 output = .ok (some (bytes, mode)) ∧
      ∀ location, location ≠ before.place output →
        Disk.entry? ending.2 location = before.entry? location ∨
          (location ∈ before.way output ∧ before.entry? location = none ∧
            Disk.entry? ending.2 location = some .directory)

theorem Copied.changed {host : Host} {input output : Path} {before : Disk}
    {ending : Except Fault Unit × Disk} (copied : Copied host input output before ending)
    (location : Location) :
    Disk.entry? ending.2 location = before.entry? location ∨
      (before.entry? location = none ∧ Disk.entry? ending.2 location = some .directory ∧
        location ∈ before.way output) ∨
      (location = before.place output ∧ FileTask.opens input output before = true) := by
  cases opened : FileTask.opens input output before with
  | false =>
      rcases (copied.shut opened).2.entry location with same | ⟨onWay, absent, new⟩
      · exact Or.inl same
      · exact Or.inr (Or.inl ⟨absent, new, onWay⟩)
  | true =>
      by_cases here : location = before.place output
      · exact Or.inr (Or.inr ⟨here, rfl⟩)
      · obtain ⟨-, -, -, -, -, -, elsewhere⟩ := copied.opened opened
        rcases elsewhere location here with same | ⟨onWay, absent, new⟩
        · exact Or.inl same
        · exact Or.inr (Or.inl ⟨absent, new, onWay⟩)

/-- How a call ends that puts its audio into a file, after its render came to an outcome. -/
structure Settles (session : Session V) (target : Path) (before : Studio V)
    (outcome : Except Fault Take) (middle : Studio V) (result : Except Fault (Option Path))
    (after : Studio V) : Prop where
  /-- Rendering fails only if the scratch directory cannot be made, and then the call fails so. -/
  refused : ∀ fault, outcome = .error fault → result = .error fault ∧
    ∃ error, (before.disk.makeDirectories (session.scratchDir before.renders)).1 = .error error ∧
      fault = .scratchDirectory (session.scratchDir before.renders) error
  /-- A render without audio is no failure. -/
  silent : ∀ take, outcome = .ok take → take.artifact = none → result = .ok none
  /-- What has audio fails only if it cannot be copied. -/
  published : ∀ take artifact, outcome = .ok take → take.artifact = some artifact →
    result = (FileTask.copy session.equipment.host artifact target middle.disk).1.map
      fun _ => some target
  /-- It cannot be copied if the target cannot be opened. -/
  shut : ∀ take artifact, outcome = .ok take → take.artifact = some artifact →
    FileTask.opens artifact target middle.disk = false →
    ∃ fault, (FileTask.copy session.equipment.host artifact target middle.disk).1 = .error fault
  /-- Once it is open, the target holds what was rendered, or what of it was transferred before the
  copy broke off. It is read again unless it is reached through the directory that is gone. -/
  opened : ∀ take artifact, outcome = .ok take → take.artifact = some artifact →
    FileTask.opens artifact target middle.disk = true →
    ∃ content bytes mode, middle.disk.read artifact = .ok content ∧
      session.equipment.host.Transfers artifact target content
        (FileTask.copy session.equipment.host artifact target middle.disk).1 bytes ∧
      after.disk.entry? (before.disk.place target) = some (.file bytes mode) ∧
      ((∀ location ∈ before.disk.way target,
          location ∉ Disk.within (before.disk.place (session.scratchDir before.renders))) →
        after.disk.read target = .ok bytes)
  /-- The scratch directory is gone, unless the system does not remove it. -/
  cleared : ((∃ take, outcome = .ok take) →
      session.equipment.host.removing (session.scratchDir before.renders) = none) →
    after.disk.isDirectory (session.scratchDir before.renders) = false
  /-- So is everything in it, if it could be made. -/
  emptied : ∀ take, outcome = .ok take →
    session.equipment.host.removing (session.scratchDir before.renders) = none →
    ∀ location ∈ Disk.within (before.disk.place (session.scratchDir before.renders)),
      after.disk.entry? location = none
  /-- A scratch directory that is not removed stays, and that is the last that is noted. -/
  left : ∀ take refusal, outcome = .ok take →
    session.equipment.host.removing (session.scratchDir before.renders) = some refusal →
    after.disk.entry? (before.disk.place (session.scratchDir before.renders)) = some .directory ∧
      ∃ earlier : Studio V,
        after = earlier.noting (.scratchLeft (session.scratchDir before.renders) refusal.error)
  /-- Elsewhere only the target is written, and only if it was opened for the audio; directories that
  were missing on the way may be new. -/
  untouched : ∀ location,
    location ∉ Disk.within (before.disk.place (session.scratchDir before.renders)) →
      after.disk.entry? location = before.disk.entry? location ∨
      (before.disk.entry? location = none ∧ after.disk.entry? location = some .directory ∧
        (location ∈ before.disk.trail session.settings.scratchDir ∨
          location ∈ before.disk.way target)) ∨
      (location = before.disk.place target ∧ ∃ take artifact, outcome = .ok take ∧
        take.artifact = some artifact ∧ FileTask.opens artifact target middle.disk = true)

theorem Furnished.elsewhere {number : Nat}
    (room : Furnished (session.scratchDir number) (studio.disk.place (session.scratchDir number))
      (studio.disk.makeDirectories (session.scratchDir number)).2 middle) {location : Location}
    (apart : location ∉ Disk.within (studio.disk.place (session.scratchDir number))) :
    middle.disk.entry? location = studio.disk.entry? location ∨
      (studio.disk.entry? location = none ∧ middle.disk.entry? location = some .directory ∧
        location ∈ studio.disk.trail session.settings.scratchDir) := by
  have same := room.stays.frame.entry location fun inside => apart inside.1
  rw [← same]
  rcases (session.makesRoom number studio.disk).grows.entry location with same | ⟨inside, absent, new⟩
  · exact Or.inl same
  · rcases inside with led | here
    · exact Or.inr ⟨absent, new, led⟩
    · rw [show location = _ from here] at apart
      exact absurd (List.suffix_refl _) apart

end Alone

namespace Plain

theorem save_writes (output : Path) (content : ByteArray) (disk : Disk) :
    disk.Writes output (save output content disk).2 :=
  writes_after_room (Disk.saves_write {} output content) disk

theorem writes_after_load {α : Type} {output : Path} (reader : FileTask α)
    (reads : ∀ disk, (reader disk).2 = disk) (next : α → ByteArray) (disk : Disk) :
    disk.Writes output ((do
      let value ← reader
      save output (next value) : FileTask Unit) disk).2 := by
  rw [task_bind_kept _ (reads disk)]
  cases (reader disk).1 with
  | ok value => exact save_writes output (next value) disk
  | error fault => exact Disk.Writes.refl _ _

theorem writesOutputs (sounds filters : Path) : (equipment sounds filters).WritesOutputs where
  activates speaker engine disk := Disk.AgreeOff.refl _ _
  utters text engine disk := Disk.AgreeOff.refl _ _
  joins inputs output disk :=
    writes_after_load _ (fun _ => (loadAll_congr inputs fun _ _ => rfl).2) joined disk
  applies preset input output disk :=
    writes_after_load _ (load_kept input) (marked preset.name) disk
  converts input output disk := writes_after_load _ (load_kept input) (marked "wav") disk
  runs := by
    intro path input output disk outcome after started
    obtain ⟨mark, ended⟩ := program_of_launcher started
    replace ended := (congrFun (program_apply mark input output) disk).symm.trans ended
    cases heard : disk.read input with
    | error error =>
        rw [heard] at ended
        obtain ⟨-, rfl⟩ := Prod.mk.inj ended
        exact Disk.Writes.refl _ _
    | ok content =>
        rw [heard] at ended
        simp only [respond, update_apply] at ended
        obtain ⟨-, rfl⟩ := Prod.mk.inj ended
        rcases Disk.saves_write {} output (mark ++ content) disk with ⟨error, refused⟩ | saved
        · rw [refused]
          exact Disk.Writes.refl _ _
        · exact (Disk.Writes.refl _ _).saved saved

end Plain

namespace Plain

end Plain

end SpokenMarkup
