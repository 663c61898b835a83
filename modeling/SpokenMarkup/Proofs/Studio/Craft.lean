import SpokenMarkup.Proofs.Studio.Tasks

set_option autoImplicit false

namespace SpokenMarkup

open Disk (numbered)

abbrev Reading := Except OsError ByteArray

def Entry.reading : Option Entry → Reading
  | none => .error .notFound
  | some .directory => .error .isDirectory
  | some (.file content _) => .ok content

/--
What mixing and filtering make of what they read: what can be read of the output after that, or
nothing if they fail. An `Acoustics` says what comes of contents; a `Craft` also says what comes of
inputs that cannot be read, of outputs whose path cannot be followed, and of programs that report a
success and leave no file.
-/
structure Craft where
  /-- Two inputs or more, one after the other, with whether the output can be followed. -/
  join : Bool → List Reading → Option Reading
  preset : Preset → Bool → Reading → Option Reading
  convert : Bool → Reading → Option Reading
  /-- How a filter program ends, and what can be read of its output then. -/
  program : Path → Bool → Reading → Except OsError (ExitStatus × Reading)

/-- What is read of a file of a room that a content was written to, if it was. -/
def Host.written (host : Host) (dir : Path) (number : Nat) (content : ByteArray) : Option Reading :=
  if Disk.Fits dir number ∧ host.writing (numberedFile dir number) content = none
    then some (.ok content)
  else none

/-- What is read of a file of a room that a file with this reading was copied to, if it was. -/
def Host.duplicate (host : Host) (input dir : Path) (number : Nat) : Reading → Option Reading
  | .error _ => none
  | .ok content =>
    if Disk.Fits dir number ∧ host.copying input (numberedFile dir number) content = none
      then some (.ok content)
    else none

namespace Equipment

variable {V : Type}

def merged (equipment : Equipment V) (craft : Craft) (dir : Path) (number : Nat) :
    List (Nat × Reading) → Option Reading
  | [] => none
  | [(source, only)] => equipment.host.duplicate (numberedFile dir source) dir number only
  | parts => craft.join (Disk.Fits dir number) (parts.map Prod.snd)

theorem merged_several (equipment : Equipment V) (craft : Craft) (dir : Path) (number : Nat)
    {parts : List (Nat × Reading)} (several : 2 ≤ parts.length) :
    equipment.merged craft dir number parts =
      craft.join (Disk.Fits dir number) (parts.map Prod.snd) := by
  match parts, several with
  | _ :: _ :: _, _ => rfl

def placed (equipment : Equipment V) (craft : Craft) (disk : Disk) (dir : Path) (number : Nat)
    (id : String) : Option Reading :=
  match equipment.assets id disk with
  | none => none
  | some asset =>
    if asset.isWave then
      equipment.host.duplicate asset.path dir number (disk.read asset.path)
    else craft.convert (Disk.Fits dir number) (disk.read asset.path)

/-- What a filter program makes of an input, which is copied if there is no program to start. -/
def passed (equipment : Equipment V) (craft : Craft) (dir : Path) (source number : Nat)
    (program : Path) (input : Reading) : Option Reading :=
  match craft.program program (Disk.Fits dir number) input with
  | .error .notFound | .error .permissionDenied =>
    equipment.host.duplicate (numberedFile dir source) dir number input
  | .error _ => none
  | .ok (status, output) => if status.succeeded then some output else none

def strained (equipment : Equipment V) (craft : Craft) (disk : Disk) (dir : Path)
    (source number : Nat) (id : String) (input : Reading) : Option Reading :=
  match equipment.programFor? id disk with
  | some program => equipment.passed craft dir source number program input
  | none =>
    match Preset.find? id with
    | some preset => craft.preset preset (Disk.Fits dir number) input
    | none => equipment.host.duplicate (numberedFile dir source) dir number input

end Equipment

/-- A task that succeeded, and left something to be read of its output, or failed; in either case it
changed nothing else. -/
structure Produces (audio : Option Reading) (output : Path) (location : Location) (before : Disk)
    (ending : Except Fault Unit × Disk) : Prop where
  frame : before.AgreeOff {location} ending.2
  made : ∀ reading, audio = some reading → ending.1 = .ok () ∧ Disk.read ending.2 output = reading
  failed : audio = none → ∃ fault, ending.1 = .error fault

theorem produces_none (output : Path) (location : Location) (disk : Disk) (fault : Fault) :
    Produces none output location disk (.error fault, disk) :=
  ⟨Disk.AgreeOff.refl _ _, nofun, fun _ => ⟨fault, rfl⟩⟩

theorem Disk.read_of_located {disk : Disk} {path : Path} {location : Location}
    (located : disk.locate path = .ok location) (bare : path.endsWithSlash = false) :
    disk.read path = Entry.reading (disk.entry? location) := by
  unfold Disk.read Disk.openFile
  rw [located]
  cases held : disk.entry? location with
  | none => simp [bind, Except.bind, held, Entry.reading]
  | some entry =>
      cases entry with
      | directory => simp [bind, Except.bind, held, Entry.reading]
      | file content executable => simp [bind, Except.bind, held, Entry.reading, bare]

structure Housed (dir : Path) (folder : Location) (disk : Disk) : Prop where
  located : disk.locate dir = .ok folder
  standing : disk.entry? folder = some .directory

namespace Housed

variable {disk after : Disk} {dir : Path} {folder : Location} {number : Nat}
  (housed : Housed dir folder disk)
include housed

theorem read_numberedFile (number : Nat) :
    disk.read (numberedFile dir number) =
      if Disk.Fits dir number then Entry.reading (disk.entry? (numbered folder number))
      else .error .nameTooLong := by
  have located := Disk.locate_numberedFile housed.located housed.standing number
  by_cases fits : Disk.Fits dir number
  · rw [if_pos fits] at located ⊢
    exact Disk.read_of_located located (Disk.endsWithSlash_numberedFile housed.located number)
  · rw [if_neg fits] at located ⊢
    simp [Disk.read, Disk.openFile, located, bind, Except.bind]

theorem read_congr (stays : Housed dir folder after)
    (same : disk.entry? (numbered folder number) = after.entry? (numbered folder number)) :
    disk.read (numberedFile dir number) = after.read (numberedFile dir number) := by
  rw [housed.read_numberedFile, stays.read_numberedFile, same]

theorem read_put (fits : Disk.Fits dir number)
    (free : disk.entry? (numbered folder number) = none) (content : ByteArray) (mode : Bool) :
    (disk.put (numbered folder number) (.file content mode)).read (numberedFile dir number) =
      .ok content := by
  have keeps := Disk.keeps_put disk (numbered folder number) (.file content mode)
    (by rw [free]; exact nofun)
  have stays : Housed dir folder (disk.put (numbered folder number) (.file content mode)) :=
    ⟨keeps.locate (fun _ _ => Set.notMem_empty _) housed.located,
      keeps.directories _ (Set.notMem_empty _) housed.standing⟩
  rw [stays.read_numberedFile, if_pos fits,
    Disk.lookup_put_self _ _ _ (Disk.numbered_ne_nil folder number)]
  rfl

theorem openForWriting_long (long : ¬Disk.Fits dir number) (executable : Bool) :
    disk.openForWriting (numberedFile dir number) executable = .error .nameTooLong := by
  have located := Disk.locate_numberedFile housed.located housed.standing number
  rw [if_neg long] at located
  simp [Disk.openForWriting, Disk.endsWithSlash_numberedFile housed.located number, located, bind,
    Except.bind]

variable (free : disk.entry? (numbered folder number) = none)
include free

/-- What comes of an update of a file that is yet to be made. -/
theorem produces_update {operation : Disk → Except OsError Unit × Disk} (fault : OsError → Fault)
    {audio : Option Reading}
    (ends : (∃ error, operation disk = (.error error, disk) ∧ audio = none) ∨
      Disk.Fits dir number ∧ ∃ result content mode,
        operation disk = (result, disk.put (numbered folder number) (.file content mode)) ∧
        ((∃ error, result = .error error ∧ audio = none) ∨
          result = .ok () ∧ audio = some (.ok content))) :
    Produces audio (numberedFile dir number) (numbered folder number) disk
      ((do
        FileTask.makeRoom (numberedFile dir number)
        FileTask.update operation fault : FileTask Unit) disk) := by
  rw [task_bind_ok _ (Disk.makeRoom_numberedFile housed.located housed.standing number),
    update_apply]
  rcases ends with ⟨error, refused, rfl⟩ | ⟨fits, result, content, mode, done, ends⟩
  · rw [refused]
    exact produces_none _ _ _ _
  · rw [done]
    have frame := Disk.agreeOff_put disk (numbered folder number) (.file content mode)
    rcases ends with ⟨error, rfl, rfl⟩ | ⟨rfl, rfl⟩
    · exact ⟨frame, nofun, fun _ => ⟨_, rfl⟩⟩
    · refine ⟨frame, ?_, nofun⟩
      rintro _ ⟨⟩
      exact ⟨rfl, housed.read_put fits free content mode⟩

theorem write_produces (host : Host) (content : ByteArray) (fault : OsError → Fault) :
    Produces (host.written dir number content) (numberedFile dir number) (numbered folder number)
      disk ((do
        FileTask.makeRoom (numberedFile dir number)
        FileTask.update (host.write (numberedFile dir number) content) fault : FileTask Unit)
          disk) := by
  apply housed.produces_update free
  unfold Host.write Host.written
  by_cases fits : Disk.Fits dir number
  · have vacant := Disk.vacant_numberedFile housed.located housed.standing fits free
    rw [vacant.openForWriting_eq]
    refine Or.inr ⟨fits, ?_⟩
    unfold Host.filled
    cases host.writing (numberedFile dir number) content with
    | none => exact ⟨_, _, _, rfl, Or.inr ⟨rfl, if_pos ⟨fits, rfl⟩⟩⟩
    | some stop => exact ⟨_, _, _, rfl, Or.inl ⟨_, rfl, if_neg fun both => nomatch both.2⟩⟩
  · rw [housed.openForWriting_long fits]
    exact Or.inl ⟨_, rfl, if_neg fun both => fits both.1⟩

theorem copy_produces (host : Host) (input : Path) :
    Produces (host.duplicate input dir number (disk.read input)) (numberedFile dir number)
      (numbered folder number) disk
      (FileTask.copy host input (numberedFile dir number) disk) := by
  apply housed.produces_update free
  unfold Host.copy
  cases opened : disk.openFile input with
  | error error =>
      rw [Disk.openForCopying_of_error opened]
      simp [Disk.read, opened, Host.duplicate, bind, Except.bind]
  | ok held =>
      cases held with
      | none =>
          rw [Disk.openForCopying_of_none opened]
          simp [Disk.read, opened, Host.duplicate, bind, Except.bind]
      | some pair =>
          obtain ⟨content, executable⟩ := pair
          have read : disk.read input = .ok content := by
            simp [Disk.read, opened, bind, Except.bind]
          rw [read]
          unfold Host.duplicate
          by_cases fits : Disk.Fits dir number
          · have vacant := Disk.vacant_numberedFile housed.located housed.standing fits free
            rw [vacant.openForCopying_eq opened]
            refine Or.inr ⟨fits, ?_⟩
            unfold Host.copied
            dsimp only
            rcases host.copying input (numberedFile dir number) content with _ | _ | _
            · exact ⟨_, _, _, rfl, Or.inr ⟨rfl, if_pos ⟨fits, rfl⟩⟩⟩
            · exact ⟨_, _, _, rfl, Or.inl ⟨_, rfl, if_neg fun both => nomatch both.2⟩⟩
            · exact ⟨_, _, _, rfl, Or.inl ⟨_, rfl, if_neg fun both => nomatch both.2⟩⟩
          · have source : ∃ source, disk.locate input = .ok source := Disk.located_of_openFile opened
            obtain ⟨source, located⟩ := source
            simp only [Disk.openForCopying, located, opened, housed.openForWriting_long fits, bind,
              Except.bind]
            exact Or.inl ⟨_, rfl, if_neg fun both => fits both.1⟩

end Housed

/--
On a disk with a room, the equipment does what the craft says of what it reads, with the files of the
room that have these numbers. It writes nothing but its output.
-/
structure Craft.Governs {V : Type} (craft : Craft) (equipment : Equipment V) (disk : Disk)
    (dir : Path) (folder : Location) (last : Nat) : Prop where
  joins : ∀ (sources : List Nat), ∀ number < last, 2 ≤ sources.length →
    (∀ source ∈ sources, source < last) → disk.entry? (numbered folder number) = none →
    Produces
      (craft.join (Disk.Fits dir number) ((sources.map (numberedFile dir)).map disk.read))
      (numberedFile dir number) (numbered folder number) disk
      (equipment.mixer.join (sources.map (numberedFile dir)) (numberedFile dir number) disk)
  applies : ∀ preset, ∀ source < last, ∀ number < last,
    disk.entry? (numbered folder number) = none →
    Produces (craft.preset preset (Disk.Fits dir number) (disk.read (numberedFile dir source)))
      (numberedFile dir number) (numbered folder number) disk
      (equipment.mixer.applyPreset preset (numberedFile dir source) (numberedFile dir number) disk)
  converts : ∀ id asset, equipment.assets id disk = some asset → ∀ number < last,
    disk.entry? (numbered folder number) = none →
    Produces (craft.convert (Disk.Fits dir number) (disk.read asset.path))
      (numberedFile dir number) (numbered folder number) disk
      (equipment.mixer.convert asset.path (numberedFile dir number) disk)
  refuses : ∀ id program, equipment.programFor? id disk = some program →
    ∀ source < last, ∀ number < last, ∀ error, disk.entry? (numbered folder number) = none →
    craft.program program (Disk.Fits dir number) (disk.read (numberedFile dir source)) =
      .error error →
    equipment.launcher program
      { arguments := [(numberedFile dir source).text, (numberedFile dir number).text] } disk =
      .error error
  runs : ∀ id program, equipment.programFor? id disk = some program →
    ∀ source < last, ∀ number < last, ∀ status reading,
    disk.entry? (numbered folder number) = none →
    craft.program program (Disk.Fits dir number) (disk.read (numberedFile dir source)) =
      .ok (status, reading) →
    ∃ outcome after,
      equipment.launcher program
        { arguments := [(numberedFile dir source).text, (numberedFile dir number).text] } disk =
        .ok (outcome, after) ∧ outcome.status = status ∧
      disk.AgreeOff {numbered folder number} after ∧
      (status.succeeded = true → after.read (numberedFile dir number) = reading)

end SpokenMarkup
