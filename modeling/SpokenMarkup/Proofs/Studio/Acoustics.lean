import SpokenMarkup.Proofs.Disk.Scratch
import SpokenMarkup.Studio.Equipment

set_option autoImplicit false

namespace SpokenMarkup

structure Booth (V : Type) where
  engine : V
  poisoned : Bool

/-- What mixing and filtering make of contents; without a result they fail. -/
structure Acoustics where
  /-- Two contents or more, one after the other. -/
  join : List ByteArray → Option ByteArray
  preset : Preset → ByteArray → Option ByteArray
  /-- What is read from the file of a recorded sound, converted. -/
  convert : Except OsError ByteArray → Option ByteArray
  /-- How a filter program ends on an input, and the output it leaves. -/
  program : Path → ByteArray → Except OsError (ExitStatus × ByteArray)

namespace Studio

variable {V : Type}

def booth (studio : Studio V) : Booth V :=
  ⟨studio.engine, studio.poisoned⟩

end Studio

def Booth.studio {V : Type} (booth : Booth V) (disk : Disk) : Studio V :=
  { disk, engine := booth.engine, poisoned := booth.poisoned }

namespace Acoustics

def joined (acoustics : Acoustics) : List ByteArray → Option ByteArray
  | [] => none
  | [only] => some only
  | parts => acoustics.join parts

/-- What a filter program makes of an input. One that cannot be started leaves it as it is. -/
def passed (acoustics : Acoustics) (program : Path) (input : ByteArray) : Option ByteArray :=
  match acoustics.program program input with
  | .error .notFound | .error .permissionDenied => some input
  | .error _ => none
  | .ok (status, output) => if status.succeeded then some output else none

end Acoustics

namespace Equipment

variable {V : Type}

def speechAudio (equipment : Equipment V) (disk : Disk) (speaker text : String) (booth : Booth V) :
    Option ByteArray × Booth V :=
  let (spoken, after) := equipment.voice.speakAs speaker text (booth.studio disk)
  (spoken.toOption, after.booth)

def effectAudio (equipment : Equipment V) (acoustics : Acoustics) (disk : Disk) (id : String) :
    Option ByteArray :=
  match equipment.assets id disk with
  | none => none
  | some asset =>
    if asset.isWave then (disk.read asset.path).toOption
    else acoustics.convert (disk.read asset.path)

def filteredAudio (equipment : Equipment V) (acoustics : Acoustics) (disk : Disk) (id : String)
    (input : ByteArray) : Option ByteArray :=
  match equipment.programFor? id disk with
  | some program => acoustics.passed program input
  | none =>
    match Preset.find? id with
    | some preset => acoustics.preset preset input
    | none => some input

end Equipment

namespace Node

variable {V : Type}

mutual

/-- The audio of a tree, if it has any, and the booth after all of its speech. -/
def audio (equipment : Equipment V) (acoustics : Acoustics) (disk : Disk) :
    Node → Booth V → Option ByteArray × Booth V
  | speech speaker text _, booth => equipment.speechAudio disk speaker text booth
  | effect id _, booth => (equipment.effectAudio acoustics disk id, booth)
  | group children _, booth =>
    let (parts, booth) := audioAll equipment acoustics disk children booth
    (acoustics.joined parts, booth)
  | filter id child _, booth =>
    let (part, booth) := audio equipment acoustics disk child booth
    (part.bind (equipment.filteredAudio acoustics disk id), booth)

def audioAll (equipment : Equipment V) (acoustics : Acoustics) (disk : Disk) :
    List Node → Booth V → List ByteArray × Booth V
  | [], booth => ([], booth)
  | node :: rest, booth =>
    let (part, booth) := audio equipment acoustics disk node booth
    let (parts, booth) := audioAll equipment acoustics disk rest booth
    (part.toList ++ parts, booth)

end

end Node

/-- A path at which a file can be made. -/
structure Disk.Vacant (disk : Disk) (output : Path) (location : Location) : Prop where
  located : disk.locate output = .ok location
  free : disk.entry? location = none
  bare : output.endsWithSlash = false
  room : FileTask.makeRoom output disk = (.ok (), disk)

/-- A task that ended with this audio at a location, or failed without audio; in either case it
changed nothing else. -/
structure Yields (audio : Option ByteArray) (location : Location) (before : Disk)
    (ending : Except Fault Unit × Disk) : Prop where
  frame : before.AgreeOff {location} ending.2
  made : ∀ bytes, audio = some bytes →
    ending.1 = .ok () ∧ ∃ executable, Disk.entry? ending.2 location = some (.file bytes executable)
  failed : audio = none → ∃ fault, ending.1 = .error fault

def Aside {V α : Type} (other : Disk) (expected actual : Reply α × V × Disk) : Prop :=
  actual.1 = expected.1 ∧ actual.2.1 = expected.2.1 ∧ other.AgreeOff ∅ actual.2.2

/-- Recorded sounds and filter programs are not looked for in the scratch folder: every disk that
differs from `disk` there only has the same ones. -/
structure Equipment.LooksAside {V : Type} (equipment : Equipment V) (disk : Disk)
    (folder : Location) : Prop where
  finds : ∀ other, disk.AgreeOff (Disk.below folder) other → ∀ id,
    equipment.assets id other = equipment.assets id disk
  opens : ∀ other, disk.AgreeOff (Disk.below folder) other → ∀ id asset,
    equipment.assets id disk = some asset → other.openFile asset.path = disk.openFile asset.path
  offers : ∀ other, disk.AgreeOff (Disk.below folder) other → ∀ id,
    equipment.programFor? id other = equipment.programFor? id disk

/--
On every disk that differs from `disk` in the scratch folder only, the equipment does to files what
the acoustics say of contents. Its tasks write their output and nothing else, its voice writes no
files, and the system carries out what is written or copied to a path of the folder at which a file
can be made.
-/
structure Acoustics.Describes {V : Type} (acoustics : Acoustics) (equipment : Equipment V)
    (disk : Disk) (folder : Location) : Prop extends equipment.LooksAside disk folder where
  writes : ∀ other, disk.AgreeOff (Disk.below folder) other → ∀ output location content,
    location ∈ Disk.below folder → other.Vacant output location →
    equipment.host.writing output content = none
  copies : ∀ other, disk.AgreeOff (Disk.below folder) other → ∀ input output location content,
    location ∈ Disk.below folder → other.Vacant output location →
    equipment.host.copying input output content = none
  activates : ∀ other, disk.AgreeOff (Disk.below folder) other → ∀ speaker engine,
    Aside other (equipment.voice.activate speaker engine disk)
      (equipment.voice.activate speaker engine other)
  utters : ∀ other, disk.AgreeOff (Disk.below folder) other → ∀ text engine,
    Aside other (equipment.voice.utter text engine disk) (equipment.voice.utter text engine other)
  joins : ∀ other, disk.AgreeOff (Disk.below folder) other → ∀ inputs output location parts,
    2 ≤ parts.length → inputs.map other.read = parts.map .ok → other.Vacant output location →
    Yields (acoustics.join parts) location other (equipment.mixer.join inputs output other)
  applies : ∀ other, disk.AgreeOff (Disk.below folder) other → ∀ preset input output location part,
    other.read input = .ok part → other.Vacant output location →
    Yields (acoustics.preset preset part) location other
      (equipment.mixer.applyPreset preset input output other)
  converts : ∀ other, disk.AgreeOff (Disk.below folder) other → ∀ input output location,
    other.Vacant output location →
    Yields (acoustics.convert (other.read input)) location other
      (equipment.mixer.convert input output other)
  refuses : ∀ other, disk.AgreeOff (Disk.below folder) other →
    ∀ id program input output location part error,
    equipment.programFor? id disk = some program → other.read input = .ok part →
    other.Vacant output location → acoustics.program program part = .error error →
    equipment.launcher program { arguments := [input.text, output.text] } other = .error error
  runs : ∀ other, disk.AgreeOff (Disk.below folder) other →
    ∀ id program input output location part status made,
    equipment.programFor? id disk = some program → other.read input = .ok part →
    other.Vacant output location → acoustics.program program part = .ok (status, made) →
    ∃ outcome after,
      equipment.launcher program { arguments := [input.text, output.text] } other =
        .ok (outcome, after) ∧ outcome.status = status ∧ other.AgreeOff {location} after ∧
      (status.succeeded = true → ∃ executable,
        after.entry? location = some (.file made executable))

end SpokenMarkup
