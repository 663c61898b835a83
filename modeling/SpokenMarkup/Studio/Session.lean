import SpokenMarkup.Composition.Layout
import SpokenMarkup.Composition.OfMarkup
import SpokenMarkup.Settings.Basic
import SpokenMarkup.Sound.FfmpegMixer
import SpokenMarkup.Speech.SpeechProgram
import SpokenMarkup.Studio.Equipment

set_option autoImplicit false

namespace SpokenMarkup

/--
Renders one markup after the other, each in a scratch directory of its own, which stays until what
was rendered is discarded.
-/
structure Session (V : Type) where
  settings : Settings
  equipment : Equipment V
  /-- Tells the scratch directories of this process from those of others. -/
  process : Nat

structure Take where
  /-- The scratch directory of the render. -/
  scratch : Path
  /-- The finished audio in it, if any part of the markup has audio. -/
  artifact : Option Path
deriving DecidableEq, Repr

namespace Settings

def equipment (settings : Settings) (launcher : Launcher) (host : Host) :
    Equipment LoadedVoice where
  voice := SpeechProgram.voice ⟨settings.voiceProgram, settings.modelsDir⟩ launcher
  assets := (AssetFolder.ofFormats settings.soundEffectsDir settings.assetFormats).find?
  mixer := Ffmpeg.mixer ⟨settings.ffmpeg, settings.sampleRate⟩ launcher host
  launcher
  filtersDir := settings.filtersDir
  host

end Settings

namespace Session

variable {V : Type}

def start (settings : Settings) (equipment : Equipment V) (process : Nat) :
    Except Fault (Session V) := do
  settings.check
  .ok ⟨settings, equipment, process⟩

/--
A session with the equipment that the settings name, after a look at `ffmpeg`, and what that left of
the standard input.
-/
def startWith (settings : Settings) (launcher : Launcher) (host : Host) (process : Nat)
    (input : ByteArray) : StudioTask V (Session LoadedVoice × ByteArray) := fun studio =>
  let (available, unread, disk) :=
    Ffmpeg.responds ⟨settings.ffmpeg, settings.sampleRate⟩ launcher input studio.disk
  let studio := { studio with disk }
  ((start settings (settings.equipment launcher host) process).map (·, unread),
    if available then studio else studio.noting (.ffmpegMissing settings.ffmpeg))

def scratchDir (session : Session V) (number : Nat) : Path :=
  session.settings.scratchDir.join
    ("render-" ++ toString session.process ++ "-" ++ zeroPadded 4 number)

/-- Makes the scratch directory of a render. Its number is used up even if that fails. -/
def openScratch (session : Session V) : StudioJob V Path := do
  let number ← modifyGet Studio.takeNumber
  let dir := session.scratchDir number
  Equipment.attempt fun studio =>
    let (made, disk) := studio.disk.makeDirectories dir
    (made.mapError (Fault.scratchDirectory dir), { studio with disk })
  pure dir

def record (session : Session V) (markup : String) : StudioJob V Take := do
  modify (·.noting (.renderStarted markup.length))
  let scratch ← session.openScratch
  let speaker := session.settings.defaultSpeaker
  let root := Node.ofMarkupIn scratch markup speaker
  modify (·.notingAll (compositionEvents markup speaker))
  modify (·.noting (.composed root.toList.length root.layout))
  let rendition ← session.equipment.job session.settings.parallel root
  modify (·.noting ((rendition.audio.map Event.renderFinished).getD .renderSilent))
  pure ⟨scratch, rendition.audio⟩

/-- Removes the scratch directory of a take, which may be gone already. -/
def discard (session : Session V) (take : Take) (studio : Studio V) : Studio V :=
  let (removed, disk) := session.equipment.host.removeTree take.scratch studio.disk
  let studio := { studio with disk }
  match removed with
  | .ok () | .error .notFound => studio
  | .error error => studio.noting (.scratchLeft take.scratch error)

/-- Copies the audio of a take to a file, and gives that file; a silent take leaves it alone. -/
def publish (session : Session V) (take : Take) (target : Path) : StudioJob V (Option Path) :=
  match take.artifact with
  | none => pure none
  | some artifact => do
    Equipment.attemptOnDisk (FileTask.copy session.equipment.host artifact target)
    pure (some target)

/-- Renders a markup into a file, and leaves nothing else behind. -/
def recordInto (session : Session V) (markup : String) (target : Path) :
    StudioJob V (Option Path) := ExceptT.mk do
  match ← (session.record markup).run with
  | .error fault => pure (.error fault)
  | .ok take =>
    let published ← (session.publish take target).run
    modify (session.discard take)
    pure published

end Session

end SpokenMarkup
