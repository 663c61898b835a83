import SpokenMarkup.Fault
import SpokenMarkup.Text.Blank

set_option autoImplicit false

namespace SpokenMarkup

structure Settings where
  /-- The speaker of the text before the first switch. -/
  defaultSpeaker : String := "udisen"
  /-- Where each render has its own directory. -/
  scratchDir : Path := ⟨".buffer"⟩
  soundEffectsDir : Path := ⟨"sound-effects"⟩
  /-- Extensions of sound effects, the preferred one first. -/
  assetFormats : List String := ["wav", "mp3"]
  /-- Where filter programs are found by the id of their filter. -/
  filtersDir : Path := ⟨"sound-filters"⟩
  /-- Where voice models are found by the name of their speaker. -/
  modelsDir : Path := ⟨"models"⟩
  voiceProgram : Path := ⟨"tts"⟩
  ffmpeg : Path := ⟨"ffmpeg"⟩
  sampleRate : Nat := 22050
  /-- Whether the children of a group are rendered side by side. -/
  parallel : Bool := false
  /-- How many threads render side by side, if that is set. -/
  threads : Option Nat := none
deriving DecidableEq, Repr

namespace Settings

/-- An extension without separators and dots. -/
def isBareFormat (format : String) : Bool :=
  format ≠ "" && format.toList.all fun c => c ≠ '/' && c ≠ '\\' && c ≠ '.'

/-- The first fault of the settings, in the order in which they are declared. -/
def fault? (settings : Settings) : Option SettingsFault :=
  if Text.isBlankText settings.defaultSpeaker then some .blankSpeaker
  else if settings.sampleRate = 0 then some .zeroSampleRate
  else if settings.assetFormats = [] then some .noFormats
  else if !settings.assetFormats.all isBareFormat then some .formatNotBare
  else if settings.threads = some 0 then some .zeroThreads
  else none

def check (settings : Settings) : Except Fault Unit :=
  match settings.fault? with
  | some fault => .error (.settings fault)
  | none => .ok ()

end Settings

end SpokenMarkup
