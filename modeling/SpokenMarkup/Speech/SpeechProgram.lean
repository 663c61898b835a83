import SpokenMarkup.Disk.Launcher
import SpokenMarkup.Speech.Voice

set_option autoImplicit false

namespace SpokenMarkup

structure SpeechProgram where
  program : Path
  /-- The folder that holds one model for each speaker, under the name of the speaker. -/
  modelsDir : Path

/-- What is loaded: the name of a speaker, and the model that the program is given. -/
structure LoadedVoice where
  speaker : Option String := none
  model : Option Path := none
deriving DecidableEq, Repr

namespace SpeechProgram

/-- Where the model of a speaker has to be. A name that could lead out of the folder has none. -/
def modelFile? (speech : SpeechProgram) (speaker : String) : Option Path :=
  if Path.isPlainName speaker then some (speech.modelsDir.join speaker) else none

def modelFor (speech : SpeechProgram) (speaker : String) (disk : Disk) : Except VoiceFault Path :=
  match speech.modelFile? speaker with
  | none => .error (.invalidSpeaker speaker)
  | some model =>
    if disk.isFile model then .ok model else .error (.noModel speaker model)

/-- The audio a program left, if it read the whole text, wrote anything and ended well. -/
def audioOf (outcome : Outcome) : Except VoiceFault ByteArray :=
  if !outcome.status.succeeded then .error (.exited outcome.status.message outcome.complaint)
  else
    match outcome.unfed with
    | some error => .error (.notFed error)
    | none => if outcome.output.isEmpty then .error .silent else .ok outcome.output

def speakWith (speech : SpeechProgram) (launcher : Launcher) (model : Path) (text : String)
    (disk : Disk) : Except VoiceFault ByteArray × Disk :=
  match launcher speech.program ⟨[model.text], text.toUTF8⟩ disk with
  | .error error => (.error (.notStarted speech.program error), disk)
  | .ok (outcome, changed) => (audioOf outcome, changed)

def reply {α : Type} : Except VoiceFault α → Reply α
  | .ok value => .done value
  | .error fault => .failed (.voice fault)

/-- The engine. A speaker without a model leaves what is loaded in place. -/
def voice (speech : SpeechProgram) (launcher : Launcher) : Voice LoadedVoice where
  active loaded := loaded.speaker
  activate speaker loaded disk :=
    match speech.modelFor speaker disk with
    | .ok model => (.done (), { loaded with speaker := speaker, model := model }, disk)
    | .error fault => (.failed (.voice fault), loaded, disk)
  utter text loaded disk :=
    match loaded.model with
    | none => (.failed (.voice .noModelLoaded), loaded, disk)
    | some model =>
      let (audio, changed) := speech.speakWith launcher model text disk
      (reply audio, loaded, changed)

end SpeechProgram

end SpokenMarkup
