import SpokenMarkup.Disk.OsError
import SpokenMarkup.Disk.Path

set_option autoImplicit false

namespace SpokenMarkup

inductive SettingsFault where
  | malformed
  | blankSpeaker
  | zeroSampleRate
  | noFormats
  | formatNotBare
  | zeroThreads
deriving DecidableEq, Repr

inductive VoiceFault where
  | invalidSpeaker (name : String)
  | noModel (name : String) (model : Path)
  | noModelLoaded
  | notStarted (program : Path) (error : OsError)
  | exited (status errors : String)
  | notFed (error : OsError)
  | silent
  | notWritten (target : Path) (error : OsError)
  /-- The engine broke down during a call. -/
  | crashed
  /-- The engine broke down during an earlier call. -/
  | poisoned
  /-- What an engine of another making reports. -/
  | reported (message : String)
deriving DecidableEq, Repr

inductive AudioFault where
  | notCopied (input output : Path) (error : OsError)
  | filterNotStarted (program : Path) (error : OsError)
  | filterFailed (program : Path) (status : String)
  | nothingToJoin
  | ffmpegNotStarted (error : OsError)
  | ffmpegExited (status : String) (output : Path) (errors : String)
  /-- What a mixer of another making reports. -/
  | reported (message : String)
deriving DecidableEq, Repr

/-- Why a file that holds settings or markup cannot be read. -/
inductive ReadFault where
  | refused (error : OsError)
  | notUtf8
deriving DecidableEq, Repr

/--
Faults by cause. The last kind keeps what was attempted apart from what went wrong below it; every
other fault is one message.
-/
inductive Fault where
  | settings (fault : SettingsFault)
  | voice (fault : VoiceFault)
  | audio (fault : AudioFault)
  | effectNotFound (id : String)
  | outputDirectory (dir : Path) (error : OsError)
  | scratchDirectory (dir : Path) (error : OsError)
  | settingsFile (file : Path) (fault : ReadFault)
deriving DecidableEq, Repr

inductive FaultKind where
  | settings | voice | audio | asset | other
deriving DecidableEq, Repr

namespace SettingsFault

def message : SettingsFault → String
  | malformed => "invalid config JSON"
  | blankSpeaker => "default_speaker must be non-empty"
  | zeroSampleRate => "sample_rate must be non-zero"
  | noFormats => "asset_formats must list at least one format"
  | formatNotBare => "asset_formats entries must be bare extensions like \"wav\""
  | zeroThreads => "threads must be >= 1 when set"

end SettingsFault

namespace VoiceFault

def message : VoiceFault → String
  | invalidSpeaker name => "invalid speaker name '" ++ name ++ "'"
  | noModel name model => "no voice model for speaker '" ++ name ++ "' at '" ++ model.text ++ "'"
  | noModelLoaded => "no voice model is loaded"
  | notStarted program error =>
    "failed to spawn voice program '" ++ program.text ++ "': " ++ error.message
  | exited status errors => "voice program exited with status " ++ status ++ ": " ++ errors
  | notFed error => "failed to write text to voice program: " ++ error.message
  | silent => "voice program produced no audio"
  | notWritten target error =>
    "failed to write speech to '" ++ target.text ++ "': " ++ error.message
  | crashed => "voice engine crashed"
  | poisoned => "voice engine lock poisoned"
  | reported message => message

end VoiceFault

namespace AudioFault

def message : AudioFault → String
  | notCopied input output error =>
    "failed to copy '" ++ input.text ++ "' to '" ++ output.text ++ "': " ++ error.message
  | filterNotStarted program error =>
    "failed to run filter program '" ++ program.text ++ "': " ++ error.message
  | filterFailed program status => "filter program '" ++ program.text ++ "' failed: " ++ status
  | nothingToJoin => "nothing to concatenate"
  | ffmpegNotStarted error =>
    "failed to spawn ffmpeg (is it installed and on PATH?): " ++ error.message
  | ffmpegExited status output errors =>
    "ffmpeg exited with status " ++ status ++ " writing '" ++ output.text ++ "': " ++ errors
  | reported message => message

end AudioFault

namespace ReadFault

def message : ReadFault → String
  | refused error => error.message
  | notUtf8 => "stream did not contain valid UTF-8"

end ReadFault

namespace Fault

def kind : Fault → FaultKind
  | settings _ => .settings
  | voice _ => .voice
  | audio _ => .audio
  | effectNotFound _ => .asset
  | outputDirectory _ _ | scratchDirectory _ _ | settingsFile _ _ => .other

def message : Fault → String
  | settings fault => "config error: " ++ fault.message
  | voice fault => "voice error: " ++ fault.message
  | audio fault => "audio error: " ++ fault.message
  | effectNotFound id => "asset error: sound effect '" ++ id ++ "' not found"
  | outputDirectory dir _ => "failed to create output directory '" ++ dir.text ++ "'"
  | scratchDirectory dir _ => "failed to create scratch directory '" ++ dir.text ++ "'"
  | settingsFile file _ => "read config '" ++ file.text ++ "'"

def cause? : Fault → Option String
  | outputDirectory _ error | scratchDirectory _ error => some error.message
  | settingsFile _ fault => some fault.message
  | settings _ | voice _ | audio _ | effectNotFound _ => none

end Fault

end SpokenMarkup
