import SpokenMarkup.Sound.FilterGraph
import SpokenMarkup.Sound.Mixer

set_option autoImplicit false

namespace SpokenMarkup

structure Ffmpeg where
  program : Path
  sampleRate : Nat

namespace Ffmpeg

/-- All arguments of one run: the format of the output and its path come last. -/
def arguments (ffmpeg : Ffmpeg) (work : List String) (output : Path) : List String :=
  ["-y", "-loglevel", "error"] ++ work ++
    ["-ar", toString ffmpeg.sampleRate, "-ac", "1", "-c:a", "pcm_s16le", output.text]

def produce (ffmpeg : Ffmpeg) (launcher : Launcher) (work : List String) (output : Path) :
    FileTask Unit := do
  FileTask.makeRoom output
  fun disk =>
    match launcher ffmpeg.program { arguments := ffmpeg.arguments work output } disk with
    | .error error => (.error (.audio (.ffmpegNotStarted error)), disk)
    | .ok (outcome, changed) =>
      if outcome.status.succeeded then (.ok (), changed)
      else
        (.error (.audio (.ffmpegExited outcome.status.message output outcome.complaint)), changed)

def inputArguments (input : Path) : List String :=
  ["-i", input.text]

def joinArguments (ffmpeg : Ffmpeg) (inputs : List Path) : List String :=
  inputs.flatMap inputArguments ++
    ["-filter_complex", FilterGraph.joined inputs.length ffmpeg.sampleRate, "-map", "[out]"]

def join (ffmpeg : Ffmpeg) (launcher : Launcher) (host : Host) :
    List Path → Path → FileTask Unit
  | [], _ => throw (.audio .nothingToJoin)
  | [only], output => FileTask.copy host only output
  | inputs, output => ffmpeg.produce launcher (ffmpeg.joinArguments inputs) output

def mixer (ffmpeg : Ffmpeg) (launcher : Launcher) (host : Host) : Mixer where
  join := ffmpeg.join launcher host
  applyPreset preset input output :=
    ffmpeg.produce launcher
      (inputArguments input ++ ["-af", FilterGraph.chain ffmpeg.sampleRate preset]) output
  convert input output := ffmpeg.produce launcher (inputArguments input) output

/--
Whether the program can be run at all, what is left of the standard input, which it is let at, and
the disk after it was tried.
-/
def responds (ffmpeg : Ffmpeg) (launcher : Launcher) (input : ByteArray) (disk : Disk) :
    Bool × ByteArray × Disk :=
  match launcher ffmpeg.program { arguments := ["-version"], input } disk with
  | .error _ => (false, input, disk)
  | .ok (outcome, changed) => (outcome.status.succeeded, outcome.unread, changed)

end Ffmpeg

end SpokenMarkup
