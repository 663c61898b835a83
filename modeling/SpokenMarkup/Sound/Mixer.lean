import SpokenMarkup.Disk.FileTask
import SpokenMarkup.Disk.Launcher
import SpokenMarkup.Sound.Asset
import SpokenMarkup.Sound.Catalogue

set_option autoImplicit false

namespace SpokenMarkup

/-- Makes audio files from audio files. Every task writes the last path it is given. -/
structure Mixer where
  /-- The inputs one after the other. -/
  join : List Path → Path → FileTask Unit
  applyPreset : Preset → Path → Path → FileTask Unit
  /-- Any audio in the format of scratch files. -/
  convert : Path → Path → FileTask Unit

namespace Mixer

/-- Places a recorded sound: a WAV file is copied, any other is converted. -/
def place (mixer : Mixer) (host : Host) (asset : Asset) (output : Path) : FileTask Unit :=
  if asset.isWave then FileTask.copy host asset.path output else mixer.convert asset.path output

end Mixer

inductive FilterEnd where
  | success
  | failed (status : String)
  /-- There is no such program, or it may not be executed. -/
  | unavailable (reason : OsError)
deriving DecidableEq, Repr

def runFilter (launcher : Launcher) (program input output : Path) : FileTask FilterEnd := do
  FileTask.makeRoom output
  fun disk =>
    match launcher program { arguments := [input.text, output.text] } disk with
    | .error .notFound => (.ok (.unavailable .notFound), disk)
    | .error .permissionDenied => (.ok (.unavailable .permissionDenied), disk)
    | .error error => (.error (.audio (.filterNotStarted program error)), disk)
    | .ok (outcome, changed) =>
      if outcome.status.succeeded then (.ok .success, changed)
      else (.ok (.failed (outcome.status.message ++ ": " ++ outcome.complaint)), changed)

end SpokenMarkup
