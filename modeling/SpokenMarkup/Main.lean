import SpokenMarkup.CommandLine.Transcript

set_option autoImplicit false

namespace SpokenMarkup.CommandLine

def noPrograms : Launcher :=
  fun _ _ _ => .error .permissionDenied

/-- The sounds that a markup may ask for. -/
def soundsOf (settings : Settings) (markup : String) : List Path :=
  let folder := AssetFolder.ofFormats settings.soundEffectsDir settings.assetFormats
  (Node.ofMarkup markup settings.defaultSpeaker).toList.flatMap fun node =>
    match node with
    | .effect id _ => folder.formats.map fun format => (folder.candidate id format).path
    | _ => []

/-- The files that carrying out a request reads, beside the settings. -/
def Request.soundFiles (request : Request) (disk : Disk) (input : ByteArray) : List Path :=
  match request.command, String.fromUTF8? input with
  | .say request, some text =>
    match settingsFor request.settingsFile request.speaker disk with
    | .error _ => []
    | .ok settings =>
      let markups := if request.asDocument then [oneLine text] else text.splitOn "\n"
      markups.flatMap (soundsOf settings)
  | _, _ => []

def diskAt (workingDir : Path) : Disk :=
  { (Disk.makeDirectories ⟨[], []⟩ workingDir).2 with home := workingDir.names.reverse }

def loadFiles (disk : Disk) (paths : List Path) : IO Disk :=
  paths.foldlM (fun disk path => do
    match ← (IO.FS.readBinFile path.text).toBaseIO with
    | .error _ => pure disk
    | .ok content =>
      let (_, disk) := FileTask.makeRoom path disk
      pure (Host.write {} path content disk).2) disk

/-- Writes to the machine what a run left on the disk. -/
def saveFiles (before after : Disk) : IO Unit :=
  after.entries.reverse.forM fun (location, entry) => do
    if before.entry? location != some entry then
      let name := "/" ++ "/".intercalate location.reverse
      match entry with
      | .directory => IO.FS.createDirAll name
      | .file content _ => IO.FS.writeBinFile name content

partial def readInput (input : IO.FS.Stream) (read : ByteArray) : IO ByteArray := do
  let chunk ← input.read 65536
  if chunk.isEmpty then pure read else readInput input (read ++ chunk)

def showTranscript (transcript : Transcript) : IO UInt32 := do
  IO.print transcript.output
  IO.eprint transcript.errors
  pure transcript.status.toUInt32

def showEvents (verbose : Bool) (events : List Event) : IO Unit :=
  (events.filter fun event => verbose || event.level ∉ [.debug, .span]).forM fun event =>
    IO.eprintln (" ".intercalate
      (event.message :: event.fields.map fun (name, value) => name ++ "=" ++ value))

def carryOut (request : Request) : IO UInt32 := do
  let input ← if request.readsInput then readInput (← IO.getStdin) .empty else pure .empty
  let settingsFile := match request.command with
    | .say request => request.settingsFile
    | .tree request => request.settingsFile
  let workingDir ← IO.currentDir
  let disk ← loadFiles (diskAt ⟨workingDir.toString⟩) settingsFile.toList
  let disk ← loadFiles disk (request.soundFiles disk input)
  let (transcript, studio) := request.perform noPrograms {} 0 input { disk, engine := {} }
  saveFiles disk studio.disk
  showEvents request.verbose studio.journal.toList
  showTranscript transcript

end SpokenMarkup.CommandLine

open SpokenMarkup.CommandLine in
def main (arguments : List String) : IO UInt32 :=
  match Request.ofArguments arguments with
  | .error halt => showTranscript (.ofHalt halt)
  | .ok request => carryOut request
