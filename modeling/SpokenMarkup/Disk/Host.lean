import SpokenMarkup.Disk.Basic

set_option autoImplicit false

namespace SpokenMarkup

/-- Where a copy breaks off, with its output open and empty. -/
inductive Break where
  /-- The output does not get the mode of the input. -/
  | mode (error : OsError)
  /-- No more than some bytes are transferred. -/
  | transfer (written : Nat) (error : OsError)
deriving DecidableEq

/-- Why a directory that is there stays, and what stays in it. -/
structure Refusal where
  error : OsError
  /-- What is there is not missing. -/
  standing : error ≠ .notFound
  spares : Location → Bool
  /-- What stays, stays in its directory. -/
  closed : ∀ name location, spares (name :: location) → spares location

/--
What the operating system does not carry out although nothing on the disk is in the way: the device
is full, a file belongs to somebody else, a folder may not be entered. It may depend on the paths and
on the content, so that each write, copy or removal may fail on its own.
-/
structure Host where
  /-- After how many bytes the write of a content to a path breaks off, if it does. -/
  writing : Path → ByteArray → Option (Nat × OsError) := fun _ _ => none
  /-- Where the copy of a content from one path to another breaks off, if it does. -/
  copying : Path → Path → ByteArray → Option Break := fun _ _ _ => none
  /-- Why the directory at a path is not removed, if it is not. -/
  removing : Path → Option Refusal := fun _ => none

namespace Host

def filled (host : Host) (output : Path) (content : ByteArray) (mode : Bool) :
    Except OsError Unit × Entry :=
  match host.writing output content with
  | none => (.ok (), .file content mode)
  | some (written, error) => (.error error, .file (content.extract 0 written) mode)

def copied (host : Host) (input output : Path) (copying : Disk.Copying) :
    Except OsError Unit × Entry :=
  match host.copying input output copying.content with
  | none => (.ok (), .file copying.content copying.executable)
  | some (.mode error) => (.error error, .file .empty copying.mode)
  | some (.transfer written error) =>
    (.error error, .file (copying.content.extract 0 written) copying.executable)

def write (host : Host) (path : Path) (content : ByteArray) (disk : Disk) :
    Except OsError Unit × Disk :=
  match disk.openForWriting path false with
  | .error error => (.error error, disk)
  | .ok (location, mode) =>
    let (result, entry) := host.filled path content mode
    (result, disk.put location entry)

/-- Copies content and mode; what was in the output is gone as soon as both files are open. -/
def copy (host : Host) (input output : Path) (disk : Disk) : Except OsError Unit × Disk :=
  match disk.openForCopying input output with
  | .error error => (.error error, disk)
  | .ok copying =>
    let (result, entry) := host.copied input output copying
    (result, disk.put copying.location entry)

/--
Removes a directory and all that lies below it. A removal that is refused may have gone part of the
way.
-/
def removeTree (host : Host) (path : Path) (disk : Disk) : Except OsError Unit × Disk :=
  match disk.locate path with
  | .error error => (.error error, disk)
  | .ok location =>
    match disk.entry? location with
    | none => (.error .notFound, disk)
    | some (.file _ _) => (.error .notDirectory, disk)
    | some .directory =>
      match host.removing path with
      | none => (.ok (), disk.erase location)
      | some refusal => (.error refusal.error, disk.thin location refusal.spares)

end Host

end SpokenMarkup
