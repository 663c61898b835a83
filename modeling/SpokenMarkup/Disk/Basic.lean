import SpokenMarkup.Disk.OsError
import SpokenMarkup.Disk.Path

set_option autoImplicit false

namespace SpokenMarkup

/--
A location lists names from the innermost outward: its tail is the directory it lies in, and the
empty location is the root.
-/
abbrev Location := List String

inductive Entry where
  | directory
  | file (content : ByteArray) (executable : Bool)

def Entry.decEq : (left right : Entry) → Decidable (left = right)
  | .directory, .directory => isTrue rfl
  | .file content executable, .file content' executable' =>
    match ByteArray.instDecidableEq content content', Bool.decEq executable executable' with
    | isTrue equal, isTrue equal' => isTrue (by rw [equal, equal'])
    | isFalse different, _ => isFalse fun equal => different (Entry.file.inj equal).1
    | _, isFalse different => isFalse fun equal => different (Entry.file.inj equal).2
  | .directory, .file _ _ | .file _ _, .directory => isFalse nofun

instance : DecidableEq Entry := Entry.decEq

structure Disk where
  /-- The working directory, where relative paths start. -/
  home : Location
  /-- What exists below the root, one pair for each location. -/
  entries : List (Location × Entry)

namespace Disk

def entry? (disk : Disk) (location : Location) : Option Entry :=
  if location = [] then some .directory else disk.entries.lookup location

def put (disk : Disk) (location : Location) (entry : Entry) : Disk :=
  { disk with entries := (location, entry) :: disk.entries.filter (·.1 ≠ location) }

/-- Removes a location and all that lies below it. -/
def erase (disk : Disk) (location : Location) : Disk :=
  { disk with entries := disk.entries.filter fun pair => !location.isSuffixOf pair.1 }

/-- Removes what lies below a location, but for what is spared. -/
def thin (disk : Disk) (location : Location) (spares : Location → Bool) : Disk :=
  { disk with entries := disk.entries.filter fun pair =>
      !location.isSuffixOf pair.1 || pair.1 = location || spares pair.1 }

def maxNameBytes : Nat := 255

def maxPathBytes : Nat := 4095

/-- Follows names from a directory. Each step but the last has to lead to a directory. -/
def walk (disk : Disk) (location : Location) : List String → Except OsError Location
  | [] => .ok location
  | name :: rest =>
    match disk.entry? location with
    | none => .error .notFound
    | some (.file _ _) => .error .notDirectory
    | some .directory =>
      if name = "." then walk disk location rest
      else if name = ".." then walk disk location.tail rest
      else if name.utf8ByteSize > maxNameBytes then .error .nameTooLong
      else walk disk (name :: location) rest

def follow (disk : Disk) (path : Path) (names : List String) : Except OsError Location :=
  if path.hasNul then .error .nulInPath
  else if path.text = "" then .error .notFound
  else if path.text.utf8ByteSize > maxPathBytes then .error .nameTooLong
  else disk.walk (if path.isAbsolute then [] else disk.home) names

/-- The location a path leads to, which need not exist. -/
def locate (disk : Disk) (path : Path) : Except OsError Location :=
  disk.follow path path.names

def locateDirectory (disk : Disk) (path : Path) : Except OsError Location :=
  disk.follow path path.names.dropLast

def isFile (disk : Disk) (path : Path) : Bool :=
  match disk.locate path with
  | .error _ => false
  | .ok location =>
    match disk.entry? location with
    | some (.file _ _) => !path.endsWithSlash
    | _ => false

def isDirectory (disk : Disk) (path : Path) : Bool :=
  match disk.locate path with
  | .error _ => false
  | .ok location => disk.entry? location = some .directory

def openFile (disk : Disk) (path : Path) : Except OsError (Option (ByteArray × Bool)) := do
  match disk.entry? (← disk.locate path) with
  | none => .error .notFound
  | some .directory => .ok none
  | some (.file content executable) =>
    if path.endsWithSlash then .error .notDirectory else .ok (some (content, executable))

def read (disk : Disk) (path : Path) : Except OsError ByteArray := do
  match ← disk.openFile path with
  | none => .error .isDirectory
  | some (content, _) => .ok content

/--
The location a file can be written to, and whether a file there is executable; a new file gets the
mode `executable`. With a slash at its end a path is refused as soon as the directory it leads to is
reached, whatever its last name is.
-/
def openForWriting (disk : Disk) (path : Path) (executable : Bool) :
    Except OsError (Location × Bool) := do
  if path.endsWithSlash then
    match disk.entry? (← disk.locateDirectory path) with
    | none => .error .notFound
    | some (.file _ _) => .error .notDirectory
    | some .directory => .error .isDirectory
  else
    let location ← disk.locate path
    match disk.entry? location with
    | some .directory => .error .isDirectory
    | none => .ok (location, executable)
    | some (.file _ mode) => .ok (location, mode)

structure Copying where
  /-- Where the output is. -/
  location : Location
  /-- What is left to be read of the input, now that the output is empty. -/
  content : ByteArray
  /-- The mode of the input, which the output is to have. -/
  executable : Bool
  /-- The mode that the output has until then. -/
  mode : Bool

/--
Opens two files for a copy. The output is emptied before the input is read, so there is nothing to
be read of a file that is copied onto itself.
-/
def openForCopying (disk : Disk) (input output : Path) : Except OsError Copying := do
  let source ← disk.locate input
  match ← disk.openFile input with
  | none => .error .notRegular
  | some (content, executable) =>
    let (location, mode) ← disk.openForWriting output executable
    .ok ⟨location, if location = source then .empty else content, executable, mode⟩

def makeDirectory (disk : Disk) (path : Path) : Except OsError Disk := do
  let location ← disk.locate path
  match disk.entry? location with
  | some _ => .error .alreadyExists
  | none => .ok (disk.put location .directory)

/--
Makes a directory and the missing ones above it, given the path and its ancestors, innermost first.
Directories that were made stay when a later one cannot be made.
-/
def makeChain (disk : Disk) : List Path → Except OsError Unit × Disk
  | [] => (.ok (), disk)
  | path :: outer =>
    match disk.makeDirectory path with
    | .ok made => (.ok (), made)
    | .error .notFound =>
      match makeChain disk outer with
      | (.error error, made) => (.error error, made)
      | (.ok (), made) =>
        match made.makeDirectory path with
        | .ok inner => (.ok (), inner)
        | .error error => (if made.isDirectory path then .ok () else .error error, made)
    | .error error => (if disk.isDirectory path then .ok () else .error error, disk)

def makeDirectories (disk : Disk) (path : Path) : Except OsError Unit × Disk :=
  disk.makeChain path.ancestors

/--
What the search for a lone name ends with. It goes through folders apart from this disk, which hold
no programs; a dot or two dots are folders there.
-/
def searchProgram (name : String) : OsError :=
  if name = "." || name = ".." then .permissionDenied
  else if name.utf8ByteSize > maxNameBytes then .nameTooLong
  else .notFound

/-- The content of a file that may be executed, or why it may not. A lone name is never looked up in
the working directory. -/
def executable (disk : Disk) (program : Path) : Except OsError ByteArray := do
  if program.hasNul then .error .nulInCommand
  else if !program.text.toList.contains '/' then .error (searchProgram program.text)
  else match ← disk.openFile program with
    | none => .error .permissionDenied
    | some (content, true) => .ok content
    | some (_, false) => .error .permissionDenied

end Disk

end SpokenMarkup
