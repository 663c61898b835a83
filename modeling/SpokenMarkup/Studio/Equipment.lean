import SpokenMarkup.Composition.Tree
import SpokenMarkup.Disk.Launcher
import SpokenMarkup.Sound.Asset
import SpokenMarkup.Sound.Mixer
import SpokenMarkup.Studio.Basic

set_option autoImplicit false

namespace SpokenMarkup

/-- What came of a node: the file with its audio, if it has any, and what came of its children. -/
structure Rendition where
  audio : Option Path
  parts : List Rendition := []

/-- All that rendering a tree needs beside the studio. -/
structure Equipment (V : Type) where
  voice : Voice V
  assets : AssetFinder
  mixer : Mixer
  launcher : Launcher
  /-- The folder that holds filter programs, under the ids of their filters. -/
  filtersDir : Path
  /-- What carries out writes, copies and removals. -/
  host : Host := {}

namespace Equipment

variable {V : Type}

def attempt {α : Type} (task : StudioTask V α) : StudioJob V α :=
  Job.atomic task

def attemptOnDisk {α : Type} (task : FileTask α) : StudioJob V α :=
  attempt (Studio.onDisk task)

def speech (equipment : Equipment V) (speaker text : String) (target : Path) :
    StudioJob V Unit := do
  modify (·.noting (.speaking speaker text))
  let audio ← attempt (equipment.voice.speakAs speaker text)
  attemptOnDisk do
    FileTask.makeRoom target
    FileTask.update (equipment.host.write target audio) fun error => .voice (.notWritten target error)

def effect (equipment : Equipment V) (id : String) (target : Path) : StudioJob V Unit := do
  modify (·.noting (.insertingEffect id))
  match equipment.assets id (← get).disk with
  | none => throw (.effectNotFound id)
  | some asset => attemptOnDisk (equipment.mixer.place equipment.host asset target)

/-- Joins the files of the children that have audio; the audio of a lone one is copied. -/
def joined (equipment : Equipment V) (files : List Path) (target : Path) : StudioJob V Bool :=
  match files with
  | [] => pure false
  | [only] => do
    attemptOnDisk (FileTask.copy equipment.host only target)
    pure true
  | files => do
    attemptOnDisk (equipment.mixer.join files target)
    pure true

/-- The program for a filter. An id that could lead out of the folder has none. -/
def programFor? (equipment : Equipment V) (id : String) (disk : Disk) : Option Path :=
  let program := equipment.filtersDir.join id
  if Path.isPlainName id && disk.isFile program then some program else none

def builtInFilter (equipment : Equipment V) (id : String) (input target : Path) :
    StudioJob V Unit :=
  match Preset.find? id with
  | some preset => attemptOnDisk (equipment.mixer.applyPreset preset input target)
  | none => do
    modify (·.noting (.filterUnknown id))
    attemptOnDisk (FileTask.copy equipment.host input target)

/-- Runs a filter program. One that cannot be started leaves the audio as it is. -/
def programFilter (equipment : Equipment V) (program input target : Path) :
    StudioJob V Unit := do
  match ← attemptOnDisk (runFilter equipment.launcher program input target) with
  | .success => pure ()
  | .failed status => throw (.audio (.filterFailed program status))
  | .unavailable reason =>
    modify (·.noting (.filterUnavailable program reason.message))
    attemptOnDisk (FileTask.copy equipment.host input target)

def filtered (equipment : Equipment V) (id : String) (input target : Path) :
    StudioJob V Unit := do
  modify (·.noting (.applyingFilter id))
  match equipment.programFor? id (← get).disk with
  | some program => equipment.programFilter program input target
  | none => equipment.builtInFilter id input target

def conclude (target : Path) (parts : List Rendition) (work : StudioJob V Bool) :
    Job (Studio V) Rendition := do
  match ← work.run with
  | .ok true => pure ⟨some target, parts⟩
  | .ok false => pure ⟨none, parts⟩
  | .error fault =>
    modify (·.noting (.nodeDropped target fault))
    pure ⟨none, parts⟩

/-- A node that no file was given to has no audio. -/
def unnamed : Job (Studio V) Rendition := do
  modify (·.noting .nodeUnnamed)
  pure ⟨none, []⟩

mutual

/--
The job of rendering a tree from the leaves up; the children of a group may be rendered side by
side. A node that fails is reported and left out by its parent.
-/
def job (equipment : Equipment V) (sideBySide : Bool) : Node → Job (Studio V) Rendition
  | .group _ none | .speech _ _ none | .effect _ none | .filter _ _ none => unnamed
  | .speech speaker text (some target) =>
    conclude target [] do
      equipment.speech speaker text target
      pure true
  | .effect id (some target) =>
    conclude target [] do
      equipment.effect id target
      pure true
  | .group children (some target) => do
    let parts ← jobs equipment sideBySide children
    conclude target parts (equipment.joined (parts.filterMap (·.audio)) target)
  | .filter id child (some target) => do
    let part ← job equipment sideBySide child
    match part.audio with
    | none => pure ⟨none, [part]⟩
    | some input =>
      conclude target [part] do
        equipment.filtered id input target
        pure true

def jobs (equipment : Equipment V) (sideBySide : Bool) :
    List Node → Job (Studio V) (List Rendition)
  | [] => pure []
  | node :: rest =>
    .both sideBySide (job equipment sideBySide node) (jobs equipment sideBySide rest)
      fun part parts => .done (part :: parts)

end

end Equipment

end SpokenMarkup
