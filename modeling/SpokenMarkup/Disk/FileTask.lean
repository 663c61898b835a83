import SpokenMarkup.Disk.Host
import SpokenMarkup.Fault

set_option autoImplicit false

namespace SpokenMarkup

/-- A task on the disk that may fail. What it did before it failed stays done. -/
abbrev FileTask (α : Type) := ExceptT Fault (StateM Disk) α

namespace FileTask

def update (operation : Disk → Except OsError Unit × Disk) (fault : OsError → Fault) :
    FileTask Unit :=
  fun disk =>
    let (result, changed) := operation disk
    (result.mapError fault, changed)

def makeRoom (target : Path) : FileTask Unit :=
  fun disk =>
    match target.parent? with
    | none => (.ok (), disk)
    | some dir =>
      if dir.text = "" then (.ok (), disk)
      else
        let (made, changed) := disk.makeDirectories dir
        (made.mapError (Fault.outputDirectory dir), changed)

def copy (host : Host) (input output : Path) : FileTask Unit := do
  makeRoom output
  update (host.copy input output) fun error => .audio (.notCopied input output error)

end FileTask

end SpokenMarkup
