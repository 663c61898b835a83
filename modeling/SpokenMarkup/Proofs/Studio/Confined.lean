import SpokenMarkup.Proofs.Studio.Locality
import SpokenMarkup.Proofs.Studio.Tasks

set_option autoImplicit false

namespace SpokenMarkup

open Disk (numbered numberedIn)

/--
An act on disks that differ from `start` in the scratch folder only. It touches one location, and
what it does there depends on the inputs and on what was there before.
-/
structure Confined {α : Type} (start : Disk) (folder : Location) (inputs : List Path)
    (location : Location) (act : Disk → α × Disk) : Prop where
  frame : ∀ disk, start.AgreeOff (Disk.below folder) disk →
    disk.AgreeOff {location} (act disk).2
  steady : ∀ first second, start.AgreeOff (Disk.below folder) first →
    start.AgreeOff (Disk.below folder) second →
    (∀ input ∈ inputs, first.openFile input = second.openFile input) →
    first.entry? location = second.entry? location →
    (act first).1 = (act second).1 ∧
      Disk.entry? (act first).2 location = Disk.entry? (act second).2 location

def Launcher.attempt (launcher : Launcher) (program input output : Path) (disk : Disk) :
    Except OsError Outcome × Disk :=
  match launcher program { arguments := [input.text, output.text] } disk with
  | .error error => (.error error, disk)
  | .ok (outcome, changed) => (.ok outcome, changed)

/-- The tasks of the equipment keep to the inputs and the output they are given, whenever these are
files of the scratch folder or recorded sounds. -/
structure Equipment.Confines {V : Type} (equipment : Equipment V) (start : Disk) (dir : Path)
    (folder : Location) : Prop extends equipment.LooksAside start folder where
  joins : ∀ (sources : List Nat) (number : Nat),
    Confined start folder (sources.map (numberedFile dir)) (numbered folder number)
      (equipment.mixer.join (sources.map (numberedFile dir)) (numberedFile dir number))
  applies : ∀ (preset : Preset) (source number : Nat),
    Confined start folder [numberedFile dir source] (numbered folder number)
      (equipment.mixer.applyPreset preset (numberedFile dir source) (numberedFile dir number))
  converts : ∀ (id : String) (asset : Asset) (number : Nat),
    equipment.assets id start = some asset →
    Confined start folder [asset.path] (numbered folder number)
      (equipment.mixer.convert asset.path (numberedFile dir number))
  runs : ∀ (id : String) (program : Path) (source number : Nat),
    equipment.programFor? id start = some program →
    Confined start folder [numberedFile dir source] (numbered folder number)
      (equipment.launcher.attempt program (numberedFile dir source) (numberedFile dir number))

namespace Voice

variable {V : Type}

/-- The booths that speaking leads to from the first one, on disks that differ from `start` in the
scratch folder only. -/
inductive Reaches (voice : Voice V) (start : Disk) (folder : Location) (initial : Booth V) :
    Booth V → Prop
  | initial : Reaches voice start folder initial initial
  | spoken {studio : Studio V} (reached : Reaches voice start folder initial studio.booth)
    (agree : start.AgreeOff (Disk.below folder) studio.disk) (speaker text : String) :
    Reaches voice start folder initial (voice.speakAs speaker text studio).2.booth

/-- In every booth that is reached, what is said depends on the speaker and the text only, and no
file is touched. -/
structure Repeats (voice : Voice V) (start : Disk) (folder : Location) (initial : Booth V)
    (sound : String → String → Except Fault ByteArray) : Prop where
  said : ∀ studio : Studio V, Reaches voice start folder initial studio.booth →
    start.AgreeOff (Disk.below folder) studio.disk → ∀ speaker text,
    (voice.speakAs speaker text studio).1 = sound speaker text
  kept : ∀ studio : Studio V, Reaches voice start folder initial studio.booth →
    start.AgreeOff (Disk.below folder) studio.disk → ∀ speaker text,
    studio.disk.AgreeOff ∅ (voice.speakAs speaker text studio).2.disk

end Voice

section Saving

variable {α β : Type} {start : Disk} {dir : Path} {folder : Location} {number : Nat}
  {inputs : List Path} {location : Location}

namespace Confined

theorem congr {act other : Disk → α × Disk} (confined : Confined start folder inputs location other)
    (equal : ∀ disk, start.AgreeOff (Disk.below folder) disk → act disk = other disk) :
    Confined start folder inputs location act := by
  constructor
  · intro disk agree
    rw [equal disk agree]
    exact confined.frame disk agree
  · intro first second agree agreeOther same held
    rw [equal first agree, equal second agreeOther]
    exact confined.steady first second agree agreeOther same held

theorem idle (value : α) : Confined start folder inputs location fun disk => (value, disk) :=
  ⟨fun disk _ => Disk.AgreeOff.refl _ disk, fun _ _ _ _ _ held => ⟨rfl, held⟩⟩

theorem map {act : Disk → α × Disk} (change : α → β)
    (confined : Confined start folder inputs location act) :
    Confined start folder inputs location fun disk => (change (act disk).1, (act disk).2) := by
  refine ⟨confined.frame, ?_⟩
  intro first second agree agreeOther same held
  obtain ⟨result, after⟩ := confined.steady first second agree agreeOther same held
  exact ⟨congrArg change result, after⟩

theorem reading {view : Disk → β} {act : β → Disk → α × Disk}
    (steady : ∀ first second, start.AgreeOff (Disk.below folder) first →
      start.AgreeOff (Disk.below folder) second →
      (∀ input ∈ inputs, first.openFile input = second.openFile input) → view first = view second)
    (confined : ∀ value, Confined start folder inputs location (act value)) :
    Confined start folder inputs location fun disk => act (view disk) disk := by
  constructor
  · intro disk agree
    exact (confined (view disk)).frame disk agree
  · intro first second agree agreeOther same held
    rw [steady first second agree agreeOther same]
    exact (confined (view second)).steady first second agree agreeOther same held

theorem bind {reader : FileTask β} {next : β → FileTask α}
    (reads : ∀ disk, (reader disk).2 = disk)
    (steady : ∀ first second, start.AgreeOff (Disk.below folder) first →
      start.AgreeOff (Disk.below folder) second →
      (∀ input ∈ inputs, first.openFile input = second.openFile input) →
      (reader first).1 = (reader second).1)
    (confined : ∀ value, Confined start folder inputs location (next value)) :
    Confined start folder inputs location (reader >>= next) := by
  have proceeds : ∀ value, Confined start folder inputs location (ExceptT.bindCont next value) := by
    intro value
    cases value with
    | ok value => exact confined value
    | error fault => exact idle _
  refine (reading steady proceeds).congr ?_
  intro disk _
  change ExceptT.bindCont next (reader disk).1 (reader disk).2 = _
  rw [reads disk]

end Confined

/-- An update that puts an entry at the output, or refuses to, depending on the inputs and on what
is there. What it puts may be all that it wrote before it failed. -/
theorem confined_update (proper : location ≠ [])
    {operation : Disk → Except OsError Unit × Disk} (fault : OsError → Fault)
    (choose : Disk → Except OsError (Except OsError Unit × Entry))
    (puts : ∀ disk, start.AgreeOff (Disk.below folder) disk →
      operation disk =
        match choose disk with
        | .ok (result, entry) => (result, disk.put location entry)
        | .error error => (.error error, disk))
    (steady : ∀ first second, start.AgreeOff (Disk.below folder) first →
      start.AgreeOff (Disk.below folder) second →
      (∀ input ∈ inputs, first.openFile input = second.openFile input) →
      first.entry? location = second.entry? location → choose first = choose second) :
    Confined start folder inputs location (FileTask.update operation fault) := by
  have equation : ∀ disk, start.AgreeOff (Disk.below folder) disk →
      FileTask.update operation fault disk =
        match choose disk with
        | .ok (result, entry) => (result.mapError fault, disk.put location entry)
        | .error error => (.error (fault error), disk) := by
    intro disk agree
    simp only [FileTask.update, puts disk agree]
    cases choose disk <;> rfl
  constructor
  · intro disk agree
    rw [equation disk agree]
    cases choose disk with
    | ok ending => exact Disk.agreeOff_put disk _ ending.2
    | error error => exact Disk.AgreeOff.refl _ disk
  · intro first second agree agreeOther same held
    rw [equation first agree, equation second agreeOther,
      steady first second agree agreeOther same held]
    cases choose second with
    | ok ending =>
        refine ⟨rfl, ?_⟩
        simp only
        rw [Disk.lookup_put_self _ _ _ proper, Disk.lookup_put_self _ _ _ proper]
    | error error => exact ⟨rfl, held⟩

theorem confined_makeRoom (fresh : start.IsEmptyFolder dir folder) {next : FileTask α}
    (confined : Confined start folder inputs location next) :
    Confined start folder inputs location
      ((do FileTask.makeRoom (numberedFile dir number); next : FileTask α)) := by
  refine confined.congr ?_
  intro disk agree
  rw [task_bind, fresh.makeRoom_numberedFile agree]

theorem openForWriting_numberedFile (fresh : start.IsEmptyFolder dir folder) {disk : Disk}
    (agree : start.AgreeOff (Disk.below folder) disk) (executable : Bool) :
    disk.openForWriting (numberedFile dir number) executable =
      if Disk.Fits dir number then
        match disk.entry? (numbered folder number) with
        | some .directory => .error .isDirectory
        | none => .ok (numbered folder number, executable)
        | some (.file _ mode) => .ok (numbered folder number, mode)
      else .error .nameTooLong := by
  unfold Disk.openForWriting
  rw [fresh.endsWithSlash_numberedFile, fresh.locate_numberedFile agree]
  by_cases fits : Disk.Fits dir number
  · rcases found : disk.entry? (numbered folder number) with _ | _ | _ <;>
      simp only [fits, found, if_true, Bool.false_eq_true, if_false, bind, Except.bind]
  · simp only [fits, Bool.false_eq_true, if_false, bind, Except.bind]

theorem confined_write (inputs : List Path) (fresh : start.IsEmptyFolder dir folder) (host : Host)
    (content : ByteArray) (fault : OsError → Fault) :
    Confined start folder inputs (numbered folder number)
      (FileTask.update (host.write (numberedFile dir number) content) fault) := by
  apply confined_update (Disk.numbered_ne_nil folder number) fault fun disk =>
    (disk.openForWriting (numberedFile dir number) false).map fun found =>
      host.filled (numberedFile dir number) content found.2
  · intro disk agree
    unfold Host.write
    rw [openForWriting_numberedFile fresh agree]
    by_cases fits : Disk.Fits dir number
    · rw [if_pos fits]
      rcases disk.entry? (numbered folder number) with _ | _ | _ <;> rfl
    · rw [if_neg fits]
      rfl
  · intro first second agree agreeOther _ held
    rw [openForWriting_numberedFile fresh agree, openForWriting_numberedFile fresh agreeOther, held]

theorem confined_copy (fresh : start.IsEmptyFolder dir folder) (host : Host) (input : Path)
    (stays : ∀ first second, start.AgreeOff (Disk.below folder) first →
      start.AgreeOff (Disk.below folder) second → ∀ held, first.openFile input = .ok (some held) →
      second.openFile input = .ok (some held) → first.locate input = second.locate input) :
    Confined start folder [input] (numbered folder number)
      (FileTask.copy host input (numberedFile dir number)) := by
  refine confined_makeRoom fresh ?_
  apply confined_update (Disk.numbered_ne_nil folder number) _ fun disk =>
    (disk.openForCopying input (numberedFile dir number)).map
      (host.copied input (numberedFile dir number))
  · intro disk agree
    unfold Host.copy
    cases opened : disk.openForCopying input (numberedFile dir number) with
    | error error => rfl
    | ok copying =>
        -- the output that was opened is the scratch file, as its path leads there
        obtain ⟨writable, place, -⟩ := Disk.openForCopying_ok opened
        have leads := writable.located
        rw [fresh.locate_numberedFile agree] at leads
        by_cases fits : Disk.Fits dir number
        · rw [if_pos fits] at leads
          change (_, disk.put copying.location _) = (_, disk.put (numbered folder number) _)
          rw [place, ← Except.ok.inj leads]
        · rw [if_neg fits] at leads
          cases leads
  · intro first second agree agreeOther same held
    have equal := same input List.mem_cons_self
    cases opened : first.openFile input with
    | error error =>
        rw [Disk.openForCopying_of_error opened, Disk.openForCopying_of_error (equal.symm.trans opened)]
    | ok read =>
        cases read with
        | none =>
            rw [Disk.openForCopying_of_none opened,
              Disk.openForCopying_of_none (equal.symm.trans opened)]
        | some pair =>
            have opened' := equal.symm.trans opened
            have located := stays first second agree agreeOther pair opened opened'
            obtain ⟨content, executable⟩ := pair
            have written : first.openForWriting (numberedFile dir number) executable =
                second.openForWriting (numberedFile dir number) executable := by
              rw [openForWriting_numberedFile fresh agree,
                openForWriting_numberedFile fresh agreeOther, held]
            unfold Disk.openForCopying
            simp only [opened, opened', located, written, bind, Except.bind]

def filterEnd (program : Path) : Except OsError Outcome → Except Fault FilterEnd
  | .error .notFound => .ok (.unavailable .notFound)
  | .error .permissionDenied => .ok (.unavailable .permissionDenied)
  | .error error => .error (.audio (.filterNotStarted program error))
  | .ok outcome =>
    if outcome.status.succeeded then .ok .success
    else .ok (.failed (outcome.status.message ++ ": " ++ outcome.complaint))

/-- Running a filter program keeps to itself if starting the program does. -/
theorem confined_runFilter (fresh : start.IsEmptyFolder dir folder) (launcher : Launcher)
    (program input : Path)
    (confined : Confined start folder inputs (numbered folder number)
      (launcher.attempt program input (numberedFile dir number))) :
    Confined start folder inputs (numbered folder number)
      (runFilter launcher program input (numberedFile dir number)) := by
  refine confined_makeRoom fresh ((confined.map (filterEnd program)).congr ?_)
  intro disk _
  unfold Launcher.attempt
  cases launcher program { arguments := [input.text, (numberedFile dir number).text] } disk with
  | error error => cases error <;> rfl
  | ok ending =>
      by_cases succeeded : ending.1.status.succeeded = true
      · simp only [filterEnd, if_pos succeeded]
      · simp only [filterEnd, if_neg succeeded]

end Saving

end SpokenMarkup
