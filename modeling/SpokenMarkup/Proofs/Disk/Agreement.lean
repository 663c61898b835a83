import Mathlib.Data.Set.Basic
import SpokenMarkup.Disk.FileTask

set_option autoImplicit false

namespace SpokenMarkup

namespace Disk

/-- The two disks hold the same at every location that is not in `off`. -/
structure AgreeOff (off : Set Location) (left right : Disk) : Prop where
  home : left.home = right.home
  entry : ∀ location, location ∉ off → left.entry? location = right.entry? location

def below (directory : Location) : Set Location :=
  {location | directory <:+ location ∧ location ≠ directory}

variable {off wider : Set Location} {first second third : Disk}

theorem AgreeOff.refl (off : Set Location) (disk : Disk) : AgreeOff off disk disk :=
  ⟨rfl, fun _ _ => rfl⟩

theorem AgreeOff.symm (agree : AgreeOff off first second) : AgreeOff off second first :=
  ⟨agree.home.symm, fun location outside => (agree.entry location outside).symm⟩

theorem AgreeOff.trans (early : AgreeOff off first second) (late : AgreeOff off second third) :
    AgreeOff off first third :=
  ⟨early.home.trans late.home,
    fun location outside => (early.entry location outside).trans (late.entry location outside)⟩

theorem AgreeOff.mono (agree : AgreeOff off first second) (contained : off ⊆ wider) :
    AgreeOff wider first second :=
  ⟨agree.home, fun location outside =>
    agree.entry location fun inside => outside (contained inside)⟩

theorem cons_mem_below (name : String) (directory : Location) :
    name :: directory ∈ below directory := by
  refine ⟨List.suffix_cons name directory, ?_⟩
  intro equal
  have lengths := congrArg List.length equal
  simp only [List.length_cons] at lengths
  omega

theorem not_mem_below_self (directory : Location) : directory ∉ below directory :=
  fun inside => inside.2 rfl

theorem ne_nil_of_mem_below {location directory : Location} (inside : location ∈ below directory) :
    location ≠ [] := by
  intro root
  subst root
  exact inside.2 (List.suffix_nil.mp inside.1).symm

theorem lookup_filter_ne (entries : List (Location × Entry)) (location other : Location)
    (different : other ≠ location) :
    (entries.filter (·.1 ≠ location)).lookup other = entries.lookup other := by
  induction entries with
  | nil => rfl
  | cons pair rest ih =>
      by_cases same : pair.1 = location
      · have passed : (other == pair.1) = false := by
          simpa only [beq_eq_false_iff_ne, same] using different
        rw [List.filter_cons_of_neg (by simpa using same), ih, List.lookup_cons, passed]
      · rw [List.filter_cons_of_pos (by simpa using same), List.lookup_cons, List.lookup_cons, ih]

theorem lookup_put_self (disk : Disk) (location : Location) (entry : Entry)
    (proper : location ≠ []) : entry? (disk.put location entry) location = some entry := by
  simp only [put, entry?, proper, if_false, List.lookup_cons_self]

theorem lookup_put_of_ne (disk : Disk) (location other : Location) (entry : Entry)
    (different : other ≠ location) :
    entry? (disk.put location entry) other = disk.entry? other := by
  have passed : (other == location) = false := by
    simpa only [beq_eq_false_iff_ne] using different
  simp only [put, entry?, List.lookup_cons, passed]
  rw [lookup_filter_ne _ _ _ different]

theorem agreeOff_put (disk : Disk) (location : Location) (entry : Entry) :
    AgreeOff {location} disk (disk.put location entry) :=
  ⟨rfl, fun other outside => (lookup_put_of_ne disk location other entry outside).symm⟩

/-- A walk passes through directories only, so other locations have no part in it. -/
theorem AgreeOff.walk_eq (agree : AgreeOff off first second)
    (barred : ∀ location ∈ off, first.entry? location ≠ some .directory) (names : List String)
    (location target : Location) (reached : first.walk location names = .ok target) :
    second.walk location names = .ok target := by
  induction names generalizing location with
  | nil => exact reached
  | cons name rest ih =>
      simp only [walk] at reached ⊢
      cases held : first.entry? location with
      | none => simp [held] at reached
      | some entry =>
          cases entry with
          | file content executable => simp [held] at reached
          | directory =>
              have outside : location ∉ off := fun inside => barred location inside held
              rw [← agree.entry location outside, held]
              simp only [held] at reached
              by_cases dot : name = "."
              · simp only [dot, if_true] at reached ⊢
                exact ih location reached
              · by_cases dots : name = ".."
                · simp only [dots, if_true] at reached ⊢
                  exact ih location.tail reached
                · by_cases long : name.utf8ByteSize > maxNameBytes
                  · simp only [dot, dots, long, if_true, if_false] at reached
                    cases reached
                  · simp only [dot, dots, long, if_false] at reached ⊢
                    exact ih (name :: location) reached

theorem AgreeOff.locate_eq (agree : AgreeOff off first second)
    (barred : ∀ location ∈ off, first.entry? location ≠ some .directory) (path : Path)
    (target : Location) (reached : first.locate path = .ok target) :
    second.locate path = .ok target := by
  unfold locate follow at reached ⊢
  rw [← agree.home]
  split at reached
  · cases reached
  · rename_i clean
    split at reached
    · cases reached
    · rename_i proper
      split at reached
      · cases reached
      · rename_i short
        rw [if_neg clean, if_neg proper, if_neg short]
        exact agree.walk_eq barred path.names _ target reached

theorem isFile_iff (disk : Disk) (path : Path) :
    disk.isFile path = true ↔ ∃ held, disk.openFile path = .ok (some held) := by
  unfold isFile openFile
  cases located : disk.locate path with
  | error error => simp [bind, Except.bind]
  | ok location =>
      simp only [bind, Except.bind]
      cases disk.entry? location with
      | none => simp
      | some entry =>
          cases entry with
          | directory => simp
          | file content executable => cases path.endsWithSlash <;> simp

theorem isFile_congr {path : Path} (same : first.openFile path = second.openFile path) :
    first.isFile path = second.isFile path := by
  rw [Bool.eq_iff_iff, isFile_iff, isFile_iff, same]

theorem executable_congr {path : Path} (same : first.openFile path = second.openFile path) :
    first.executable path = second.executable path := by
  unfold executable
  rw [same]

theorem located_of_openFile {disk : Disk} {path : Path} {held : Option (ByteArray × Bool)}
    (opened : disk.openFile path = .ok held) : ∃ location, disk.locate path = .ok location := by
  cases located : disk.locate path with
  | ok location => exact ⟨location, rfl⟩
  | error error => simp [openFile, located, bind, Except.bind] at opened

theorem read_congr {path : Path} (same : first.openFile path = second.openFile path) :
    first.read path = second.read path := by
  unfold read
  rw [same]

end Disk

end SpokenMarkup
