import SpokenMarkup.Proofs.Disk.Agreement

set_option autoImplicit false

namespace SpokenMarkup

namespace Disk

def onward (place : Location) (name : String) : Location :=
  if name = "." then place else if name = ".." then place.tail else name :: place

/-- The directories that names are looked up in, one after the other. -/
def passed : Location → List String → List Location
  | _, [] => []
  | place, name :: rest => place :: passed (onward place name) rest

def reached (place : Location) (names : List String) : Location :=
  names.foldl onward place

/-- A name that is short enough, if its length matters. -/
def IsShort (name : String) : Prop :=
  name = "." ∨ name = ".." ∨ name.utf8ByteSize ≤ maxNameBytes

theorem walk_eq_ok_iff (disk : Disk) (place target : Location) (names : List String) :
    disk.walk place names = .ok target ↔
      (∀ location ∈ passed place names, disk.entry? location = some .directory) ∧
        (∀ name ∈ names, IsShort name) ∧ reached place names = target := by
  induction names generalizing place with
  | nil => simp [walk, passed, reached]
  | cons name rest ih =>
      rw [walk, passed, List.forall_mem_cons, List.forall_mem_cons]
      cases held : disk.entry? place with
      | none => simp
      | some entry =>
          cases entry with
          | file content executable => simp
          | directory =>
              simp only [reached, List.foldl_cons, onward, IsShort, true_and] at ih ⊢
              by_cases dot : name = "."
              · simp only [dot, if_true, ih, true_or, true_and]
              · by_cases dots : name = ".."
                · simp [dots, ih]
                · by_cases long : name.utf8ByteSize > maxNameBytes
                  · have tooLong : ¬name.utf8ByteSize ≤ maxNameBytes := by omega
                    simp [dot, dots, long, tooLong]
                  · have short : name.utf8ByteSize ≤ maxNameBytes := by omega
                    simp only [dot, dots, long, short, if_false, ih, or_true, true_and]

def origin (disk : Disk) (path : Path) : Location :=
  if path.isAbsolute then [] else disk.home

/-- The directories that a path passes, the one that its last name is looked up in included. -/
def way (disk : Disk) (path : Path) : List Location :=
  passed (disk.origin path) path.names

/-- Where a path leads to, if all directories on its way are there. -/
def place (disk : Disk) (path : Path) : Location :=
  reached (disk.origin path) path.names

/-- A path that can be followed, as far as its text matters. -/
structure IsSound (path : Path) : Prop where
  clean : path.hasNul = false
  proper : path.text ≠ ""
  short : path.text.utf8ByteSize ≤ maxPathBytes
  names : ∀ name ∈ path.names, IsShort name

theorem locate_eq_ok (disk : Disk) (path : Path) (location : Location) :
    disk.locate path = .ok location ↔ IsSound path ∧
      (∀ passedBy ∈ disk.way path, disk.entry? passedBy = some .directory) ∧
      disk.place path = location := by
  unfold locate follow
  by_cases nul : path.hasNul = true
  · rw [if_pos nul]
    refine ⟨nofun, ?_⟩
    intro found
    rw [found.1.clean] at nul
    cases nul
  · by_cases blank : path.text = ""
    · rw [if_neg nul, if_pos blank]
      exact ⟨nofun, fun found => absurd blank found.1.proper⟩
    · by_cases long : path.text.utf8ByteSize > maxPathBytes
      · rw [if_neg nul, if_neg blank, if_pos long]
        refine ⟨nofun, ?_⟩
        intro found
        have short := found.1.short
        omega
      · rw [if_neg nul, if_neg blank, if_neg long, walk_eq_ok_iff]
        constructor
        · rintro ⟨standing, short, leads⟩
          exact ⟨⟨Bool.eq_false_iff.mpr nul, blank, by omega, short⟩, standing, leads⟩
        · rintro ⟨sound, standing, leads⟩
          exact ⟨standing, sound.names, leads⟩

def HasFile (disk : Disk) (location : Location) : Prop :=
  ∃ content executable, disk.entry? location = some (.file content executable)

/-- Directories and files stay what they are, but for those in `off`. -/
structure Keeps (off : Set Location) (before after : Disk) : Prop where
  home : before.home = after.home
  directories : ∀ location ∉ off, before.entry? location = some .directory →
    after.entry? location = some .directory
  files : ∀ location ∉ off, before.HasFile location → after.HasFile location

variable {off wider : Set Location} {before between after : Disk}

theorem Keeps.refl (off : Set Location) (disk : Disk) : Keeps off disk disk :=
  ⟨rfl, fun _ _ held => held, fun _ _ held => held⟩

theorem Keeps.trans (early : Keeps off before between) (late : Keeps off between after) :
    Keeps off before after := by
  refine ⟨early.home.trans late.home, ?_, ?_⟩
  · intro location outside held
    exact late.directories location outside (early.directories location outside held)
  · intro location outside held
    exact late.files location outside (early.files location outside held)

theorem Keeps.mono (keeps : Keeps off before after) (contained : off ⊆ wider) :
    Keeps wider before after :=
  ⟨keeps.home, fun location outside => keeps.directories location fun inside =>
    outside (contained inside), fun location outside => keeps.files location fun inside =>
    outside (contained inside)⟩

theorem AgreeOff.keeps (agree : AgreeOff off before after) : Keeps off before after := by
  refine ⟨agree.home, ?_, ?_⟩
  · intro location outside held
    rw [← agree.entry location outside]
    exact held
  · intro location outside held
    unfold HasFile
    rw [← agree.entry location outside]
    exact held

theorem way_congr {path : Path} (home : before.home = after.home) :
    after.way path = before.way path := by
  rw [way, way, origin, origin, home]

theorem place_congr {path : Path} (home : before.home = after.home) :
    after.place path = before.place path := by
  rw [place, place, origin, origin, home]

/-- A path whose way is kept leads where it led. -/
theorem Keeps.locate (keeps : Keeps off before after) {path : Path} {location : Location}
    (aside : ∀ passedBy ∈ before.way path, passedBy ∉ off)
    (located : before.locate path = .ok location) : after.locate path = .ok location := by
  obtain ⟨sound, standing, leads⟩ := (locate_eq_ok before path location).mp located
  rw [locate_eq_ok, way_congr keeps.home, place_congr keeps.home]
  refine ⟨sound, ?_, leads⟩
  intro passedBy member
  exact keeps.directories passedBy (aside passedBy member) (standing passedBy member)

theorem isFile_eq_true_iff (disk : Disk) (path : Path) :
    disk.isFile path = true ↔ path.endsWithSlash = false ∧
      ∃ location, disk.locate path = .ok location ∧ disk.HasFile location := by
  unfold isFile HasFile
  cases disk.locate path with
  | error error => simp
  | ok location =>
      rcases held : disk.entry? location with _ | _ | ⟨content, executable⟩
      · simp [held]
      · simp [held]
      · simp only [held, Bool.not_eq_true']
        constructor
        · intro bare
          exact ⟨bare, location, rfl, content, executable, held⟩
        · rintro ⟨bare, -⟩
          exact bare

theorem Keeps.isFile (keeps : Keeps ∅ before after) {path : Path}
    (found : before.isFile path = true) : after.isFile path = true := by
  rw [isFile_eq_true_iff] at found ⊢
  obtain ⟨bare, location, located, held⟩ := found
  have outside : ∀ other : Location, other ∉ (∅ : Set Location) := fun _ => Set.notMem_empty _
  exact ⟨bare, location, keeps.locate (fun other _ => outside other) located,
    keeps.files location (outside location) held⟩

/-- What may be put at a location without taking anything away. -/
def Takes (held : Option Entry) : Entry → Prop
  | .directory => held = none ∨ held = some .directory
  | .file _ _ => held ≠ some .directory

theorem keeps_put (disk : Disk) (location : Location) (entry : Entry)
    (takes : Takes (disk.entry? location) entry) : Keeps ∅ disk (disk.put location entry) := by
  by_cases root : location = []
  · -- nothing put at the root is ever seen
    subst root
    have same : ∀ other, Disk.entry? (disk.put [] entry) other = disk.entry? other := by
      intro other
      by_cases top : other = []
      · rw [top]
        rfl
      · exact lookup_put_of_ne disk [] other entry top
    refine ⟨rfl, ?_, ?_⟩
    · intro other _ held
      rw [same other]
      exact held
    · intro other _ held
      unfold HasFile
      rw [same other]
      exact held
  · refine ⟨rfl, ?_, ?_⟩
    · intro other _ held
      by_cases here : other = location
      · subst here
        rw [held] at takes
        rw [lookup_put_self disk other entry root]
        cases entry with
        | directory => rfl
        | file content executable => exact absurd rfl takes
      · rw [lookup_put_of_ne disk location other entry here]
        exact held
    · intro other _ held
      by_cases here : other = location
      · subst here
        obtain ⟨content, executable, held⟩ := held
        rw [held] at takes
        cases entry with
        | directory => rcases takes with absent | different <;> cases ‹_ = _›
        | file content executable => exact ⟨content, executable, lookup_put_self disk other _ root⟩
      · unfold HasFile
        rw [lookup_put_of_ne disk location other entry here]
        exact held

end Disk

end SpokenMarkup
