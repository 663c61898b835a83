import SpokenMarkup.Proofs.Disk.Rooms
import SpokenMarkup.Proofs.Disk.Upkeep

set_option autoImplicit false

namespace SpokenMarkup

namespace Disk

variable {lost : Set Location} {first second disk : Disk} {path input output : Path}

theorem walk_congr (place : Location) (names : List String)
    (same : ∀ location ∈ passed place names, first.entry? location = second.entry? location) :
    first.walk place names = second.walk place names := by
  induction names generalizing place with
  | nil => rfl
  | cons name rest ih =>
      have here := same place List.mem_cons_self
      have later := ih (onward place name) fun location member =>
        same location (List.mem_cons_of_mem _ member)
      rw [walk, walk, ← here]
      cases first.entry? place with
      | none => rfl
      | some entry =>
          cases entry with
          | file content executable => rfl
          | directory =>
              unfold onward at later
              split_ifs at later ⊢ <;> first | exact later | rfl

/-- The places that a path has to do with are not lost. -/
def Sees (disk : Disk) (lost : Set Location) (path : Path) : Prop :=
  ∀ location ∈ disk.trail path, location ∉ lost

theorem follow_congr {names : List String} (home : first.home = second.home)
    (same : ∀ location ∈ passed (first.origin path) names,
      first.entry? location = second.entry? location) :
    first.follow path names = second.follow path names := by
  have walks := walk_congr _ names same
  unfold origin at walks
  unfold follow
  rw [← home, walks]

theorem locate_congr (home : first.home = second.home)
    (same : ∀ location ∈ first.way path, first.entry? location = second.entry? location) :
    first.locate path = second.locate path :=
  follow_congr home same

theorem Sees.locate (sees : first.Sees lost path) (agree : first.AgreeOff lost second) :
    first.locate path = second.locate path :=
  locate_congr agree.home fun location member => agree.entry location (sees location (Or.inl member))

theorem Sees.entry (sees : first.Sees lost path) (agree : first.AgreeOff lost second)
    {location : Location} (located : first.locate path = .ok location) :
    first.entry? location = second.entry? location := by
  obtain ⟨-, -, rfl⟩ := (locate_eq_ok first path location).mp located
  exact agree.entry _ (sees _ (Or.inr rfl))

theorem Sees.openFile (sees : first.Sees lost path) (agree : first.AgreeOff lost second) :
    first.openFile path = second.openFile path := by
  unfold Disk.openFile
  rw [← sees.locate agree]
  cases located : first.locate path with
  | error error => rfl
  | ok location =>
      simp only [bind, Except.bind]
      rw [sees.entry agree located]

theorem Sees.isDirectory (sees : first.Sees lost path) (agree : first.AgreeOff lost second) :
    first.isDirectory path = second.isDirectory path := by
  unfold Disk.isDirectory
  rw [← sees.locate agree]
  cases located : first.locate path with
  | error error => rfl
  | ok location =>
      simp only
      rw [sees.entry agree located]

theorem Sees.join {dir : Path} {name : String} (sees : first.Sees lost dir)
    (proper : name ≠ "" ∧ name ≠ "." ∧ name ≠ "..") (plain : '/' ∉ name.toList)
    (kept : name :: first.place dir ∉ lost) : first.Sees lost (dir.join name) := by
  obtain ⟨nonempty, notDot, notDots⟩ := proper
  rintro location (led | rfl)
  · rw [way_join first dir nonempty plain] at led
    rcases List.mem_append.mp led with above | here
    · exact sees location (Or.inl above)
    · exact sees location (Or.inr (List.mem_singleton.mp here))
  · rw [place_join first dir nonempty plain notDot notDots]
    exact kept

theorem Sees.locateDirectory (sees : first.Sees lost path) (agree : first.AgreeOff lost second) :
    first.locateDirectory path = second.locateDirectory path ∧
      ∀ location, first.locateDirectory path = .ok location →
        first.entry? location = second.entry? location := by
  have split : ∃ rest, path.names = path.names.dropLast ++ rest ∧ (path.names ≠ [] → rest ≠ []) := by
    rcases List.eq_nil_or_concat path.names with none | ⟨front, last, names⟩
    · exact ⟨[], by rw [none]; rfl, fun some => absurd none some⟩
    · refine ⟨[last], ?_, fun _ => List.cons_ne_nil _ _⟩
      rw [names, List.concat_eq_append, List.dropLast_concat]
  obtain ⟨rest, names, proper⟩ := split
  have passes : first.way path = passed (first.origin path) path.names.dropLast ++
      passed (reached (first.origin path) path.names.dropLast) rest := by
    rw [← passed_append, ← names]
    rfl
  constructor
  · refine follow_congr agree.home fun location member => agree.entry location (sees location ?_)
    exact Or.inl (by rw [passes]; exact List.mem_append_left _ member)
  · intro location found
    have walked : first.walk (first.origin path) path.names.dropLast = .ok location := by
      unfold Disk.locateDirectory follow at found
      unfold origin
      split_ifs at found ⊢ <;> exact found
    have leads := ((walk_eq_ok_iff _ _ _ _).mp walked).2.2
    refine agree.entry location (sees location ?_)
    cases rest with
    | nil =>
        have none : path.names = [] := by_contra fun some => proper some rfl
        apply Or.inr
        rw [place, none, ← leads, none]
        rfl
    | cons name others =>
        apply Or.inl
        rw [passes, leads]
        exact List.mem_append_right _ List.mem_cons_self

theorem Sees.openForWriting (sees : first.Sees lost path) (agree : first.AgreeOff lost second)
    (executable : Bool) :
    first.openForWriting path executable = second.openForWriting path executable := by
  unfold Disk.openForWriting
  by_cases slash : path.endsWithSlash = true
  · obtain ⟨same, held⟩ := sees.locateDirectory agree
    rw [if_pos slash, if_pos slash, ← same]
    cases found : first.locateDirectory path with
    | error error => rfl
    | ok location =>
        simp only [bind, Except.bind]
        rw [held location found]
  · rw [if_neg slash, if_neg slash, ← sees.locate agree]
    cases located : first.locate path with
    | error error => rfl
    | ok location =>
        simp only [bind, Except.bind]
        rw [sees.entry agree located]

theorem AgreeOff.put (agree : first.AgreeOff lost second) (location : Location) (entry : Entry) :
    AgreeOff lost (first.put location entry) (second.put location entry) := by
  refine ⟨agree.home, ?_⟩
  intro other outside
  by_cases here : other = location
  · subst here
    by_cases root : other = []
    · rw [root]
      rfl
    · rw [lookup_put_self _ _ _ root, lookup_put_self _ _ _ root]
  · rw [lookup_put_of_ne _ _ _ _ here, lookup_put_of_ne _ _ _ _ here]
    exact agree.entry other outside

theorem AgreeOff.erase (agree : first.AgreeOff lost second) {location : Location}
    (proper : location ≠ []) : AgreeOff lost (first.erase location) (second.erase location) := by
  refine ⟨agree.home, ?_⟩
  intro other outside
  rw [lookup_erase _ _ _ proper, lookup_erase _ _ _ proper, agree.entry other outside]

theorem AgreeOff.thin (agree : first.AgreeOff lost second) {location : Location}
    (spares : Location → Bool) (proper : location ≠ []) :
    AgreeOff lost (first.thin location spares) (second.thin location spares) := by
  refine ⟨agree.home, ?_⟩
  intro other outside
  rw [lookup_thin _ _ _ _ proper, lookup_thin _ _ _ _ proper, agree.entry other outside]

/-- What an operation makes of two disks: the same error, or disks that agree. -/
inductive Matches (lost : Set Location) : Except OsError Disk → Except OsError Disk → Prop
  | ok {one two : Disk} (agree : AgreeOff lost one two) : Matches lost (.ok one) (.ok two)
  | error (error : OsError) : Matches lost (.error error) (.error error)

theorem Matches.error_iff {one two : Except OsError Disk} {error : OsError}
    (made : Matches lost one two) : one = .error error ↔ two = .error error := by
  cases made with
  | ok agree => exact ⟨nofun, nofun⟩
  | error other => exact Iff.rfl

theorem Sees.makeDirectory (sees : first.Sees lost path) (agree : first.AgreeOff lost second) :
    Matches lost (first.makeDirectory path) (second.makeDirectory path) := by
  unfold Disk.makeDirectory
  rw [← sees.locate agree]
  cases located : first.locate path with
  | error error => exact .error error
  | ok location =>
      simp only [bind, Except.bind]
      rw [← sees.entry agree located]
      cases first.entry? location with
      | none => exact .ok (agree.put location .directory)
      | some entry => exact .error .alreadyExists

/-- A task with the same result on both disks, after which they agree. -/
def SameTask {α : Type} (lost : Set Location) (one two : α × Disk) : Prop :=
  one.1 = two.1 ∧ AgreeOff lost one.2 two.2

theorem Sees.openForCopying (sees : first.Sees lost output) (agree : first.AgreeOff lost second)
    (found : first.locate input = second.locate input)
    (opened : first.openFile input = second.openFile input) :
    first.openForCopying input output = second.openForCopying input output := by
  unfold Disk.openForCopying
  rw [found, opened]
  simp only [sees.openForWriting agree]

theorem Sees.copy (sees : first.Sees lost output) (agree : first.AgreeOff lost second)
    (host : Host) (found : first.locate input = second.locate input)
    (opened : first.openFile input = second.openFile input) :
    SameTask lost (host.copy input output first) (host.copy input output second) := by
  unfold Host.copy
  rw [← sees.openForCopying agree found opened]
  cases first.openForCopying input output with
  | error error => exact ⟨rfl, agree⟩
  | ok copying => exact ⟨rfl, agree.put _ _⟩

theorem AgreeOff.removeTree (agree : first.AgreeOff lost second) (host : Host) {dir : Path}
    {location : Location} (proper : location ≠ [])
    (located : first.locate dir = .ok location) (standing : first.entry? location = some .directory)
    (locatedToo : second.locate dir = .ok location)
    (standingToo : second.entry? location = some .directory) :
    SameTask lost (host.removeTree dir first) (host.removeTree dir second) := by
  rw [Host.removeTree_eq located standing, Host.removeTree_eq locatedToo standingToo]
  cases host.removing dir with
  | none => exact ⟨rfl, agree.erase proper⟩
  | some refusal => exact ⟨rfl, agree.thin refusal.spares proper⟩

theorem Sees.enter (sees : first.Sees lost path) (agree : first.AgreeOff lost second) :
    SameTask lost (first.enter path) (second.enter path) := by
  have made := sees.makeDirectory agree
  unfold Disk.enter
  rw [← sees.isDirectory agree]
  generalize first.makeDirectory path = one, second.makeDirectory path = two at made ⊢
  cases made with
  | ok agree => exact ⟨rfl, agree⟩
  | error error => exact ⟨rfl, agree⟩

/-- After the directories above it, a directory is made on both disks. -/
theorem makeChain_then {outer : List Path} (lacks : first.makeDirectory path = .error .notFound)
    (lacksToo : second.makeDirectory path = .error .notFound)
    (inner : SameTask lost (first.makeChain outer) (second.makeChain outer))
    (entered : AgreeOff lost (first.makeChain outer).2 (second.makeChain outer).2 →
      SameTask lost ((first.makeChain outer).2.enter path) ((second.makeChain outer).2.enter path)) :
    SameTask lost (first.makeChain (path :: outer)) (second.makeChain (path :: outer)) := by
  rw [makeChain_of_notFound lacks, makeChain_of_notFound lacksToo]
  generalize first.makeChain outer = one, second.makeChain outer = two at inner entered ⊢
  obtain ⟨result, oneMade⟩ := one
  obtain ⟨same, twoMade⟩ := two
  obtain ⟨rfl, agree⟩ := inner
  cases result with
  | error error => exact ⟨rfl, agree⟩
  | ok value => exact entered agree

theorem makeChain_sees (agree : first.AgreeOff lost second) (paths : List Path)
    (sees : ∀ path ∈ paths, first.Sees lost path) :
    SameTask lost (first.makeChain paths) (second.makeChain paths) := by
  induction paths with
  | nil => exact ⟨rfl, agree⟩
  | cons path outer ih =>
      obtain ⟨here, above⟩ := List.forall_mem_cons.mp sees
      have both : first.makeDirectory path = .error .notFound ↔ _ :=
        (here.makeDirectory agree).error_iff
      by_cases lacks : first.makeDirectory path = .error .notFound
      · refine makeChain_then lacks (both.mp lacks) (ih above) fun agreeMade => ?_
        refine Sees.enter ?_ agreeMade
        unfold Sees
        rw [trail_congr (makeChain_grows_only first outer).home]
        exact here
      · rw [makeChain_of_ready lacks, makeChain_of_ready fun late => lacks (both.mpr late)]
        exact here.enter agree

/-- What is seen of a path is seen of all paths above it. -/
theorem Sees.above {outer : Path} (sees : first.Sees lost path) (above : Path.IsAbove outer path) :
    first.Sees lost outer := by
  rintro location (led | rfl)
  · exact sees location (Or.inl ((way_of_above above).subset led))
  · exact sees _ (place_mem_trail above)

theorem Sees.makeRoom (sees : first.Sees lost path) (agree : first.AgreeOff lost second) :
    SameTask lost (FileTask.makeRoom path first) (FileTask.makeRoom path second) := by
  unfold FileTask.makeRoom
  cases lies : path.parent? with
  | none => exact ⟨rfl, agree⟩
  | some dir =>
      by_cases blank : dir.text = ""
      · simp only [blank, if_true]
        exact ⟨rfl, agree⟩
      · simp only [blank, if_false]
        obtain ⟨same, agreeMade⟩ := makeChain_sees agree dir.ancestors fun outer member =>
          sees.above (Path.isAbove_of_parent lies member)
        exact ⟨by rw [makeDirectories, makeDirectories, same], agreeMade⟩

theorem enter_spare {location : Location} (located : disk.locate path = .ok location)
    (spare : disk.entry? location = none ∨ disk.entry? location = some .directory) :
    (disk.enter path).1 = .ok () ∧ AgreeOff {location} disk (disk.enter path).2 ∧
      disk.makeDirectory path ≠ .error .notFound := by
  unfold enter makeDirectory isDirectory
  rw [located]
  rcases spare with absent | standing
  · simp only [bind, Except.bind, absent]
    exact ⟨trivial, agreeOff_put disk location .directory, nofun⟩
  · simp only [bind, Except.bind, standing, decide_true, if_true]
    exact ⟨trivial, AgreeOff.refl _ _, nofun⟩

/-- A path that cannot be followed is neither made nor a directory. -/
theorem enter_lost {error : OsError} (unfound : disk.locate path = .error error) :
    disk.enter path = (.error error, disk) ∧ disk.makeDirectory path = .error error := by
  unfold enter makeDirectory isDirectory
  rw [unfound]
  exact ⟨rfl, rfl⟩

/-- Entering a room of which the two disks may differ. -/
theorem enter_room (agree : first.AgreeOff lost second) (same : first.locate path = second.locate path)
    (room : first.place path ∈ lost)
    (spare : ∀ disk ∈ [first, second], disk.entry? (first.place path) = none ∨
      disk.entry? (first.place path) = some .directory) :
    SameTask lost (first.enter path) (second.enter path) := by
  have found := same
  cases located : first.locate path with
  | error error =>
      rw [located] at found
      rw [(enter_lost located).1, (enter_lost found.symm).1]
      exact ⟨rfl, agree⟩
  | ok location =>
      rw [located] at found
      obtain ⟨-, -, rfl⟩ := (locate_eq_ok _ _ _).mp located
      obtain ⟨done, changed, -⟩ := enter_spare located (spare first List.mem_cons_self)
      obtain ⟨doneToo, changedToo, -⟩ :=
        enter_spare found.symm (spare second (List.mem_cons_of_mem _ List.mem_cons_self))
      have inside : {first.place path} ⊆ lost := by
        intro location here
        rw [show location = first.place path from here]
        exact room
      exact ⟨done.trans doneToo.symm,
        ((changed.mono inside).symm.trans agree).trans (changedToo.mono inside)⟩

theorem Sees.locate_join {dir : Path} {name : String} (sees : first.Sees lost dir)
    (agree : first.AgreeOff lost second) (nonempty : name ≠ "") (plain : '/' ∉ name.toList) :
    first.locate (dir.join name) = second.locate (dir.join name) := by
  refine locate_congr agree.home fun location member => agree.entry location ?_
  rw [way_join first dir nonempty plain] at member
  rcases List.mem_append.mp member with led | here
  · exact sees location (Or.inl led)
  · exact sees location (Or.inr (List.mem_singleton.mp here))

theorem Sees.aside {dir : Path} {outer : List Path} {location : Location}
    (sees : first.Sees lost dir) (above : ∀ path ∈ outer, Path.IsAbove path dir)
    (room : location ∈ lost) (home : disk.home = first.home) :
    Disk.entry? (disk.makeChain outer).2 location = disk.entry? location := by
  rcases (makeChain_grows_only disk outer).entry location with kept | ⟨⟨path, member, here⟩, -, -⟩
  · exact kept
  · rw [place_congr home.symm] at here
    exact absurd room (here ▸ sees _ (place_mem_trail (above path member)))

/-- A directory in a folder that both disks see, though they may differ in whether it is there. -/
theorem makeDirectories_room {dir : Path} {name : String}
    (proper : name ≠ "" ∧ name ≠ "." ∧ name ≠ "..") (plain : '/' ∉ name.toList)
    (agree : first.AgreeOff lost second) (sees : first.Sees lost dir)
    (room : name :: first.place dir ∈ lost)
    (spare : ∀ disk ∈ [first, second], disk.entry? (name :: first.place dir) = none ∨
      disk.entry? (name :: first.place dir) = some .directory) :
    SameTask lost (first.makeDirectories (dir.join name))
      (second.makeDirectories (dir.join name)) := by
  obtain ⟨nonempty, notDot, notDots⟩ := proper
  obtain ⟨outer, ancestors, above⟩ := ancestors_join dir nonempty plain notDot
  have place := place_join first dir nonempty plain notDot notDots
  rw [← place] at room spare
  have same := sees.locate_join agree nonempty plain
  have entered := enter_room agree same room spare
  rw [makeDirectories, makeDirectories, ancestors]
  cases located : first.locate (dir.join name) with
  | ok location =>
      obtain ⟨-, -, rfl⟩ := (locate_eq_ok _ _ _).mp located
      rw [makeChain_of_ready (enter_spare located (spare first List.mem_cons_self)).2.2,
        makeChain_of_ready (enter_spare (same.symm.trans located)
          (spare second (List.mem_cons_of_mem _ List.mem_cons_self))).2.2]
      exact entered
  | error error =>
      have fails := (enter_lost located).2
      have failsToo := (enter_lost (same.symm.trans located)).2
      by_cases lacks : error = .notFound
      · subst lacks
        have inner := makeChain_sees agree outer fun path member => sees.above (above path member)
        refine makeChain_then fails failsToo inner fun agreeMade => ?_
        have home := (makeChain_grows_only first outer).home
        have seesMade : Disk.Sees (first.makeChain outer).2 lost dir := by
          unfold Sees
          rw [trail_congr home]
          exact sees
        have placeMade : Disk.place (first.makeChain outer).2 (dir.join name) =
            first.place (dir.join name) := place_congr home
        refine enter_room agreeMade (seesMade.locate_join agreeMade nonempty plain)
          (placeMade ▸ room) ?_
        rw [placeMade]
        intro disk member
        rcases List.mem_pair.mp member with rfl | rfl
        · rw [sees.aside above room rfl]
          exact spare first List.mem_cons_self
        · rw [sees.aside above room agree.home.symm]
          exact spare second (List.mem_cons_of_mem _ List.mem_cons_self)
      · rw [makeChain_of_ready (by rw [fails]; exact fun same => lacks (Except.error.inj same)),
          makeChain_of_ready (by rw [failsToo]; exact fun same => lacks (Except.error.inj same))]
        exact entered

end Disk

end SpokenMarkup
