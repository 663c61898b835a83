import SpokenMarkup.Proofs.Composition.Numbering

set_option autoImplicit false

namespace SpokenMarkup

namespace Disk

/-- The folder exists and holds nothing. -/
structure IsEmptyFolder (disk : Disk) (dir : Path) (folder : Location) : Prop where
  located : disk.locate dir = .ok folder
  standing : disk.entry? folder = some .directory
  empty : ∀ location ∈ below folder, disk.entry? location = none

/-- The location of the file with this number. -/
def numbered (folder : Location) (number : Nat) : Location :=
  numberedName number :: folder

/-- The locations of the files whose numbers lie in a range. -/
def numberedIn (folder : Location) (start stop : Nat) : Set Location :=
  {location | ∃ number, start ≤ number ∧ number < stop ∧ location = numbered folder number}

/-- Whether the path of a numbered file is short enough to be followed. -/
def Fits (dir : Path) (number : Nat) : Prop :=
  (numberedFile dir number).text.utf8ByteSize ≤ maxPathBytes ∧
    (numberedName number).utf8ByteSize ≤ maxNameBytes

instance (dir : Path) (number : Nat) : Decidable (Fits dir number) :=
  inferInstanceAs (Decidable (_ ∧ _))

variable {start disk : Disk} {dir : Path} {folder : Location} {number : Nat}

theorem numbered_injective {first second : Nat}
    (equal : numbered folder first = numbered folder second) : first = second :=
  numberedName_injective (List.cons.inj equal).1

theorem numbered_mem_below (folder : Location) (number : Nat) :
    numbered folder number ∈ below folder :=
  cons_mem_below (numberedName number) folder

theorem numbered_ne_nil (folder : Location) (number : Nat) : numbered folder number ≠ [] :=
  List.cons_ne_nil _ _

theorem numberedIn_subset_below (folder : Location) (first last : Nat) :
    numberedIn folder first last ⊆ below folder := by
  intro location inside
  rcases inside with ⟨number, -, -, rfl⟩
  exact numbered_mem_below folder number

theorem numbered_mem_numberedIn_iff {first last : Nat} :
    numbered folder number ∈ numberedIn folder first last ↔ first ≤ number ∧ number < last := by
  constructor
  · intro inside
    rcases inside with ⟨other, lower, upper, equal⟩
    rw [numbered_injective equal]
    exact ⟨lower, upper⟩
  · intro between
    exact ⟨number, between.1, between.2, rfl⟩

theorem numberedIn_mono {first last lower upper : Nat} (down : lower ≤ first) (up : last ≤ upper) :
    numberedIn folder first last ⊆ numberedIn folder lower upper := by
  intro location inside
  rcases inside with ⟨number, above, under, rfl⟩
  exact ⟨number, Nat.le_trans down above, Nat.lt_of_lt_of_le under up, rfl⟩

theorem empty_below_of_entries
    (clear : ∀ pair ∈ disk.entries, ¬(folder <:+ pair.1 ∧ pair.1 ≠ folder)) (location : Location)
    (inside : location ∈ below folder) : disk.entry? location = none := by
  unfold entry?
  rw [if_neg (ne_nil_of_mem_below inside), List.lookup_eq_none_iff]
  intro pair member
  rw [bne_iff_ne]
  intro same
  subst same
  exact clear pair member inside

section Numbered

variable (located : disk.locate dir = .ok folder) (standing : disk.entry? folder = some .directory)
include located

theorem endsWithSlash_numberedFile (number : Nat) :
    (numberedFile dir number).endsWithSlash = false := by
  obtain ⟨-, proper, -, -⟩ := (locate_eq_ok_iff disk dir folder).mp located
  obtain ⟨nonempty, -, -, plain, -, -⟩ :=
    (Path.isPlainName_iff _).mp (isPlainName_numberedName number)
  exact Path.endsWithSlash_join dir _ proper nonempty plain

include standing

theorem locate_numberedFile (number : Nat) :
    disk.locate (numberedFile dir number) =
      if Fits dir number then .ok (numbered folder number) else .error .nameTooLong := by
  rw [numberedFile_eq_join, locate_join disk dir folder _ located standing
    (isPlainName_numberedName number)]
  by_cases fits : Fits dir number
  · rw [if_pos fits]
    exact if_pos ⟨fits.1, fits.2⟩
  · rw [if_neg fits]
    exact if_neg fun within => fits ⟨within.1, within.2⟩

theorem makeRoom_numberedFile (number : Nat) :
    FileTask.makeRoom (numberedFile dir number) disk = (.ok (), disk) :=
  makeRoom_join disk dir folder _ located standing (isPlainName_numberedName number)

end Numbered

namespace IsEmptyFolder

theorem barred (fresh : IsEmptyFolder start dir folder) :
    ∀ location ∈ below folder, start.entry? location ≠ some .directory := by
  intro location inside
  rw [fresh.empty location inside]
  exact nofun

theorem located_later (fresh : IsEmptyFolder start dir folder)
    (agree : AgreeOff (below folder) start disk) : disk.locate dir = .ok folder :=
  agree.locate_eq fresh.barred dir folder fresh.located

theorem standing_later (fresh : IsEmptyFolder start dir folder)
    (agree : AgreeOff (below folder) start disk) : disk.entry? folder = some .directory := by
  rw [← agree.entry folder (not_mem_below_self folder)]
  exact fresh.standing

theorem locate_numberedFile (fresh : IsEmptyFolder start dir folder)
    (agree : AgreeOff (below folder) start disk) (number : Nat) :
    disk.locate (numberedFile dir number) =
      if Fits dir number then .ok (numbered folder number) else .error .nameTooLong :=
  Disk.locate_numberedFile (fresh.located_later agree) (fresh.standing_later agree) number

theorem locate_of_fits (fresh : IsEmptyFolder start dir folder)
    (agree : AgreeOff (below folder) start disk) (fits : Fits dir number) :
    disk.locate (numberedFile dir number) = .ok (numbered folder number) := by
  rw [fresh.locate_numberedFile agree, if_pos fits]

theorem makeRoom_numberedFile (fresh : IsEmptyFolder start dir folder)
    (agree : AgreeOff (below folder) start disk) (number : Nat) :
    FileTask.makeRoom (numberedFile dir number) disk = (.ok (), disk) :=
  Disk.makeRoom_numberedFile (fresh.located_later agree) (fresh.standing_later agree) number

theorem endsWithSlash_numberedFile (fresh : IsEmptyFolder start dir folder) (number : Nat) :
    (numberedFile dir number).endsWithSlash = false :=
  Disk.endsWithSlash_numberedFile fresh.located number

end IsEmptyFolder

/-- A path of dots, which leads nowhere else, however long it is. -/
def dotted (count : Nat) : Path :=
  ⟨String.ofList (List.replicate count ['.', '/']).flatten⟩

theorem names_dotted (count : Nat) : (dotted count).names = List.replicate count "." := by
  have pieces : Path.cut [] (List.replicate count ['.', '/']).flatten =
      List.replicate count "." ++ [""] := by
    induction count with
    | zero => rfl
    | succ count ih =>
        rw [List.replicate_succ, List.replicate_succ, List.cons_append, ← ih]
        rfl
  have kept : (List.replicate count ".").filter (· ≠ "") = List.replicate count "." := by
    apply List.filter_eq_self.mpr
    intro name member
    rw [List.eq_of_mem_replicate member]
    rfl
  rw [Path.names, Path.pieces, dotted, String.toList_ofList, pieces, List.filter_append, kept]
  simp

theorem isAbsolute_dotted {count : Nat} (positive : 0 < count) :
    (dotted count).isAbsolute = false := by
  obtain ⟨count, rfl⟩ := Nat.exists_eq_succ_of_ne_zero (Nat.ne_of_gt positive)
  simp [Path.isAbsolute, dotted, List.replicate_succ]

theorem endsWithSlash_dotted {count : Nat} (positive : 0 < count) :
    (dotted count).endsWithSlash = true := by
  obtain ⟨count, rfl⟩ := Nat.exists_eq_succ_of_ne_zero (Nat.ne_of_gt positive)
  simp [Path.endsWithSlash, dotted, List.replicate_succ']

theorem utf8ByteSize_dotted (count : Nat) : (dotted count).text.utf8ByteSize = 2 * count := by
  unfold dotted
  induction count with
  | zero => rfl
  | succ count ih =>
      have dot : (String.ofList ['.', '/']).utf8ByteSize = 2 := by decide
      simp only at ih
      rw [List.replicate_succ, List.flatten_cons, String.ofList_append, String.utf8ByteSize_append,
        ih, dot]
      omega

theorem dotted_ne_empty {count : Nat} (positive : 0 < count) : (dotted count).text ≠ "" := by
  intro blank
  have size := utf8ByteSize_dotted count
  rw [blank] at size
  simp at size
  omega

theorem hasNul_dotted (count : Nat) : (dotted count).hasNul = false := by
  have letters : ∀ c ∈ (List.replicate count ['.', '/']).flatten, c ∈ ['.', '/'] := by
    intro c member
    obtain ⟨piece, inside, within⟩ := List.mem_flatten.mp member
    rw [List.eq_of_mem_replicate inside] at within
    exact within
  rw [Path.hasNul, dotted, String.toList_ofList, List.contains_eq_mem, decide_eq_false_iff_not]
  intro member
  exact absurd (letters _ member) (by decide)

theorem isEmptyFolder_dotted (disk : Disk) (count : Nat) (positive : 0 < count)
    (short : 2 * count ≤ maxPathBytes) (standing : disk.entry? disk.home = some .directory)
    (empty : ∀ location ∈ below disk.home, disk.entry? location = none) :
    IsEmptyFolder disk (dotted count) disk.home := by
  refine ⟨?_, standing, empty⟩
  have size := utf8ByteSize_dotted count
  rw [locate_eq_ok_iff]
  refine ⟨hasNul_dotted count, dotted_ne_empty positive, by omega, ?_⟩
  · rw [isAbsolute_dotted positive, names_dotted, if_neg Bool.false_ne_true]
    have stays : ∀ steps, disk.walk disk.home (List.replicate steps ".") = .ok disk.home := by
      intro steps
      induction steps with
      | zero => rfl
      | succ steps ih =>
          rw [List.replicate_succ]
          simp only [walk, standing, if_true]
          exact ih
    exact stays _

theorem utf8ByteSize_numberedFile_dotted (count number : Nat) (positive : 0 < count) :
    (numberedFile (dotted count) number).text.utf8ByteSize =
      2 * count + (numberedName number).utf8ByteSize := by
  obtain ⟨-, -, -, plain, -, -⟩ := (Path.isPlainName_iff _).mp (isPlainName_numberedName number)
  have relative : (numberedName number).toList.head? ≠ some '/' :=
    fun first => plain (List.mem_of_mem_head? first)
  rw [numberedFile_eq_join, Path.join, if_neg relative, endsWithSlash_dotted positive, Bool.or_true,
    if_pos rfl, String.utf8ByteSize_append, utf8ByteSize_dotted]

/-- A folder that exists, and is neither the scratch folder nor inside of it. -/
structure StandsApart (disk : Disk) (dir : Path) (place folder : Location) : Prop where
  located : disk.locate dir = .ok place
  standing : disk.entry? place = some .directory
  apart : ¬folder <:+ place

/-- What a folder holds is the same on two disks that have both the folder and the file. -/
theorem openFile_join_congr {first second : Disk} {shelf : Path} {place : Location} {name : String}
    (located : first.locate shelf = .ok place) (standing : first.entry? place = some .directory)
    (locatedOther : second.locate shelf = .ok place)
    (standingOther : second.entry? place = some .directory)
    (held : first.entry? (name :: place) = second.entry? (name :: place))
    (plain : Path.isPlainName name = true) :
    second.openFile (shelf.join name) = first.openFile (shelf.join name) := by
  unfold openFile
  rw [locate_join second shelf place name locatedOther standingOther plain,
    locate_join first shelf place name located standing plain]
  split
  · simp only [bind, Except.bind, held]
  · rfl

/-- What such a folder holds is not changed by what is written below the scratch folder. -/
theorem StandsApart.openFile_join {shelf : Path} {place : Location} {name : String}
    (stands : StandsApart start shelf place folder) (fresh : IsEmptyFolder start dir folder)
    (agree : AgreeOff (below folder) start disk) (plain : Path.isPlainName name = true) :
    disk.openFile (shelf.join name) = start.openFile (shelf.join name) := by
  have outside : ∀ location, ¬folder <:+ location → location ∉ below folder :=
    fun location apart inside => apart inside.1
  have standing := stands.standing
  rw [agree.entry place (outside place stands.apart)] at standing
  have held : start.entry? (name :: place) = disk.entry? (name :: place) := by
    refine agree.entry _ ?_
    intro owned
    rcases owned with ⟨suffix, different⟩
    rcases List.suffix_cons_iff.mp suffix with equal | apart
    · exact different equal.symm
    · exact stands.apart apart
  exact openFile_join_congr stands.located stands.standing
    (agree.locate_eq fresh.barred shelf place stands.located) standing held plain

end Disk

end SpokenMarkup
