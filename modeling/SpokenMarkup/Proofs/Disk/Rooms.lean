import SpokenMarkup.Proofs.Disk.Scratch
import SpokenMarkup.Proofs.Disk.Ways

set_option autoImplicit false

namespace SpokenMarkup

namespace Disk

variable {disk : Disk} {location other base : Location} {dir : Path}

def within (location : Location) : Set Location :=
  {other | location <:+ other}

/-- Different names in a folder have nothing below them in common. -/
theorem within_disjoint {first second : String} (inside : other ∈ within (first :: base))
    (alsoInside : other ∈ within (second :: base)) : first = second := by
  have nested : first :: base <:+ second :: base :=
    List.suffix_of_suffix_length_le inside alsoInside (by simp)
  have equal := nested.eq_of_length (by simp)
  exact (List.cons.inj equal).1

theorem lookup_filter (entries : List (Location × Entry)) (keep : Location → Bool)
    (location : Location) :
    (entries.filter fun pair => keep pair.1).lookup location =
      if keep location then entries.lookup location else none := by
  induction entries with
  | nil => simp
  | cons pair rest ih =>
      obtain ⟨place, entry⟩ := pair
      by_cases same : location = place
      · subst same
        by_cases kept : keep location = true
        · simp [kept]
        · simp [kept, ih]
      · have passed : (location == place) = false := by simpa using same
        by_cases kept : keep place = true
        · simp [kept, List.lookup_cons, passed, ih]
        · simp [kept, List.lookup_cons, passed, ih]

theorem lookup_erase (disk : Disk) (location other : Location) (proper : location ≠ []) :
    entry? (disk.erase location) other =
      if location <:+ other then none else disk.entry? other := by
  unfold entry?
  by_cases root : other = []
  · subst root
    have outside : ¬location <:+ [] := fun inside => proper (List.suffix_nil.mp inside)
    simp [outside]
  · simp only [root, if_false, erase]
    rw [lookup_filter disk.entries (fun place => !location.isSuffixOf place) other]
    by_cases inside : location <:+ other
    · simp [inside]
    · simp [inside]

theorem lookup_thin (disk : Disk) (location other : Location) (spares : Location → Bool)
    (proper : location ≠ []) :
    entry? (disk.thin location spares) other =
      if location <:+ other ∧ other ≠ location ∧ spares other = false then none
      else disk.entry? other := by
  unfold entry?
  by_cases root : other = []
  · subst root
    have outside : ¬location <:+ [] := fun inside => proper (List.suffix_nil.mp inside)
    simp [outside]
  · simp only [root, if_false, thin]
    rw [lookup_filter disk.entries
      (fun place => !location.isSuffixOf place || place = location || spares place) other]
    by_cases inside : location <:+ other
    · by_cases same : other = location
      · simp [same]
      · cases spares other <;> simp [inside, same]
    · simp [inside]

/-- What is left of a place: nothing is new there, and all else is as it was. -/
structure Thinned (location : Location) (before after : Disk) : Prop where
  frame : AgreeOff (within location) before after
  fewer : ∀ other ∈ within location, after.entry? other = none ∨
    after.entry? other = before.entry? other

theorem Thinned.refl (location : Location) (disk : Disk) : Thinned location disk disk :=
  ⟨AgreeOff.refl _ disk, fun _ _ => Or.inr rfl⟩

theorem thinned_erase (disk : Disk) (location : Location) (proper : location ≠ []) :
    Thinned location disk (disk.erase location) := by
  have erased := fun other => lookup_erase disk location other proper
  refine ⟨⟨rfl, fun other outside => ?_⟩, fun other inside => ?_⟩
  · exact ((erased other).trans (if_neg outside)).symm
  · exact Or.inl ((erased other).trans (if_pos inside))

theorem thinned_thin (disk : Disk) (location : Location) (spares : Location → Bool)
    (proper : location ≠ []) : Thinned location disk (disk.thin location spares) := by
  refine ⟨⟨rfl, fun other outside => ?_⟩, fun other inside => ?_⟩
  · rw [lookup_thin disk location other spares proper, if_neg fun inside => outside inside.1]
  · rw [lookup_thin disk location other spares proper]
    split
    · exact Or.inl rfl
    · exact Or.inr rfl

end Disk

namespace Host

variable {disk : Disk} {location : Location} {dir : Path} {host : Host}

theorem removeTree_eq (located : disk.locate dir = .ok location)
    (standing : disk.entry? location = some .directory) :
    host.removeTree dir disk =
      match host.removing dir with
      | none => (.ok (), disk.erase location)
      | some refusal => (.error refusal.error, disk.thin location refusal.spares) := by
  cases removing : host.removing dir <;> simp only [removeTree, located, standing, removing]

theorem removeTree_thinned (located : disk.locate dir = .ok location)
    (standing : disk.entry? location = some .directory) (proper : location ≠ []) :
    Disk.Thinned location disk (host.removeTree dir disk).2 := by
  rw [removeTree_eq located standing]
  cases host.removing dir with
  | none => exact Disk.thinned_erase disk location proper
  | some refusal => exact Disk.thinned_thin disk location refusal.spares proper

/-- A directory is there after its removal if this was refused, and only then. -/
theorem removeTree_standing (located : disk.locate dir = .ok location)
    (standing : disk.entry? location = some .directory) (proper : location ≠ []) :
    Disk.entry? (host.removeTree dir disk).2 location =
      if host.removing dir = none then none else some .directory := by
  rw [removeTree_eq located standing]
  cases host.removing dir with
  | none => simp [Disk.lookup_erase _ _ _ proper]
  | some refusal => simp [Disk.lookup_thin _ _ _ _ proper, standing]

/-- A removal that is not refused leaves nothing at a place. -/
theorem removeTree_gone (located : disk.locate dir = .ok location)
    (standing : disk.entry? location = some .directory) (proper : location ≠ [])
    (removable : host.removing dir = none) :
    ∀ other ∈ Disk.within location, Disk.entry? (host.removeTree dir disk).2 other = none := by
  intro other inside
  rw [removeTree_eq located standing, removable]
  exact (Disk.lookup_erase disk location other proper).trans (if_pos inside)

end Host

end SpokenMarkup
