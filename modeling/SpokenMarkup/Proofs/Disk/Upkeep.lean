import SpokenMarkup.Proofs.Disk.Ancestry

set_option autoImplicit false

namespace SpokenMarkup

namespace Path

theorem chain_eq_cons {reversed kept : List String} {rest : List (List String)}
    (same : chain reversed = kept :: rest) :
    ∃ piece outer, kept = piece :: outer ∧ piece ≠ "" ∧ rest = chain outer := by
  induction reversed with
  | nil => cases same
  | cons piece outer ih =>
      rw [chain] at same
      split at same
      · exact ih same
      · rename_i proper
        obtain ⟨rfl, rfl⟩ := List.cons.inj same
        refine ⟨piece, outer, rfl, ?_, rfl⟩
        intro blank
        exact proper (by simp [blank])

/-- A path has names beyond those of the directories above the one that it lies in. -/
theorem names_of_parent {path parent outer : Path} (lies : path.parent? = some parent)
    (member : outer ∈ parent.ancestors) :
    ∃ name rest, path.names = outer.names ++ name :: rest := by
  unfold parent? ancestors at lies
  cases listed : chain path.pieces.reverse with
  | nil =>
      rw [listed] at lies
      cases lies
  | cons kept shorter =>
      obtain ⟨piece, front, rfl, filled, rfl⟩ := chain_eq_cons listed
      have whole : Disk.namesOf (piece :: front) <+: path.names := by
        have first : IsFront (piece :: front) path :=
          ⟨(mem_chain (by rw [listed]; exact List.mem_cons_self)).1, piece, front, rfl, filled⟩
        rw [← Disk.names_front first]
        exact first.isAbove.names
      rw [listed] at lies
      cases above : chain front with
      | nil =>
          -- the starting directory is not made
          rw [above] at lies
          simp only [List.map_cons, List.map_nil, Option.some.injEq] at lies
          subst lies
          rw [ancestors_start] at member
          cases member
      | cons second others =>
          rw [above] at lies
          simp only [List.map_cons, Option.some.injEq] at lies
          subst lies
          have inside : second ∈ chain front := by
            rw [above]
            exact List.mem_cons_self
          obtain ⟨suffix, ends⟩ := mem_chain inside
          have secondFront : IsFront second path := by
            refine ⟨suffix.trans ((List.suffix_cons piece front).trans ?_), ends⟩
            exact (mem_chain (by rw [listed]; exact List.mem_cons_self)).1
          have within : outer.names <+: Disk.namesOf front := by
            refine (isAbove_of_mem_ancestors member).names.trans ?_
            rw [Disk.names_front secondFront]
            exact (List.reverse_prefix.mpr suffix).filter _
          obtain ⟨rest, split⟩ := within
          obtain ⟨last, ends⟩ := whole
          rw [Disk.namesOf_cons, if_neg filled, ← split] at ends
          cases rest with
          | nil => exact ⟨piece, last, by rw [← ends]; simp⟩
          | cons name rest => exact ⟨name, rest ++ piece :: last, by rw [← ends]; simp⟩

end Path

namespace Disk

variable {disk before between after : Disk} {path outer : Path} {places wider : Set Location}

/-- A path passes all places that a path above it passes. -/
theorem way_of_above (above : Path.IsAbove outer path) : disk.way outer <+: disk.way path := by
  obtain ⟨rest, names⟩ := above.names
  have start : disk.origin outer = disk.origin path := by
    rw [origin, origin, above.absolute]
  rw [way, way, start, ← names, passed_append]
  exact List.prefix_append _ _

/-- Makes a directory whose parent should be there; one that is there already is fine. -/
def enter (disk : Disk) (path : Path) : Except OsError Unit × Disk :=
  match disk.makeDirectory path with
  | .ok made => (.ok (), made)
  | .error error => (if disk.isDirectory path then .ok () else .error error, disk)

/-- The missing directories above a directory are not made unless it cannot be made for lack of
them. -/
theorem makeChain_of_ready {outer : List Path} (ready : disk.makeDirectory path ≠ .error .notFound) :
    disk.makeChain (path :: outer) = disk.enter path := by
  rw [makeChain]
  unfold enter
  cases made : disk.makeDirectory path with
  | ok _ => rfl
  | error error =>
      cases error with
      | notFound => exact absurd made ready
      | _ => rfl

theorem makeChain_of_notFound {outer : List Path} (lacks : disk.makeDirectory path = .error .notFound) :
    disk.makeChain (path :: outer) =
      match disk.makeChain outer with
      | (.error error, made) => (.error error, made)
      | (.ok (), made) => made.enter path := by
  rw [makeChain, lacks]
  rfl

def onWay (disk : Disk) (path : Path) : Set Location :=
  {location | location ∈ disk.way path}

theorem makeRoom_grows_way (disk : Disk) (target : Path) :
    Grows (disk.onWay target) disk (FileTask.makeRoom target disk).2 := by
  refine (FileTask.makeRoom_grows target disk).mono ?_
  rintro location ⟨outer, member, rfl⟩
  cases lies : target.parent? with
  | none =>
      rw [lies] at member
      cases member
  | some parent =>
      rw [lies] at member
      obtain ⟨name, rest, names⟩ := Path.names_of_parent lies member
      exact place_mem_way (Path.isAbove_of_parent lies member).absolute names

theorem openFile_eq_some {content : ByteArray} {mode : Bool} :
    disk.openFile path = .ok (some (content, mode)) ↔ path.endsWithSlash = false ∧
      disk.locate path = .ok (disk.place path) ∧
      disk.entry? (disk.place path) = some (.file content mode) := by
  unfold openFile
  cases located : disk.locate path with
  | error error => simp [bind, Except.bind]
  | ok location =>
      obtain ⟨-, -, rfl⟩ := (locate_eq_ok disk path location).mp located
      simp only [bind, Except.bind]
      rcases held : disk.entry? (disk.place path) with _ | _ | ⟨other, access⟩
      · simp
      · simp
      · cases path.endsWithSlash with
        | true => simp
        | false => simp

theorem read_of_openFile {content : ByteArray} {mode : Bool}
    (opened : disk.openFile path = .ok (some (content, mode))) : disk.read path = .ok content := by
  simp [read, opened, bind, Except.bind]

theorem openFile_of_read {content : ByteArray} (told : disk.read path = .ok content) :
    ∃ mode, disk.openFile path = .ok (some (content, mode)) := by
  unfold read at told
  cases opened : disk.openFile path with
  | error error => simp [opened, bind, Except.bind] at told
  | ok held =>
      rw [opened] at told
      cases held with
      | none => cases told
      | some file =>
          cases told
          exact ⟨file.2, rfl⟩

/-- A file is read again as long as it stays and all directories on its way stay. -/
theorem read_kept {content : ByteArray} (home : before.home = after.home)
    (told : before.read path = .ok content)
    (held : after.entry? (before.place path) = before.entry? (before.place path))
    (standing : ∀ location ∈ before.way path, before.entry? location = some .directory →
      after.entry? location = some .directory) : after.read path = .ok content := by
  obtain ⟨mode, opened⟩ := openFile_of_read told
  obtain ⟨bare, located, file⟩ := openFile_eq_some.mp opened
  obtain ⟨sound, passedBy, -⟩ := (locate_eq_ok before path _).mp located
  have found : after.locate path = .ok (after.place path) := by
    apply (locate_eq_ok after path _).mpr
    refine ⟨sound, ?_, rfl⟩
    rw [way_congr home]
    exact fun location member => standing location member (passedBy location member)
  apply read_of_openFile
  apply openFile_eq_some.mpr
  refine ⟨bare, found, ?_⟩
  rw [place_congr home, held]
  exact file

/-- Nothing outside of a room is changed, and all directories stay. -/
structure StaysIn (room : Set Location) (before after : Disk) : Prop where
  frame : AgreeOff room before after
  directories : ∀ location, before.entry? location = some .directory →
    after.entry? location = some .directory

variable {room : Set Location}

theorem StaysIn.refl (room : Set Location) (disk : Disk) : StaysIn room disk disk :=
  ⟨AgreeOff.refl room disk, fun _ held => held⟩

theorem StaysIn.trans (early : StaysIn room before between) (late : StaysIn room between after) :
    StaysIn room before after :=
  ⟨early.frame.trans late.frame,
    fun location held => late.directories location (early.directories location held)⟩

theorem StaysIn.mono (stays : StaysIn room before after) (contained : room ⊆ wider) :
    StaysIn wider before after :=
  ⟨stays.frame.mono contained, stays.directories⟩

theorem StaysIn.locate (stays : StaysIn room before after) {location : Location}
    (located : before.locate path = .ok location) : after.locate path = .ok location := by
  obtain ⟨sound, standing, leads⟩ := (locate_eq_ok before path location).mp located
  rw [locate_eq_ok, way_congr stays.frame.home, place_congr stays.frame.home]
  exact ⟨sound, fun other member => stays.directories other (standing other member), leads⟩

theorem staysIn_of_agree (agree : AgreeOff ∅ before after) : StaysIn room before after := by
  refine ⟨agree.mono (Set.empty_subset _), ?_⟩
  intro location held
  rw [← agree.entry location (Set.notMem_empty _)]
  exact held

/-- Only the output is written, apart from missing directories on its way; a directory in the place
of the output stays. -/
structure Writes (output : Path) (before after : Disk) : Prop where
  home : before.home = after.home
  elsewhere : ∀ location, location ≠ before.place output →
    after.entry? location = before.entry? location ∨
      (location ∈ before.way output ∧ before.entry? location = none ∧
        after.entry? location = some .directory)
  standing : before.entry? (before.place output) = some .directory →
    after.entry? (before.place output) = some .directory

theorem Writes.refl (output : Path) (disk : Disk) : Writes output disk disk :=
  ⟨rfl, fun _ _ => Or.inl rfl, fun held => held⟩

theorem Grows.writes {output : Path} (grows : Grows (before.onWay output) before after) :
    Writes output before after :=
  ⟨grows.home, fun location _ => grows.entry location,
    fun held => grows.keeps.directories _ (Set.notMem_empty _) held⟩

theorem Writes.saved {output : Path} (writes : Writes output before between)
    (saved : Saved output between after) : Writes output before after := by
  have place : between.place output = before.place output := place_congr writes.home
  refine ⟨writes.home.trans saved.keeps.home, ?_, ?_⟩
  · intro location apart
    rw [← saved.frame.entry location (by rw [place]; exact apart)]
    exact writes.elsewhere location apart
  · intro held
    exact saved.keeps.directories _ (Set.notMem_empty _) (writes.standing held)

theorem Writes.trans {output : Path} (early : Writes output before between)
    (late : Writes output between after) : Writes output before after := by
  have place : between.place output = before.place output := place_congr early.home
  refine ⟨early.home.trans late.home, ?_, ?_⟩
  · intro location apart
    rcases late.elsewhere location (by rw [place]; exact apart) with same | ⟨onWay, missing, made⟩
    · rw [same]
      exact early.elsewhere location apart
    · rcases early.elsewhere location apart with same | ⟨-, -, standing⟩
      · rw [way_congr early.home] at onWay
        exact Or.inr ⟨onWay, same ▸ missing, made⟩
      · rw [standing] at missing
        cases missing
  · intro held
    have standing := late.standing
    rw [place] at standing
    exact standing (early.standing held)

/-- Where no directory is missing on its way, what writes the output writes nothing else. -/
theorem Writes.staysIn {output : Path} (writes : Writes output before after)
    (standing : ∀ location ∈ before.way output, before.entry? location = some .directory) :
    StaysIn {before.place output} before after := by
  have same : ∀ location, location ≠ before.place output →
      after.entry? location = before.entry? location := by
    intro location apart
    rcases writes.elsewhere location apart with same | ⟨onWay, missing, -⟩
    · exact same
    · rw [standing location onWay] at missing
      cases missing
  refine ⟨⟨writes.home, fun location apart => (same location apart).symm⟩, ?_⟩
  intro location held
  by_cases here : location = before.place output
  · rw [here] at held ⊢
    exact writes.standing held
  · rw [same location here]
    exact held

theorem Saved.staysIn (saved : Saved path before after) :
    StaysIn {before.place path} before after :=
  ⟨saved.frame, fun location held => saved.keeps.directories location (Set.notMem_empty _) held⟩

end Disk

end SpokenMarkup
