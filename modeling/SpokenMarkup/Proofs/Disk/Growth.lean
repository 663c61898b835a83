import SpokenMarkup.Proofs.Disk.Ways

set_option autoImplicit false

namespace SpokenMarkup

namespace Disk

/-- Some directories were made, each where nothing was. -/
structure Grows (places : Set Location) (before after : Disk) : Prop where
  home : before.home = after.home
  entry : ∀ location, after.entry? location = before.entry? location ∨
    (location ∈ places ∧ before.entry? location = none ∧ after.entry? location = some .directory)

variable {places wider : Set Location} {disk before between after : Disk}

theorem Grows.refl (places : Set Location) (disk : Disk) : Grows places disk disk :=
  ⟨rfl, fun _ => Or.inl rfl⟩

theorem Grows.trans (early : Grows places before between) (late : Grows places between after) :
    Grows places before after := by
  refine ⟨early.home.trans late.home, ?_⟩
  intro location
  rcases late.entry location with same | ⟨inside, absent, made⟩
  · rw [same]
    exact early.entry location
  · rcases early.entry location with same | ⟨-, -, stands⟩
    · rw [same] at absent
      exact Or.inr ⟨inside, absent, made⟩
    · rw [stands] at absent
      cases absent

theorem Grows.mono (grows : Grows places before after) (contained : places ⊆ wider) :
    Grows wider before after := by
  refine ⟨grows.home, ?_⟩
  intro location
  exact (grows.entry location).imp_right fun made => ⟨contained made.1, made.2⟩

theorem Grows.keeps (grows : Grows places before after) : Keeps ∅ before after := by
  refine ⟨grows.home, ?_, ?_⟩
  · intro location _ held
    rcases grows.entry location with same | ⟨-, absent, -⟩
    · rw [same]
      exact held
    · rw [absent] at held
      cases held
  · rintro location _ ⟨content, executable, held⟩
    rcases grows.entry location with same | ⟨-, absent, -⟩
    · exact ⟨content, executable, same.trans held⟩
    · rw [absent] at held
      cases held

theorem Grows.agreeOff (grows : Grows places before after) : AgreeOff places before after := by
  refine ⟨grows.home, ?_⟩
  intro location outside
  rcases grows.entry location with same | ⟨inside, -, -⟩
  · exact same.symm
  · exact absurd inside outside

theorem isDirectory_iff (disk : Disk) (path : Path) : disk.isDirectory path = true ↔
    disk.locate path = .ok (disk.place path) ∧
      disk.entry? (disk.place path) = some .directory := by
  unfold isDirectory
  cases located : disk.locate path with
  | error error => simp
  | ok location =>
      obtain ⟨-, -, rfl⟩ := (locate_eq_ok disk path location).mp located
      simp

theorem makeDirectory_ok (disk : Disk) (path : Path) (made : Disk)
    (done : disk.makeDirectory path = .ok made) :
    Grows {disk.place path} disk made ∧ made.isDirectory path = true := by
  unfold makeDirectory at done
  cases located : disk.locate path with
  | error error => simp [located, bind, Except.bind] at done
  | ok location =>
      simp only [located, bind, Except.bind] at done
      cases held : disk.entry? location with
      | some entry => simp [held] at done
      | none =>
          rw [held] at done
          obtain rfl := Except.ok.inj done
          have proper : location ≠ [] := by
            intro root
            rw [root] at held
            cases held
          have put := lookup_put_self disk location .directory proper
          obtain ⟨-, -, rfl⟩ := (locate_eq_ok disk path location).mp located
          have grows : Grows {disk.place path} disk (disk.put (disk.place path) .directory) := by
            refine ⟨rfl, ?_⟩
            intro other
            by_cases here : other = disk.place path
            · subst here
              exact Or.inr ⟨rfl, held, put⟩
            · exact Or.inl (lookup_put_of_ne disk _ other .directory here)
          have stays := grows.keeps.locate (fun _ _ => Set.notMem_empty _) located
          refine ⟨grows, (isDirectory_iff _ path).mpr ?_⟩
          rw [place_congr grows.home]
          exact ⟨stays, put⟩

def placesOf (disk : Disk) (paths : List Path) : Set Location :=
  {location | ∃ path ∈ paths, disk.place path = location}

/-- Making a directory and those above it makes directories at their places only, and there is a
directory at the path if it does not fail. -/
theorem makeChain_grows (disk : Disk) (path : Path) (outer : List Path) :
    Grows (disk.placesOf (path :: outer)) disk (disk.makeChain (path :: outer)).2 ∧
      ((disk.makeChain (path :: outer)).1 = .ok () →
        (disk.makeChain (path :: outer)).2.isDirectory path = true) := by
  have own : ∀ home : Disk, home.home = disk.home →
      {home.place path} ⊆ disk.placesOf (path :: outer) := by
    intro home same location member
    rw [show location = home.place path from member, place_congr same.symm]
    exact ⟨path, List.mem_cons_self, rfl⟩
  -- a directory that is there already is all that is asked for
  have settle : ∀ (made : Disk) (error : OsError),
      (if made.isDirectory path then .ok () else .error error : Except OsError Unit) = .ok () →
        made.isDirectory path = true := by
    intro made error done
    by_cases standing : made.isDirectory path = true
    · exact standing
    · rw [if_neg standing] at done
      cases done
  rw [makeChain]
  cases direct : disk.makeDirectory path with
  | ok made =>
      obtain ⟨grows, standing⟩ := makeDirectory_ok disk path made direct
      exact ⟨grows.mono (own disk rfl), fun _ => standing⟩
  | error error =>
      cases error with
      | notFound =>
          cases outer with
          | nil =>
              simp only [makeChain, direct]
              exact ⟨Grows.refl _ _, settle disk .notFound⟩
          | cons above rest =>
              have inner := (makeChain_grows disk above rest).1.mono
                (show _ ⊆ disk.placesOf (path :: above :: rest) from fun location inside =>
                  inside.imp fun _ found => ⟨List.mem_cons_of_mem _ found.1, found.2⟩)
              generalize disk.makeChain (above :: rest) = ending at inner ⊢
              obtain ⟨result, made⟩ := ending
              cases result with
              | error fault => exact ⟨inner, nofun⟩
              | ok done =>
                  simp only
                  cases again : made.makeDirectory path with
                  | ok whole =>
                      obtain ⟨grows, standing⟩ := makeDirectory_ok made path whole again
                      exact ⟨inner.trans (grows.mono (own made inner.home.symm)), fun _ => standing⟩
                  | error fault => exact ⟨inner, settle made fault⟩
      | _ => exact ⟨Grows.refl _ _, settle disk _⟩

/-- A file can be put at the path: nothing or a file is there. -/
structure Writable (disk : Disk) (path : Path) : Prop where
  bare : path.endsWithSlash = false
  located : disk.locate path = .ok (disk.place path)
  free : disk.entry? (disk.place path) ≠ some .directory

theorem Writable.proper {path : Path} (writable : disk.Writable path) : disk.place path ≠ [] := by
  intro root
  have free := writable.free
  rw [root] at free
  exact free rfl

theorem openForWriting_ok {path : Path} {mode executable : Bool} {location : Location}
    (opened : disk.openForWriting path mode = .ok (location, executable)) :
    disk.Writable path ∧ location = disk.place path := by
  unfold openForWriting at opened
  by_cases slash : path.endsWithSlash = true
  · rw [if_pos slash] at opened
    cases located : disk.locateDirectory path with
    | error error => simp [located, bind, Except.bind] at opened
    | ok folder =>
        simp only [located, bind, Except.bind] at opened
        rcases held : disk.entry? folder with _ | _ | _ <;> simp [held] at opened
  · rw [if_neg slash] at opened
    cases located : disk.locate path with
    | error error => simp [located, bind, Except.bind] at opened
    | ok place =>
        simp only [located, bind, Except.bind] at opened
        obtain ⟨-, -, rfl⟩ := (locate_eq_ok disk path place).mp located
        rcases held : disk.entry? (disk.place path) with _ | _ | ⟨content, old⟩
        · simp only [held, Except.ok.injEq, Prod.mk.injEq] at opened
          exact ⟨⟨Bool.eq_false_iff.mpr slash, located, by rw [held]; nofun⟩, opened.1.symm⟩
        · simp [held] at opened
        · simp only [held, Except.ok.injEq, Prod.mk.injEq] at opened
          exact ⟨⟨Bool.eq_false_iff.mpr slash, located, by rw [held]; nofun⟩, opened.1.symm⟩

/-- What came of writing a content to a path: it was refused, or a file is there, with all of the
content or with what the system has written of it before it broke off. -/
inductive Wrote (path : Path) (content : ByteArray) (disk : Disk) :
    Except OsError Unit × Disk → Prop
  | refused (error : OsError) : Wrote path content disk (.error error, disk)
  | whole (writable : disk.Writable path) (mode : Bool) :
    Wrote path content disk (.ok (), disk.put (disk.place path) (.file content mode))
  | broken (writable : disk.Writable path) (written : Nat) (mode : Bool) (error : OsError) :
    Wrote path content disk
      (.error error, disk.put (disk.place path) (.file (content.extract 0 written) mode))

theorem Wrote.of_done {path : Path} {content : ByteArray} {changed : Disk}
    (wrote : Wrote path content disk (.ok (), changed)) :
    disk.Writable path ∧ ∃ mode, changed = disk.put (disk.place path) (.file content mode) := by
  cases wrote with
  | whole writable mode => exact ⟨writable, mode, rfl⟩

theorem write_wrote (host : Host) (path : Path) (content : ByteArray) (disk : Disk) :
    Wrote path content disk (host.write path content disk) := by
  unfold Host.write Host.filled
  cases opened : disk.openForWriting path false with
  | error error => exact .refused error
  | ok found =>
      obtain ⟨location, mode⟩ := found
      obtain ⟨writable, rfl⟩ := openForWriting_ok opened
      cases host.writing path content with
      | none => exact .whole writable mode
      | some stop => exact .broken writable stop.1 mode stop.2

theorem openForCopying_ok {input output : Path} {copying : Copying}
    (opened : disk.openForCopying input output = .ok copying) :
    disk.Writable output ∧ copying.location = disk.place output ∧
      ∃ content, disk.openFile input = .ok (some (content, copying.executable)) ∧
        copying.content = if disk.place output = disk.place input then .empty else content := by
  unfold openForCopying at opened
  cases located : disk.locate input with
  | error error => simp [located, bind, Except.bind] at opened
  | ok source =>
      cases read : disk.openFile input with
      | error error => simp [located, read, bind, Except.bind] at opened
      | ok held =>
          cases held with
          | none => simp [located, read, bind, Except.bind] at opened
          | some pair =>
              obtain ⟨content, mode⟩ := pair
              cases found : disk.openForWriting output mode with
              | error error => simp [located, read, found, bind, Except.bind] at opened
              | ok target =>
                  obtain ⟨location, access⟩ := target
                  obtain ⟨writable, rfl⟩ := openForWriting_ok found
                  simp only [located, read, found, bind, Except.bind, Except.ok.injEq] at opened
                  obtain ⟨-, -, rfl⟩ := (locate_eq_ok disk input source).mp located
                  subst opened
                  exact ⟨writable, rfl, content, rfl, rfl⟩

theorem openForCopying_of_error {input output : Path} {error : OsError}
    (failed : disk.openFile input = .error error) :
    disk.openForCopying input output = .error error := by
  unfold openForCopying
  cases located : disk.locate input with
  | error other =>
      simp only [openFile, located, bind, Except.bind, Except.error.injEq] at failed
      rw [failed]
      rfl
  | ok source => simp only [failed, bind, Except.bind]

theorem openForCopying_of_none {input output : Path} (irregular : disk.openFile input = .ok none) :
    disk.openForCopying input output = .error .notRegular := by
  unfold openForCopying
  cases located : disk.locate input with
  | error other => simp [openFile, located, bind, Except.bind] at irregular
  | ok source => simp only [irregular, bind, Except.bind]

/-- A copy is refused, or it writes what is in the input. -/
theorem copy_wrote (host : Host) (input output : Path) (disk : Disk) :
    (∃ error, host.copy input output disk = (.error error, disk)) ∨
      ∃ content mode, disk.openFile input = .ok (some (content, mode)) ∧
        Wrote output (if disk.place output = disk.place input then .empty else content) disk
          (host.copy input output disk) := by
  unfold Host.copy Host.copied
  cases opened : disk.openForCopying input output with
  | error error => exact Or.inl ⟨error, rfl⟩
  | ok copying =>
      obtain ⟨location, copied, executable, mode⟩ := copying
      obtain ⟨writable, rfl, content, read, rfl⟩ := openForCopying_ok opened
      refine Or.inr ⟨content, executable, read, ?_⟩
      dsimp only
      generalize (if disk.place output = disk.place input then ByteArray.empty else content) = copied
      cases host.copying input output copied with
      | none => exact .whole writable executable
      | some stop =>
          cases stop with
          | mode error =>
              -- an empty file is what is written of any content before its first byte
              have nothing : copied.extract 0 0 = .empty := by simp
              rw [← nothing]
              exact .broken writable 0 mode error
          | transfer written error => exact .broken writable written executable error

/-- A file was put at a path, and nothing else was changed. -/
structure Saved (path : Path) (before after : Disk) : Prop where
  frame : AgreeOff {before.place path} before after
  keeps : Keeps ∅ before after
  isFile : after.isFile path = true

theorem Writable.saved {path : Path} (writable : disk.Writable path) (content : ByteArray)
    (mode : Bool) : Saved path disk (disk.put (disk.place path) (.file content mode)) := by
  have keeps := keeps_put disk (disk.place path) (.file content mode) writable.free
  refine ⟨agreeOff_put disk _ _, keeps, ?_⟩
  rw [isFile_eq_true_iff]
  have stays := keeps.locate (fun _ _ => Set.notMem_empty _) writable.located
  exact ⟨writable.bare, _, stays, content, mode, lookup_put_self disk _ _ writable.proper⟩

/-- What was written to a path is there, also if not all of it was written. -/
theorem Wrote.kept_or_saved {path : Path} {content : ByteArray} {ending : Except OsError Unit × Disk}
    (wrote : Wrote path content disk ending) :
    (∃ error, ending = (.error error, disk)) ∨ Saved path disk ending.2 := by
  cases wrote with
  | refused error => exact Or.inl ⟨error, rfl⟩
  | whole writable mode => exact Or.inr (writable.saved content mode)
  | broken writable written mode error => exact Or.inr (writable.saved _ mode)

/-- An operation that was refused, or saved a file, also if it failed after that. -/
def Saves (path : Path) (operation : Disk → Except OsError Unit × Disk) : Prop :=
  ∀ disk, (∃ error, operation disk = (.error error, disk)) ∨ Saved path disk (operation disk).2

theorem saves_write (host : Host) (path : Path) (content : ByteArray) :
    Saves path (host.write path content) :=
  fun disk => (write_wrote host path content disk).kept_or_saved

theorem saves_copy (host : Host) (input output : Path) : Saves output (host.copy input output) := by
  intro disk
  rcases copy_wrote host input output disk with refused | ⟨content, mode, -, wrote⟩
  · exact Or.inl refused
  · exact wrote.kept_or_saved

theorem Saves.saved {path : Path} {operation : Disk → Except OsError Unit × Disk}
    (saves : Saves path operation) (done : (operation disk).1 = .ok ()) :
    Saved path disk (operation disk).2 := by
  rcases saves disk with ⟨error, refused⟩ | saved
  · rw [refused] at done
    cases done
  · exact saved

end Disk

namespace FileTask

variable {before after : Disk}

theorem makeRoom_grows (target : Path) (disk : Disk) :
    Disk.Grows (disk.placesOf (target.parent?.elim [] Path.ancestors)) disk
      (makeRoom target disk).2 := by
  unfold makeRoom
  cases target.parent? with
  | none => exact Disk.Grows.refl _ _
  | some dir =>
      by_cases blank : dir.text = ""
      · simp only [blank, if_true]
        exact Disk.Grows.refl _ _
      · simp only [blank, if_false, Option.elim_some, Disk.makeDirectories]
        cases dir.ancestors with
        | nil => exact Disk.Grows.refl _ _
        | cons path outer => exact (Disk.makeChain_grows disk path outer).1

end FileTask

end SpokenMarkup
