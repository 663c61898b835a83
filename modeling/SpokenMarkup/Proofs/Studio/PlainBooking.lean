import SpokenMarkup.Proofs.Studio.Booking
import SpokenMarkup.Proofs.Studio.Plain

set_option autoImplicit false

namespace SpokenMarkup

/-- A folder that renders look into and leave alone. -/
structure Grounds.Shelf {V : Type} (grounds : Grounds V) (shelf : Path) (place : Location) :
    Prop where
  located : grounds.start.locate shelf = .ok place
  standing : grounds.start.entry? place = some .directory
  aside : ∀ passedBy ∈ grounds.start.way shelf, passedBy ∉ grounds.rooms
  proper : place ∉ grounds.rooms
  untouched : ∀ name, name :: place ∉ grounds.own

theorem Grounds.Shelf.openFile_join {V : Type} {grounds : Grounds V} {shelf : Path}
    {place : Location} {disk : Disk} {name : String} (stands : grounds.Shelf shelf place)
    (admits : grounds.Admits disk) (plain : Path.isPlainName name = true) :
    disk.openFile (shelf.join name) = grounds.start.openFile (shelf.join name) :=
  Disk.openFile_join_congr stands.located stands.standing
    (admits.keeps.locate stands.aside stands.located)
    (admits.keeps.directories place stands.proper stands.standing)
    (admits.frame.entry _ (stands.untouched name)) plain

namespace Plain

def contents : List Reading → Option (List ByteArray)
  | [] => some []
  | .ok content :: rest => (contents rest).map (content :: ·)
  | .error _ :: _ => none

def ending (mark : ByteArray) (follows : Bool) : Reading → ExitStatus × Reading
  | .ok content => (.exited (if follows then 0 else 1), .ok (mark ++ content))
  | .error error => (.exited 1, .error error)

def saved (follows : Bool) (content : ByteArray) : Option Reading :=
  if follows then some (.ok content) else none

/-- What the plain equipment makes of what it reads. -/
def craft (disk : Disk) : Craft where
  join follows readings := (contents readings).bind fun parts => saved follows (joined parts)
  preset preset follows reading :=
    reading.toOption.bind fun content => saved follows (marked preset.name content)
  convert follows reading := reading.toOption.bind fun content => saved follows (marked "wav" content)
  program path follows reading :=
    (disk.executable path).map fun mark => ending mark follows reading

variable {disk other : Disk} {dir : Path} {folder : Location} {number : Nat}

theorem loadAll_none (inputs : List Path) (unread : contents (inputs.map disk.read) = none) :
    ∃ fault, loadAll inputs disk = (.error fault, disk) := by
  induction inputs with
  | nil => cases unread
  | cons input rest ih =>
      rw [List.map_cons] at unread
      cases read : disk.read input with
      | error error =>
          refine ⟨.audio (.reported ("read " ++ input.text ++ ": " ++ error.message)), ?_⟩
          rw [loadAll, task_bind]
          simp only [load, read]
      | ok content =>
          rw [read, contents, Option.map_eq_none_iff] at unread
          obtain ⟨fault, failed⟩ := ih unread
          refine ⟨fault, ?_⟩
          rw [loadAll, task_bind_ok _ (load_eq read), task_bind, failed]

theorem loadAll_some (inputs : List Path) (parts : List ByteArray)
    (read : contents (inputs.map disk.read) = some parts) :
    inputs.map disk.read = parts.map .ok := by
  induction inputs generalizing parts with
  | nil =>
      cases read
      rfl
  | cons input rest ih =>
      rw [List.map_cons] at read ⊢
      cases one : disk.read input with
      | error error =>
          rw [one] at read
          cases read
      | ok content =>
          rw [one, contents, Option.map_eq_some_iff] at read
          obtain ⟨others, later, rfl⟩ := read
          rw [ih others later, List.map_cons]

section Saving

variable {output : Path} {location : Location} {follows : Bool}
  (saves : ∀ content, Produces (saved follows content) output location disk
    (save output content disk))
include saves

theorem join_produces (inputs : List Path) :
    Produces ((craft other).join follows (inputs.map disk.read)) output location disk
      (mixer.join inputs output disk) := by
  simp only [craft, mixer]
  cases read : contents (inputs.map disk.read) with
  | none =>
      obtain ⟨fault, failed⟩ := loadAll_none inputs read
      rw [task_bind, failed]
      exact produces_none _ _ _ fault
  | some parts =>
      rw [task_bind_ok _ (loadAll_eq inputs parts (loadAll_some inputs parts read))]
      exact saves (joined parts)

theorem load_produces (label : String) (input : Path) :
    Produces ((disk.read input).toOption.bind fun content => saved follows (marked label content))
      output location disk ((do
        let content ← load input
        save output (marked label content) : FileTask Unit) disk) := by
  cases read : disk.read input with
  | ok content =>
      rw [task_bind_ok _ (load_eq read)]
      exact saves (marked label content)
  | error error =>
      rw [task_bind]
      simp only [load, read]
      exact produces_none _ _ _ _

end Saving

section Room

variable (housed : Housed dir folder disk) (free : disk.entry? (Disk.numbered folder number) = none)
include housed free

theorem save_produces (content : ByteArray) :
    Produces (saved (Disk.Fits dir number) content) (numberedFile dir number)
      (Disk.numbered folder number) disk (save (numberedFile dir number) content disk) := by
  have produces := housed.write_produces free {} content fun error =>
    .audio (.reported ("write " ++ (numberedFile dir number).text ++ ": " ++ error.message))
  have same : Host.written {} dir number content = saved (Disk.Fits dir number) content := by
    simp [Host.written, saved]
  rw [same] at produces
  exact produces

theorem program_produces (mark : ByteArray) (input : Path) :
    ∃ outcome after,
      Plain.program mark { arguments := [input.text, (numberedFile dir number).text] } disk =
        (outcome, after) ∧
      outcome.status = (ending mark (Disk.Fits dir number) (disk.read input)).1 ∧
      disk.AgreeOff {Disk.numbered folder number} after ∧
      (outcome.status.succeeded = true → after.read (numberedFile dir number) =
        (ending mark (Disk.Fits dir number) (disk.read input)).2) := by
  have equation : Plain.program mark { arguments := [input.text, (numberedFile dir number).text] }
      disk = respond mark (numberedFile dir number) (disk.read input) disk :=
    congrFun (program_apply mark input (numberedFile dir number)) disk
  rw [equation]
  clear equation
  cases disk.read input with
  | error error =>
      exact ⟨_, _, rfl, rfl, Disk.AgreeOff.refl _ _, fun succeeded => absurd succeeded (by decide)⟩
  | ok content =>
      by_cases fits : Disk.Fits dir number
      · have written : Host.write {} (numberedFile dir number) (mark ++ content) disk = _ :=
          (Disk.vacant_numberedFile housed.located housed.standing fits free).write_eq rfl
        have read := housed.read_put fits free (mark ++ content) false
        generalize numberedFile dir number = output at written read ⊢
        refine ⟨{ status := .exited 0 }, _, ?_, ?_, Disk.agreeOff_put disk _ _, fun _ => read⟩
        · simp only [respond, update_apply, written]
          rfl
        · simp only [ending, fits, decide_true, if_true]
      · have refused : Host.write {} (numberedFile dir number) (mark ++ content) disk =
            (.error .nameTooLong, disk) := by
          simp only [Host.write, housed.openForWriting_long fits]
        generalize numberedFile dir number = output at refused ⊢
        refine ⟨{ status := .exited 1 }, disk, ?_, ?_, Disk.AgreeOff.refl _ _,
          fun succeeded => absurd succeeded (by decide)⟩
        · simp only [respond, update_apply, refused]
          rfl
        · simp only [ending, fits, decide_false, Bool.false_eq_true, if_false]

section Programs

variable {program input : Path} {place : Location}
  (located : disk.locate program = .ok place) (inputs : IsArgument input)
  (outputs : IsArgument (numberedFile dir number))
  (same : disk.executable program = other.executable program)
include located inputs outputs same

omit housed free in
theorem launcher_refuses {error : OsError}
    (refused : (craft other).program program (Disk.Fits dir number) (disk.read input) =
      .error error) :
    launcher program { arguments := [input.text, (numberedFile dir number).text] } disk =
      .error error := by
  rw [launcher_eq located inputs outputs, same]
  simp only [craft] at refused
  cases held : other.executable program with
  | ok mark =>
      rw [held] at refused
      cases refused
  | error reason =>
      rw [held] at refused
      cases refused
      rfl

theorem launcher_runs {status : ExitStatus} {reading : Reading}
    (ended : (craft other).program program (Disk.Fits dir number) (disk.read input) =
      .ok (status, reading)) :
    ∃ outcome after,
      launcher program { arguments := [input.text, (numberedFile dir number).text] } disk =
        .ok (outcome, after) ∧
      outcome.status = status ∧ disk.AgreeOff {Disk.numbered folder number} after ∧
      (status.succeeded = true → after.read (numberedFile dir number) = reading) := by
  rw [launcher_eq located inputs outputs, same]
  simp only [craft] at ended
  cases held : other.executable program with
  | error reason =>
      rw [held] at ended
      cases ended
  | ok mark =>
      rw [held] at ended
      obtain ⟨outcome, after, launched, stopped, frame, made⟩ :=
        program_produces housed free mark input
      have whole : ending mark (Disk.Fits dir number) (disk.read input) = (status, reading) :=
        Except.ok.inj ended
      rw [whole] at stopped made
      rw [stopped] at made
      refine ⟨outcome, after, ?_, stopped, frame, made⟩
      rw [← launched]
      rfl

end Programs

end Room

variable {sounds filters : Path} {last : Nat}

/-- The plain equipment does what the plain craft says, on a disk whose filter programs are those of
another one, as long as the names of the files are not too long. -/
theorem governs (housed : Housed dir folder disk)
    (short : ∀ number < last, (numberedName number).utf8ByteSize ≤ Disk.maxNameBytes)
    (same : ∀ name, Path.isPlainName name = true →
      disk.openFile (filters.join name) = other.openFile (filters.join name)) :
    (craft other).Governs (equipment sounds filters) disk dir folder last where
  joins := by
    intro sources number _ _ _ free
    have saves := save_produces housed free
    generalize sources.map (numberedFile dir) = inputs, numberedFile dir number = output at saves ⊢
    exact join_produces saves inputs
  applies := by
    intro preset source _ number _ free
    have saves := save_produces housed free
    generalize numberedFile dir source = input, numberedFile dir number = output at saves ⊢
    exact load_produces saves preset.name input
  converts := by
    intro id asset _ number _ free
    have saves := save_produces housed free
    generalize numberedFile dir number = output at saves ⊢
    exact load_produces saves "wav" asset.path
  refuses := by
    intro id program offered source sources number bound error free refused
    have there := (programFor?_congr (fun name plain => (same name plain).symm) id).trans offered
    obtain ⟨executable, place, found⟩ := executable_offered same there
    have result := launcher_refuses found
      (isArgument_numberedFile housed.located (short source sources))
      (isArgument_numberedFile housed.located (short number bound)) executable refused
    generalize numberedFile dir source = input, numberedFile dir number = output at result ⊢
    exact result
  runs := by
    intro id program offered source sources number bound status reading free ended
    have there := (programFor?_congr (fun name plain => (same name plain).symm) id).trans offered
    obtain ⟨executable, place, found⟩ := executable_offered same there
    have result := launcher_runs housed free found
      (isArgument_numberedFile housed.located (short source sources))
      (isArgument_numberedFile housed.located (short number bound)) executable ended
    generalize numberedFile dir source = input, numberedFile dir number = output at result ⊢
    exact result

theorem governs_of_host {host : Host} {equipment : Equipment (Option String)} {craft : Craft}
    (governs : craft.Governs equipment disk dir folder last) :
    craft.Governs { equipment with host } disk dir folder last :=
  ⟨governs.joins, governs.applies, governs.converts, governs.refuses, governs.runs⟩

section Shelves

variable {grounds : Grounds (Option String)} {host : Host} {soundsPlace filtersPlace : Location}
  (equips : grounds.equipment = { equipment sounds filters with host })
  (filtersShelf : grounds.Shelf filters filtersPlace)
include equips filtersShelf

/-- With folders that the renders leave alone, the plain equipment finds the same in them. -/
theorem steady (soundsShelf : grounds.Shelf sounds soundsPlace) : grounds.Steady := by
  have assets : grounds.equipment.assets = (equipment sounds filters).assets := by rw [equips]
  have programs : grounds.equipment.programFor? = (equipment sounds filters).programFor? := by
    rw [equips]
    rfl
  refine ⟨?_, ?_, ?_⟩
  · intro disk admits id
    rw [assets]
    exact assets_congr (fun _ plain => soundsShelf.openFile_join admits plain) id
  · intro disk admits id asset found
    rw [assets] at found
    exact openFile_asset (fun _ plain => soundsShelf.openFile_join admits plain) found
  · intro disk admits id
    rw [programs]
    exact programFor?_congr (fun _ plain => filtersShelf.openFile_join admits plain) id

theorem governs_of_shelf {disk : Disk} (admits : grounds.Admits disk)
    (housed : Housed dir folder disk)
    (short : ∀ number < last, (numberedName number).utf8ByteSize ≤ Disk.maxNameBytes) :
    (craft grounds.start).Governs grounds.equipment disk dir folder last := by
  rw [equips]
  exact governs_of_host
    (governs housed short fun _ plain => filtersShelf.openFile_join admits plain)

end Shelves

/-- A session with the plain equipment that finds the studio with this disk and nobody at work. -/
def booking (start : Disk) (scratch sounds : Path) (host : Host) (requests : List Request) :
    Booking (Option String) where
  session :=
    { settings := { scratchDir := scratch }
      equipment := { equipment sounds ⟨"/sound-filters"⟩ with host }
      process := 1 }
  asked request := request ∈ requests
  opening := { disk := start, engine := none }
  craft := craft start
  sound := utterance

/-- A path that leads to a place without a detour. -/
structure Straight (disk : Disk) (path : Path) (place : Location) : Prop where
  arrives : disk.place path = place
  direct : ∀ location ∈ disk.way path, location = [] ∨ location = place

theorem straight_scratch (start : Disk) : Straight start ⟨"/scratch"⟩ ["scratch"] := by
  have absolute : Path.isAbsolute ⟨"/scratch"⟩ = true := by decide
  have names : Path.names ⟨"/scratch"⟩ = ["scratch"] := by decide
  refine ⟨?_, ?_⟩
  · rw [Disk.place, Disk.origin, absolute, names]
    rfl
  · intro location member
    rw [Disk.way, Disk.origin, absolute, names] at member
    exact Or.inl (List.mem_singleton.mp member)

/-- However long, a path of dots leads nowhere but to where it starts. -/
theorem straight_dotted (start : Disk) {count : Nat} (positive : 0 < count) :
    Straight start (Disk.dotted count) start.home := by
  have relative := Disk.isAbsolute_dotted positive
  have stays : ∀ steps, (Disk.reached start.home (List.replicate steps ".") = start.home) ∧
      ∀ location ∈ Disk.passed start.home (List.replicate steps "."), location = start.home := by
    intro steps
    induction steps with
    | zero => exact ⟨rfl, nofun⟩
    | succ steps ih =>
        rw [List.replicate_succ]
        exact ⟨ih.1, List.forall_mem_cons.mpr ⟨rfl, ih.2⟩⟩
  refine ⟨?_, fun location member => Or.inr ?_⟩
  · rw [Disk.place, Disk.origin, relative, Disk.names_dotted]
    exact (stays count).1
  · rw [Disk.way, Disk.origin, relative, Disk.names_dotted] at member
    exact (stays count).2 location member

section Sessions

variable {start : Disk} {scratch sounds : Path} {host : Host} {requests : List Request}
  {limit : Nat} {base : Location}

def trails (start : Disk) (base : Location) (requests : List Request) : List Location :=
  [] :: base ::
    (requests.filterMap (·.target)).flatMap fun target => start.place target :: start.way target

variable (straight : Straight start scratch base)
include straight

theorem rooms_below_scratch (sounds : Path) (host : Host) (requests : List Request) :
    (booking start scratch sounds host requests).rooms ⊆ Disk.below base := by
  have same : (booking start scratch sounds host requests).base = base := straight.arrives
  rw [← same]
  exact (booking start scratch sounds host requests).rooms_subset_below

theorem mem_trails {location : Location}
    (member : location ∈ (booking start scratch sounds host requests).trails) :
    location ∈ trails start base requests := by
  rcases member with led | ⟨request, asked, target, named, led⟩
  · change location ∈ start.trail scratch at led
    have known : location = [] ∨ location = base :=
      led.elim (straight.direct location) fun here => Or.inr (here.trans straight.arrives)
    rcases known with rfl | rfl
    · exact List.mem_cons_self
    · exact List.mem_cons_of_mem _ List.mem_cons_self
  · have wanted : target ∈ requests.filterMap (·.target) :=
      List.mem_filterMap.mpr ⟨request, asked, named⟩
    refine List.mem_cons_of_mem _ (List.mem_cons_of_mem _ (List.mem_flatMap.mpr ⟨target, wanted, ?_⟩))
    rcases led with way | here
    · exact List.mem_cons_of_mem _ way
    · rw [here]
      exact List.mem_cons_self

/-- A folder that stands beside what a plain session changes. -/
theorem shelf_of_apart {shelf : Path} {place : Location} (located : start.locate shelf = .ok place)
    (standing : start.entry? place = some .directory)
    (aside : ∀ location ∈ place :: start.way shelf, ¬base <:+ location)
    (untouched : ∀ location ∈ trails start base requests, location.tail ≠ place ∨ location = []) :
    (booking start scratch sounds host requests).grounds.Shelf shelf place := by
  have inside := rooms_below_scratch straight sounds host requests
  have away := aside place List.mem_cons_self
  refine ⟨located, standing, ?_, fun room => away (inside room).1, ?_⟩
  · exact fun passedBy member room =>
      aside passedBy (List.mem_cons_of_mem _ member) (inside room).1
  · rintro name (room | trail)
    · rcases List.suffix_cons_iff.mp (inside room).1 with equal | inner
      · exact (inside room).2 equal.symm
      · exact away inner
    · rcases untouched _ (mem_trails straight trail) with other | root
      · exact other rfl
      · cases root

/-- A plain session is prepared if nothing is below its scratch directory at the start. -/
theorem isPrepared {filtersPlace : Location} (home : start.entry? start.home = some .directory)
    (empty : ∀ location ∈ Disk.below base, start.entry? location = none)
    (aside : ∀ location ∈ trails start base requests, ¬(base <:+ location ∧ location ≠ base))
    (filtersShelf : (booking start scratch sounds host requests).grounds.Shelf ⟨"/sound-filters"⟩
      filtersPlace)
    (short : ∀ request ∈ requests,
      ∀ file < ((booking start scratch sounds host requests).session.tree request.markup).size,
        (numberedName file).utf8ByteSize ≤ Disk.maxNameBytes) :
    (booking start scratch sounds host requests).IsPrepared limit := by
  have inside := rooms_below_scratch straight sounds host requests
  refine ⟨rfl, home, fun location member => empty location (inside member), ?_, ?_, ?_⟩
  · exact fun location member room => aside location (mem_trails straight member) (inside room)
  · exact voice_repeats start [] none
  · intro request asked number _ disk admits housed
    exact governs_of_shelf rfl filtersShelf admits housed (short request asked)

end Sessions

def annex : Disk :=
  { house with
    entries := house.entries ++
      [(["sounds"], .directory), (["5.wav", "sounds"], .file "ding".toUTF8 false)] }

def chime : Request := ⟨"a:hi[5]", none⟩

def letter : Request := ⟨"hi", some ⟨"/new/o.wav"⟩⟩

theorem names_short : ∀ file < 3, (numberedName file).utf8ByteSize ≤ Disk.maxNameBytes := by
  decide +kernel

section Annex

def annexBooking (sounds : Path) : Booking (Option String) :=
  booking annex ⟨"/scratch"⟩ sounds {} [letter, chime]

theorem annex_filters (sounds : Path) :
    (annexBooking sounds).grounds.Shelf ⟨"/sound-filters"⟩ ["sound-filters"] :=
  shelf_of_apart (straight_scratch annex) rfl rfl (by decide) (by decide)

theorem annex_sounds : (annexBooking ⟨"/sounds"⟩).grounds.Shelf ⟨"/sounds"⟩ ["sounds"] :=
  shelf_of_apart (straight_scratch annex) rfl rfl (by decide) (by decide)

theorem annex_isPrepared (sounds : Path) : (annexBooking sounds).IsPrepared 2 := by
  have sizes : ∀ request ∈ [letter, chime], (Node.ofMarkup request.markup "udisen").size ≤ 3 := by
    decide +kernel
  refine isPrepared (straight_scratch annex) rfl (Disk.empty_below_of_entries (by decide))
    (by decide) (annex_filters sounds) ?_
  intro request asked file bound
  exact names_short file (Nat.lt_of_lt_of_le bound (sizes request asked))

theorem annex_isIsolated : (annexBooking ⟨"/sounds"⟩).IsIsolated 2 :=
  ⟨annex_isPrepared ⟨"/sounds"⟩, steady rfl (annex_filters _) annex_sounds⟩

end Annex

def word : Request := ⟨"a:hi", none⟩

section Camp

variable {count : Nat} {host : Host} {number : Nat}

/-- A session whose rooms are in the working directory, with a path to it that is as long as one
likes. -/
def camp (count : Nat) (host : Host) : Booking (Option String) :=
  booking annex (Disk.dotted count) ⟨"/sounds"⟩ host [word]

theorem camp_filters (positive : 0 < count) :
    (camp count host).grounds.Shelf ⟨"/sound-filters"⟩ ["sound-filters"] :=
  shelf_of_apart (straight_dotted annex positive) rfl rfl (by decide) (by decide)

theorem camp_sounds (positive : 0 < count) :
    (camp count host).grounds.Shelf ⟨"/sounds"⟩ ["sounds"] :=
  shelf_of_apart (straight_dotted annex positive) rfl rfl (by decide) (by decide)

theorem camp_isIsolated (positive : 0 < count) (limit : Nat) :
    (camp count host).IsIsolated limit := by
  have sizes : ∀ request ∈ [word], (Node.ofMarkup request.markup "udisen").size ≤ 3 := by
    decide +kernel
  refine ⟨?_, steady rfl (camp_filters positive) (camp_sounds positive)⟩
  refine isPrepared (straight_dotted annex positive) rfl (Disk.empty_below_of_entries (by decide))
    (by decide) (camp_filters positive) ?_
  intro request asked file bound
  exact names_short file (Nat.lt_of_lt_of_le bound (sizes request asked))

theorem size_camp (positive : 0 < count) (number : Nat) :
    ((camp count host).dir number).text.utf8ByteSize =
      2 * count + ((camp count host).session.roomName number).utf8ByteSize := by
  have relative := (camp count host).session.relative_roomName number
  have slash := Disk.endsWithSlash_dotted positive
  change ((Disk.dotted count).join ((camp count host).session.roomName number)).text.utf8ByteSize = _
  rw [Path.join, if_neg relative, slash, Bool.or_true, if_pos rfl, String.utf8ByteSize_append,
    Disk.utf8ByteSize_dotted]

theorem size_camp_room (count : Nat) (host : Host) (number : Nat) :
    ((camp count host).session.roomName number).utf8ByteSize =
      9 + max 4 (Nat.toDigits 10 number).length := by
  have mark : (camp count host).session.mark.utf8ByteSize = 9 := by
    change ("render-" ++ toString 1 ++ "-" : String).utf8ByteSize = 9
    decide +kernel
  rw [Session.size_roomName, mark]

theorem sound_camp (positive : 0 < count)
    (short : 2 * count + 9 + max 4 (Nat.toDigits 10 number).length ≤ Disk.maxPathBytes)
    (name : 9 + max 4 (Nat.toDigits 10 number).length ≤ Disk.maxNameBytes) :
    Disk.IsSound ((camp count host).dir number) := by
  have size := @size_camp count host positive number
  rw [size_camp_room] at size
  obtain ⟨nonempty, -, -⟩ :=
    (camp count host).session.proper_of_mark ((camp count host).session.mark_front number)
  have plain := (camp count host).session.plain_roomName number
  have clean : '\x00' ∉ ((camp count host).session.roomName number).toList :=
    (camp count host).session.not_mem_roomName number (by decide) (by decide) (by decide)
  have relative := (camp count host).session.relative_roomName number
  refine ⟨?_, ?_, by omega, ?_⟩
  · change ((Disk.dotted count).join ((camp count host).session.roomName number)).hasNul = false
    rw [Path.hasNul_join _ _ (Disk.dotted_ne_empty positive) plain clean]
    exact Disk.hasNul_dotted count
  · intro blank
    rw [blank] at size
    simp at size
    omega
  · intro one member
    change one ∈ ((Disk.dotted count).join ((camp count host).session.roomName number)).names at member
    rw [(Disk.names_join _ nonempty plain).1, Disk.names_dotted, List.mem_append] at member
    rcases member with dot | last
    · exact Or.inl (List.eq_of_mem_replicate dot)
    · rw [List.mem_singleton.mp last]
      exact Or.inr (Or.inr ((size_camp_room count host number).trans_le name))

theorem tree_word (count : Nat) (host : Host) :
    (camp count host).session.tree word.markup = .group [.speech "a" "hi" none] none := by
  change Node.ofMarkup "a:hi" "udisen" = _
  decide +kernel

theorem heard_word (count : Nat) (host : Host) (number : Nat) :
    (camp count host).grounds.heard ((camp count host).dir number) 0
        ((camp count host).session.tree word.markup) =
      if Disk.Fits ((camp count host).dir number) 1 ∧
          host.writing (numberedFile ((camp count host).dir number) 1) "<a:hi>".toUTF8 = none then
        host.duplicate (numberedFile ((camp count host).dir number) 1) ((camp count host).dir number) 0
          (.ok "<a:hi>".toUTF8)
      else none := by
  have own : (camp count host).grounds.equipment.host = host := rfl
  have said : (camp count host).grounds.sound "a" "hi" = .ok "<a:hi>".toUTF8 := rfl
  rw [tree_word]
  simp only [Grounds.heard, Grounds.heardAll, said, own, Except.toOption, Option.bind_some,
    Host.written]
  split <;> simp [Equipment.merged, own]

theorem fits_camp_iff (positive : 0 < count) {file : Nat}
    (name : (numberedName file).utf8ByteSize = 7) :
    Disk.Fits ((camp count host).dir number) file ↔
      2 * count + max 4 (Nat.toDigits 10 number).length + 17 ≤ Disk.maxPathBytes := by
  have limit : 7 ≤ Disk.maxNameBytes := by decide
  rw [Disk.Fits, Booking.size_file, size_camp positive, size_camp_room, name]
  omega

theorem heard_word_of_long (positive : 0 < count) (first : 2 * count + 21 ≤ Disk.maxPathBytes)
    (long : Disk.maxPathBytes < 2 * count + max 4 (Nat.toDigits 10 number).length + 17) :
    (camp count {}).grounds.heard ((camp count {}).dir number) 0
        ((camp count {}).session.tree word.markup) ≠
      (camp count {}).grounds.heard ((camp count {}).dir 0) 0
        ((camp count {}).session.tree word.markup) := by
  have names : (numberedName 1).utf8ByteSize = 7 ∧ (numberedName 0).utf8ByteSize = 7 := by
    decide +kernel
  have four : max 4 (Nat.toDigits 10 0).length = 4 := rfl
  have child : Disk.Fits ((camp count {}).dir 0) 1 := by
    rw [fits_camp_iff positive names.1, four]
    exact first
  have root : Disk.Fits ((camp count {}).dir 0) 0 := by
    rw [fits_camp_iff positive names.2, four]
    exact first
  have none : ¬Disk.Fits ((camp count {}).dir number) 1 := by
    rw [fits_camp_iff positive names.1]
    omega
  rw [heard_word, heard_word, if_neg fun both => none both.1, if_pos ⟨child, rfl⟩]
  simp [Host.duplicate, root]

theorem heard_word_of_full :
    let host := fullAt ⟨"./render-1-0001/001.wav"⟩
    (camp 1 host).grounds.heard ((camp 1 host).dir 1) 0 ((camp 1 host).session.tree word.markup) ≠
      (camp 1 host).grounds.heard ((camp 1 host).dir 0) 0
        ((camp 1 host).session.tree word.markup) := by
  intro host
  have full : ¬(Disk.Fits ((camp 1 host).dir 1) 1 ∧
      host.writing (numberedFile ((camp 1 host).dir 1) 1) "<a:hi>".toUTF8 = none) := by
    decide +kernel
  have free : (Disk.Fits ((camp 1 host).dir 0) 1 ∧
      host.writing (numberedFile ((camp 1 host).dir 0) 1) "<a:hi>".toUTF8 = none) ∧
      Disk.Fits ((camp 1 host).dir 0) 0 := by
    decide +kernel
  have copies : host.copying = fun _ _ _ => none := rfl
  rw [heard_word, heard_word, if_neg full, if_pos free.1]
  simp [Host.duplicate, free.2, copies]

end Camp

end Plain

end SpokenMarkup
