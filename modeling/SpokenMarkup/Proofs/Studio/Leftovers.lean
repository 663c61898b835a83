import SpokenMarkup.Proofs.Disk.Matching
import SpokenMarkup.Proofs.Studio.AllOrNothing
import SpokenMarkup.Proofs.Studio.Lockstep

set_option autoImplicit false

namespace SpokenMarkup

open Disk (numbered numberedIn)

namespace Disk

def IsSlot (held : Option Entry) : Prop :=
  held = none ∨ ∃ content, held = some (.file content false)

/-- What may be left at a location without being in the way: in the scratch directory itself a
directory, and further down a file that cannot be executed. -/
def Spare (base location : Location) (held : Option Entry) : Prop :=
  if location.tail = base then held = none ∨ held = some .directory else IsSlot held

/-- The two disks hold the same but below a directory, and paths start at the same place. -/
structure Beside (home base : Location) (first second : Disk) : Prop where
  home : first.home = home
  agree : first.AgreeOff (below base) second

/-- The two disks provide a task with the same inputs and a place for its output. -/
structure Provide (home base : Location) (inputs : List Path) (output : Path)
    (first second : Disk) : Prop extends Beside home base first second where
  found : ∀ input ∈ inputs, first.locate input = second.locate input
  opened : ∀ input ∈ inputs, first.openFile input = second.openFile input
  bare : output.endsWithSlash = false
  room : FileTask.makeRoom output first = (.ok (), first)
  roomToo : FileTask.makeRoom output second = (.ok (), second)
  located : first.locate output = second.locate output
  slot : IsSlot (first.entry? (first.place output))
  slotToo : IsSlot (second.entry? (second.place output))

end Disk

/-- A task ends in the same way on two disks, and what it leaves at a place if it succeeds is the
same. -/
structure SameEnd {α : Type} (place : Location) (success : Except Fault α → Prop)
    (one two : Except Fault α × Disk) : Prop where
  result : one.1 = two.1
  written : success one.1 → Disk.entry? one.2 place = Disk.entry? two.2 place

/-- What the equipment does depends on what a task is given, and not on what else is below a
directory; in particular not on what was at the output before. -/
structure Equipment.Impartial {V : Type} (equipment : Equipment V) (home base : Location) :
    Prop where
  finds : ∀ id first second, Disk.Beside home base first second →
    equipment.assets id first = equipment.assets id second
  plays : ∀ id seen asset first second, equipment.assets id seen = some asset →
    Disk.Beside home base first second →
    first.locate asset.path = second.locate asset.path ∧
      first.openFile asset.path = second.openFile asset.path
  offers : ∀ id first second, Disk.Beside home base first second →
    equipment.programFor? id first = equipment.programFor? id second
  activates : ∀ speaker engine first second, Disk.Beside home base first second →
    (equipment.voice.activate speaker engine first).1 =
        (equipment.voice.activate speaker engine second).1 ∧
      (equipment.voice.activate speaker engine first).2.1 =
        (equipment.voice.activate speaker engine second).2.1
  utters : ∀ text engine first second, Disk.Beside home base first second →
    (equipment.voice.utter text engine first).1 = (equipment.voice.utter text engine second).1 ∧
      (equipment.voice.utter text engine first).2.1 = (equipment.voice.utter text engine second).2.1
  joins : ∀ inputs output first second, Disk.Provide home base inputs output first second →
    SameEnd (first.place output) (· = .ok ()) (equipment.mixer.join inputs output first)
      (equipment.mixer.join inputs output second)
  applies : ∀ preset input output first second,
    Disk.Provide home base [input] output first second →
    SameEnd (first.place output) (· = .ok ()) (equipment.mixer.applyPreset preset input output first)
      (equipment.mixer.applyPreset preset input output second)
  converts : ∀ input output first second, Disk.Provide home base [input] output first second →
    SameEnd (first.place output) (· = .ok ()) (equipment.mixer.convert input output first)
      (equipment.mixer.convert input output second)
  runs : ∀ id seen program input output first second,
    equipment.programFor? id seen = some program →
    Disk.Provide home base [input] output first second →
    SameEnd (first.place output) (· = .ok .success)
      (runFilter equipment.launcher program input output first)
      (runFilter equipment.launcher program input output second)

section Tasks

open Disk

variable {home base : Location} {lost : Set Location} {inputs : List Path} {input output : Path}
  {first second disk : Disk}

structure SameMade (place : Location) (one two : Except OsError Unit × Disk) : Prop where
  result : one.1 = two.1
  written : one.1 = .ok () → Disk.entry? one.2 place = Disk.entry? two.2 place

theorem sameEnd_update {place : Location} {operation : Disk → Except OsError Unit × Disk}
    (fault : OsError → Fault) (made : SameMade place (operation first) (operation second)) :
    SameEnd place (· = .ok ()) (FileTask.update operation fault first)
      (FileTask.update operation fault second) := by
  refine ⟨congrArg (Except.mapError fault) made.result, fun succeeded => made.written ?_⟩
  rw [update_apply] at succeeded
  cases ended : (operation first).1 with
  | ok value => rfl
  | error error =>
      rw [ended] at succeeded
      cases succeeded

theorem openForWriting_slot (bare : output.endsWithSlash = false)
    (slot : IsSlot (disk.entry? (disk.place output))) (executable : Bool) :
    match disk.locate output with
    | .error error => disk.openForWriting output executable = .error error
    | .ok location => location ≠ [] ∧ ∃ mode, (executable = false → mode = false) ∧
        disk.openForWriting output executable = .ok (location, mode) := by
  unfold openForWriting
  rw [bare]
  simp only [Bool.false_eq_true, if_false, bind, Except.bind]
  cases located : disk.locate output with
  | error error => rfl
  | ok location =>
      obtain ⟨-, -, rfl⟩ := (locate_eq_ok _ _ _).mp located
      have proper : disk.place output ≠ [] := by
        intro root
        rw [root] at slot
        rcases slot with absent | ⟨_, held⟩
        · cases absent
        · cases held
      rcases slot with absent | ⟨content, held⟩
      · simp only [absent]
        exact ⟨proper, executable, fun same => same, rfl⟩
      · simp only [held]
        exact ⟨proper, false, fun _ => rfl, rfl⟩

theorem same_put (first second : Disk) {location : Location} (proper : location ≠ [])
    {result resultToo : Except OsError Unit} {entry entryToo : Entry} (same : result = resultToo)
    (alike : result = .ok () → entry = entryToo) :
    SameMade location (result, first.put location entry)
      (resultToo, second.put location entryToo) := by
  refine ⟨same, fun succeeded => ?_⟩
  rw [alike succeeded]
  exact (lookup_put_self first location _ proper).trans
    (lookup_put_self second location _ proper).symm

/-- How a file is opened for writing on two disks: on neither, or at one place on both. -/
inductive SameOpening (place : Location) (executable : Bool) :
    Except OsError (Location × Bool) → Except OsError (Location × Bool) → Prop
  | ok {mode modeToo : Bool} (proper : place ≠ []) (plain : executable = false → mode = modeToo) :
    SameOpening place executable (.ok (place, mode)) (.ok (place, modeToo))
  | error (error : OsError) : SameOpening place executable (.error error) (.error error)

theorem Disk.Provide.opening (provide : Provide home base inputs output first second)
    (executable : Bool) :
    SameOpening (first.place output) executable (first.openForWriting output executable)
      (second.openForWriting output executable) := by
  have one := openForWriting_slot provide.bare provide.slot executable
  have two := openForWriting_slot provide.bare provide.slotToo executable
  rw [← provide.located] at two
  cases located : first.locate output with
  | error error =>
      rw [located] at one two
      rw [one, two]
      exact .error error
  | ok location =>
      rw [located] at one two
      obtain ⟨-, -, rfl⟩ := (locate_eq_ok _ _ _).mp located
      obtain ⟨proper, mode, plain, opened⟩ := one
      obtain ⟨-, modeToo, plainToo, openedToo⟩ := two
      rw [opened, openedToo]
      exact .ok proper fun bare => (plain bare).trans (plainToo bare).symm

theorem Disk.Provide.write (provide : Provide home base inputs output first second) (host : Host)
    (content : ByteArray) :
    SameMade (first.place output) (host.write output content first)
      (host.write output content second) := by
  have opening := provide.opening false
  unfold Host.write
  generalize first.openForWriting output false = one, second.openForWriting output false = two
    at opening ⊢
  cases opening with
  | error error => exact ⟨rfl, nofun⟩
  | ok proper plain =>
      rw [plain rfl]
      exact same_put first second proper rfl fun _ => rfl

/-- A copy may break off before the output has its mode, but then it fails. -/
theorem copied_of_modes (host : Host) (input output : Path) (location : Location)
    (content : ByteArray) (executable mode modeToo : Bool) :
    (host.copied input output ⟨location, content, executable, mode⟩).1 =
        (host.copied input output ⟨location, content, executable, modeToo⟩).1 ∧
      ((host.copied input output ⟨location, content, executable, mode⟩).1 = .ok () →
        (host.copied input output ⟨location, content, executable, mode⟩).2 =
          (host.copied input output ⟨location, content, executable, modeToo⟩).2) := by
  unfold Host.copied
  dsimp only
  generalize host.copying input output content = broken
  rcases broken with _ | _ | _
  · exact ⟨rfl, fun _ => rfl⟩
  · exact ⟨rfl, nofun⟩
  · exact ⟨rfl, nofun⟩

theorem Disk.Provide.copy (provide : Provide home base inputs output first second) (host : Host)
    (member : input ∈ inputs) :
    SameMade (first.place output) (host.copy input output first)
      (host.copy input output second) := by
  unfold Host.copy openForCopying
  rw [← provide.found input member, ← provide.opened input member]
  cases first.locate input with
  | error error => exact ⟨rfl, nofun⟩
  | ok source =>
      cases first.openFile input with
      | error error => exact ⟨rfl, nofun⟩
      | ok held =>
          cases held with
          | none => exact ⟨rfl, nofun⟩
          | some pair =>
              have opening := provide.opening pair.2
              simp only [bind, Except.bind]
              generalize first.openForWriting output pair.2 = one,
                second.openForWriting output pair.2 = two at opening ⊢
              cases opening with
              | error error => exact ⟨rfl, nofun⟩
              | @ok mode modeToo proper plain =>
                  obtain ⟨same, alike⟩ := copied_of_modes host input output (first.place output)
                    (if first.place output = source then .empty else pair.1) pair.2 mode modeToo
                  exact same_put first second proper same alike

theorem sameEnd_after_room {α : Type} {place : Location} {success : Except Fault α → Prop}
    {next : FileTask α} (provide : Provide home base inputs output first second)
    (ends : SameEnd place success (next first) (next second)) :
    SameEnd place success ((FileTask.makeRoom output >>= fun _ => next) first)
      ((FileTask.makeRoom output >>= fun _ => next) second) := by
  rw [task_bind_ok _ provide.room, task_bind_ok _ provide.roomToo]
  exact ends

theorem Disk.Provide.copyTask (provide : Provide home base inputs output first second) (host : Host)
    (member : input ∈ inputs) :
    SameEnd (first.place output) (· = .ok ()) (FileTask.copy host input output first)
      (FileTask.copy host input output second) :=
  sameEnd_after_room provide (sameEnd_update _ (provide.copy host member))

theorem Disk.Sees.copyTask (sees : first.Sees lost input) (seesToo : first.Sees lost output)
    (agree : first.AgreeOff lost second) (host : Host) :
    SameTask lost (FileTask.copy host input output first)
      (FileTask.copy host input output second) := by
  have room := seesToo.makeRoom agree
  have home := (FileTask.makeRoom_grows output first).home
  rw [FileTask.copy, task_bind, task_bind]
  generalize FileTask.makeRoom output first = one, FileTask.makeRoom output second = two
    at room home ⊢
  obtain ⟨result, one⟩ := one
  obtain ⟨same, two⟩ := two
  obtain ⟨rfl, agreeMade⟩ := room
  cases result with
  | error fault => exact ⟨rfl, agreeMade⟩
  | ok value =>
      have seesMade : one.Sees lost input := by
        unfold Disk.Sees
        rw [trail_congr home]
        exact sees
      have seesTooMade : one.Sees lost output := by
        unfold Disk.Sees
        rw [trail_congr home]
        exact seesToo
      obtain ⟨ended, left⟩ := seesTooMade.copy agreeMade host (seesMade.locate agreeMade)
        (seesMade.openFile agreeMade)
      exact ⟨congrArg (Except.mapError _) ended, left⟩

/-- A filter program that cannot be started leaves everything as it is. -/
theorem runFilter_unavailable {launcher : Launcher} {program : Path} {reason : OsError}
    (room : FileTask.makeRoom output disk = (.ok (), disk))
    (ended : (runFilter launcher program input output disk).1 = .ok (.unavailable reason)) :
    (runFilter launcher program input output disk).2 = disk := by
  rw [runFilter, task_bind_ok _ room] at ended ⊢
  cases started : launcher program { arguments := [input.text, output.text] } disk with
  | error error =>
      rw [started] at ended
      cases error <;> rfl
  | ok ending =>
      obtain ⟨outcome, after⟩ := ending
      rw [started] at ended
      dsimp only at ended
      split at ended <;> cases ended

end Tasks

section Twins

variable {V : Type} {equipment : Equipment V} {home base folder : Location} {count : Nat}
  {dir : Path} {lost free : Set Location} {first second : Studio V}

/-- The two studios hold the same, but for what is lost on them in a directory; there are free places
among those. -/
structure Twins (home base : Location) (count : Nat) (lost free : Set Location)
    (first second : Studio V) : Prop where
  engine : first.engine = second.engine
  poisoned : first.poisoned = second.poisoned
  renders : first.renders = count
  rendersToo : second.renders = count
  home : first.disk.home = home
  agree : first.disk.AgreeOff lost second.disk
  inside : lost ⊆ Disk.below base
  doubtful : free ⊆ lost
  spare : ∀ location ∈ free, Disk.Spare base location (first.disk.entry? location) ∧
    Disk.Spare base location (second.disk.entry? location)

theorem Twins.beside (twins : Twins home base count lost free first second) :
    Disk.Beside home base first.disk second.disk :=
  ⟨twins.home, twins.agree.mono twins.inside⟩

/-- What is done to the disks of twins leaves twins, if the disks agree off the places that are
still lost then and nothing is done to those that are still free. -/
theorem Twins.onDisks (twins : Twins home base count lost free first second) {one two : Disk}
    {lostAfter freeAfter : Set Location} (starts : first.disk.home = one.home)
    (agree : one.AgreeOff lostAfter two) (fewer : lostAfter ⊆ lost) (doubtful : freeAfter ⊆ lostAfter)
    (kept : ∀ location ∈ freeAfter, location ∈ free ∧
      one.entry? location = first.disk.entry? location ∧
      two.entry? location = second.disk.entry? location) :
    Twins home base count lostAfter freeAfter { first with disk := one }
      { second with disk := two } := by
  refine ⟨twins.engine, twins.poisoned, twins.renders, twins.rendersToo,
    starts.symm.trans twins.home, agree, fewer.trans twins.inside, doubtful, ?_⟩
  intro location isFree
  obtain ⟨wasFree, same, sameToo⟩ := kept location isFree
  have spare := twins.spare location wasFree
  rw [← same, ← sameToo] at spare
  exact spare

theorem Twins.reset (twins : Twins home base count lost free first second)
    {after afterToo : Studio V} (disk : after.disk = first.disk) (diskToo : afterToo.disk = second.disk)
    (engine : after.engine = afterToo.engine) (poisoned : after.poisoned = afterToo.poisoned)
    (renders : after.renders = first.renders) (rendersToo : afterToo.renders = second.renders) :
    Twins home base count lost free after afterToo := by
  refine ⟨engine, poisoned, renders.trans twins.renders, rendersToo.trans twins.rendersToo, ?_, ?_,
    twins.inside, twins.doubtful, ?_⟩
  · rw [disk]
    exact twins.home
  · rw [disk, diskToo]
    exact twins.agree
  · rw [disk, diskToo]
    exact twins.spare

theorem Housed.later {room : Set Location} {before after : Disk} (housed : Housed dir folder before)
    (stays : before.StaysIn room after) : Housed dir folder after :=
  ⟨stays.locate housed.located, stays.directories folder housed.standing⟩

theorem Housed.file {one two : Disk} (housed : Housed dir folder one)
    (housedToo : Housed dir folder two) {source : Nat}
    (same : one.entry? (numbered folder source) = two.entry? (numbered folder source)) :
    one.locate (numberedFile dir source) = two.locate (numberedFile dir source) ∧
      one.openFile (numberedFile dir source) = two.openFile (numberedFile dir source) := by
  obtain ⟨located, standing⟩ := housed
  obtain ⟨locatedToo, standingToo⟩ := housedToo
  have found := (Disk.locate_numberedFile located standing source).trans
    (Disk.locate_numberedFile locatedToo standingToo source).symm
  refine ⟨found, ?_⟩
  unfold Disk.openFile
  rw [← found]
  cases led : one.locate (numberedFile dir source) with
  | error error => rfl
  | ok location =>
      obtain ⟨-, -, rfl⟩ := (Disk.locate_eq_ok _ _ _).mp led
      rw [(numberedFile_way located standing source).2]
      simp only [bind, Except.bind]
      rw [same]

structure TwinRooms (home base : Location) (count : Nat) (dir : Path) (folder : Location)
    (lost free : Set Location) (first second : Studio V) : Prop
    extends Twins home base count lost free first second where
  housed : Housed dir folder first.disk
  housedToo : Housed dir folder second.disk

theorem TwinRooms.file (twins : TwinRooms home base count dir folder lost free first second)
    {source : Nat} (known : numbered folder source ∉ lost) :
    first.disk.locate (numberedFile dir source) = second.disk.locate (numberedFile dir source) ∧
      first.disk.openFile (numberedFile dir source) =
        second.disk.openFile (numberedFile dir source) :=
  twins.housed.file twins.housedToo (twins.agree.entry _ known)

theorem TwinRooms.provide (twins : TwinRooms home base count dir folder lost free first second)
    (apart : folder ≠ base) {inputs : List Path} {number : Nat}
    (alike : ∀ input ∈ inputs, first.disk.locate input = second.disk.locate input ∧
      first.disk.openFile input = second.disk.openFile input)
    (owned : numbered folder number ∈ free) :
    Disk.Provide home base inputs (numberedFile dir number) first.disk second.disk := by
  obtain ⟨located, standing⟩ := twins.housed
  obtain ⟨locatedToo, standingToo⟩ := twins.housedToo
  have slots := twins.spare _ owned
  unfold Disk.Spare at slots
  rw [if_neg (show (numbered folder number).tail ≠ base from apart),
    if_neg (show (numbered folder number).tail ≠ base from apart)] at slots
  refine ⟨twins.beside, fun input member => (alike input member).1,
    fun input member => (alike input member).2, Disk.endsWithSlash_numberedFile located number,
    Disk.makeRoom_numberedFile located standing number,
    Disk.makeRoom_numberedFile locatedToo standingToo number, ?_, ?_, ?_⟩
  · exact (Disk.locate_numberedFile located standing number).trans
      (Disk.locate_numberedFile locatedToo standingToo number).symm
  · rw [(numberedFile_way located standing number).2]
    exact slots.1
  · rw [(numberedFile_way locatedToo standingToo number).2]
    exact slots.2

def wonBy {α : Type} (place : Location) (success : Except Fault α → Prop)
    (result : Except Fault α) : Set Location :=
  {location | success result ∧ location = place}

def usedBy {α : Type} (place : Location) (idle : Except Fault α → Prop)
    (result : Except Fault α) : Set Location :=
  {location | ¬idle result ∧ location = place}

/-- A task in the room leaves twins. -/
theorem TwinRooms.onDisk (twins : TwinRooms home base count dir folder lost free first second)
    (writes : equipment.WritesOutputs) {α : Type} {task : FileTask α} {number : Nat}
    (listed : equipment.Task dir number task) (owned : numbered folder number ∈ free)
    {success idle : Except Fault α → Prop} (busy : ∀ result, success result → ¬idle result)
    (ends : SameEnd (numbered folder number) success (task first.disk) (task second.disk))
    (rests : ∀ disk ∈ [first.disk, second.disk], idle (task disk).1 → (task disk).2 = disk) :
    (task first.disk).1 = (task second.disk).1 ∧
      TwinRooms home base count dir folder
        (lost \ wonBy (numbered folder number) success (task first.disk).1)
        (free \ usedBy (numbered folder number) idle (task first.disk).1)
        { first with disk := (task first.disk).2 } { second with disk := (task second.disk).2 } := by
  have stays := task_staysIn writes twins.housed.located twins.housed.standing listed
  have staysToo := task_staysIn writes twins.housedToo.located twins.housedToo.standing listed
  have restsOne := rests first.disk List.mem_cons_self
  have restsTwo := rests second.disk (List.mem_cons_of_mem _ List.mem_cons_self)
  generalize task first.disk = one, task second.disk = two
    at ends stays staysToo restsOne restsTwo ⊢
  obtain ⟨result, one⟩ := one
  obtain ⟨resultToo, two⟩ := two
  obtain ⟨rfl, written⟩ := ends
  refine ⟨rfl, ⟨twins.onDisks stays.frame.home ⟨?_, ?_⟩ Set.sdiff_subset ?_ ?_,
    twins.housed.later stays, twins.housedToo.later staysToo⟩⟩
  · exact (stays.frame.home.symm.trans twins.agree.home).trans staysToo.frame.home
  · intro location outside
    by_cases here : location = numbered folder number
    · have won : location ∈ wonBy (numbered folder number) success result := by
        by_contra notWon
        exact outside ⟨twins.doubtful (here ▸ owned), notWon⟩
      rw [here]
      exact written won.1
    · have kept : location ∉ lost := fun inside => outside ⟨inside, fun won => here won.2⟩
      rw [← stays.frame.entry location here, ← staysToo.frame.entry location here]
      exact twins.agree.entry location kept
  · rintro location ⟨isFree, unused⟩
    exact ⟨twins.doubtful isFree, fun won => unused ⟨busy _ won.1, won.2⟩⟩
  · rintro location ⟨isFree, unused⟩
    refine ⟨isFree, ?_⟩
    by_cases here : location = numbered folder number
    · have rested : idle result := by
        by_contra notIdle
        exact unused ⟨notIdle, here⟩
      obtain rfl : one = first.disk := restsOne rested
      obtain rfl : two = second.disk := restsTwo rested
      exact ⟨rfl, rfl⟩
    · exact ⟨(stays.frame.entry location here).symm, (staysToo.frame.entry location here).symm⟩

theorem TwinRooms.still (twins : TwinRooms home base count dir folder lost free first second)
    {after afterToo : Studio V} (silent : first.disk.AgreeOff ∅ after.disk)
    (silentToo : second.disk.AgreeOff ∅ afterToo.disk) (engine : after.engine = afterToo.engine)
    (poisoned : after.poisoned = afterToo.poisoned) (renders : after.renders = first.renders)
    (rendersToo : afterToo.renders = second.renders) :
    TwinRooms home base count dir folder lost free after afterToo := by
  have stays : first.disk.StaysIn ∅ after.disk := Disk.staysIn_of_agree silent
  have staysToo : second.disk.StaysIn ∅ afterToo.disk := Disk.staysIn_of_agree silentToo
  have agree := ((silent.mono (Set.empty_subset _)).symm.trans twins.agree).trans
    (silentToo.mono (Set.empty_subset _))
  have changed := twins.onDisks silent.home agree (subset_refl _) twins.doubtful
    fun location isFree => ⟨isFree, (silent.entry location (Set.notMem_empty _)).symm,
      (silentToo.entry location (Set.notMem_empty _)).symm⟩
  exact ⟨changed.reset rfl rfl engine poisoned renders rendersToo, twins.housed.later stays,
    twins.housedToo.later staysToo⟩

theorem TwinRooms.call (twins : TwinRooms home base count dir folder lost free first second) {α : Type}
    {request : V → Disk → Reply α × V × Disk}
    (silent : ∀ engine disk, Disk.AgreeOff ∅ disk (request engine disk).2.2)
    (same : ∀ engine first second, Disk.Beside home base first second →
      (request engine first).1 = (request engine second).1 ∧
        (request engine first).2.1 = (request engine second).2.1) :
    (Studio.call request first).1 = (Studio.call request second).1 ∧
      TwinRooms home base count dir folder lost free (Studio.call request first).2
        (Studio.call request second).2 := by
  obtain ⟨sameReply, sameEngine⟩ := same first.engine _ _ twins.beside
  have silentOne := silent first.engine first.disk
  have silentTwo := silent first.engine second.disk
  unfold Studio.call
  rw [← twins.engine]
  generalize request first.engine first.disk = one, request first.engine second.disk = two
    at sameReply sameEngine silentOne silentTwo ⊢
  obtain ⟨reply, engine, one⟩ := one
  obtain ⟨replyToo, engineToo, two⟩ := two
  obtain rfl : reply = replyToo := sameReply
  obtain rfl : engine = engineToo := sameEngine
  cases reply with
  | done value => exact ⟨rfl, twins.still silentOne silentTwo rfl twins.poisoned rfl rfl⟩
  | failed fault => exact ⟨rfl, twins.still silentOne silentTwo rfl twins.poisoned rfl rfl⟩
  | crashed => exact ⟨rfl, twins.still silentOne silentTwo rfl rfl rfl rfl⟩

theorem TwinRooms.noting (twins : TwinRooms home base count dir folder lost free first second)
    (event : Event) :
    TwinRooms home base count dir folder lost free (first.noting event) (second.noting event) :=
  twins.still (Disk.AgreeOff.refl _ _) (Disk.AgreeOff.refl _ _) twins.engine twins.poisoned rfl rfl

theorem TwinRooms.speakAs (twins : TwinRooms home base count dir folder lost free first second)
    (writes : equipment.WritesOutputs) (impartial : equipment.Impartial home base)
    (speaker text : String) :
    (equipment.voice.speakAs speaker text first).1 =
        (equipment.voice.speakAs speaker text second).1 ∧
      TwinRooms home base count dir folder lost free (equipment.voice.speakAs speaker text first).2
        (equipment.voice.speakAs speaker text second).2 := by
  have uttered := fun {first second : Studio V}
      (twins : TwinRooms home base count dir folder lost free first second) =>
    twins.call (writes.utters text) (impartial.utters text)
  rw [speakAs_apply, speakAs_apply, ← twins.poisoned, ← twins.engine]
  by_cases poisoned : first.poisoned = true
  · rw [if_pos poisoned, if_pos poisoned]
    exact ⟨rfl, twins⟩
  · rw [if_neg poisoned, if_neg poisoned]
    by_cases active : equipment.voice.active first.engine = some speaker
    · rw [if_pos active, if_pos active]
      exact uttered twins
    · rw [if_neg active, if_neg active]
      have activated := (twins.noting (.speakerSwitched speaker)).call (writes.activates speaker)
        (impartial.activates speaker)
      generalize Studio.call (equipment.voice.activate speaker)
          (first.noting (.speakerSwitched speaker)) = one,
        Studio.call (equipment.voice.activate speaker)
          (second.noting (.speakerSwitched speaker)) = two at activated ⊢
      obtain ⟨result, one⟩ := one
      obtain ⟨resultToo, two⟩ := two
      obtain ⟨rfl, still⟩ := activated
      cases result with
      | error fault => exact ⟨rfl, still⟩
      | ok value => exact uttered still

theorem TwinRooms.seesSame (twins : TwinRooms home base count dir folder lost free first second)
    (impartial : equipment.Impartial home base) : equipment.SeesSame first second :=
  fun id => ⟨impartial.finds id _ _ twins.beside, impartial.offers id _ _ twins.beside⟩

end Twins

section Tree

variable {V α : Type} {happened : Studio V → Studio V → Prop} {equipment : Equipment V}
  {home base folder : Location} {count : Nat} {dir : Path} {number : Nat} {sure own : Set Location}

theorem locked_idle {change : Studio V → Studio V}
    (idle : ∀ studio, ∃ journal, change studio = { studio with journal }) :
    Locked happened (TwinRooms home base count dir folder) sure own (modify change : StudioJob V PUnit)
      fun _ => ∅ := by
  refine locked_step (fun _ => True) ?_ fun _ _ => locked_pure (Set.empty_subset _)
  intro lost free first second _ twins
  refine ⟨trivial, rfl, ?_⟩
  obtain ⟨journal, noted⟩ := idle first
  obtain ⟨journalToo, notedToo⟩ := idle second
  change TwinRooms home base count dir folder lost free (change first) (change second)
  rw [noted, notedToo]
  exact twins.still (Disk.AgreeOff.refl _ _) (Disk.AgreeOff.refl _ _) twins.engine twins.poisoned
    rfl rfl

theorem locked_noting (event : Event) :
    Locked happened (TwinRooms home base count dir folder) sure own
      (modify (·.noting event) : StudioJob V PUnit) fun _ => ∅ :=
  locked_idle fun _ => ⟨_, rfl⟩

theorem locked_get (impartial : equipment.Impartial home base) {next : Studio V → StudioJob V α}
    {gains : α → Set Location}
    (blind : ∀ first second, equipment.SeesSame first second → next first = next second)
    (rest : ∀ seen,
      Locked happened (TwinRooms home base count dir folder) sure own (next seen) gains) :
    Locked happened (TwinRooms home base count dir folder) sure own
      (get >>= next : StudioJob V α) gains :=
  locked_step (fun _ => True) (fun _ _ first second _ twins =>
    ⟨trivial, congrArg ExceptT.run (blind first second (twins.seesSame impartial)), twins⟩)
    fun seen _ => rest seen

theorem locked_speakAs (writes : equipment.WritesOutputs) (impartial : equipment.Impartial home base)
    (speaker text : String) :
    Locked happened (TwinRooms home base count dir folder) sure own
      (Equipment.attempt (equipment.voice.speakAs speaker text)) fun _ => ∅ := by
  refine locked_step (fun _ => True) ?_ ?_
  · intro lost free first second _ twins
    obtain ⟨same, still⟩ := twins.speakAs writes impartial speaker text
    exact ⟨trivial, congrArg _ same, still⟩
  · intro result _
    cases result with
    | ok value => exact locked_pure (Set.empty_subset _)
    | error fault => exact locked_throw

theorem locked_onDisk (writes : equipment.WritesOutputs) {task : FileTask α} {β : Type}
    {next : Except Fault α → Job (Studio V) (Except Fault β)} {gains : β → Set Location}
    (listed : equipment.Task dir number task) (owned : numbered folder number ∈ own)
    {success idle : Except Fault α → Prop} (busy : ∀ result, success result → ¬idle result)
    (ends : ∀ lost free (first second : Studio V),
      TwinRooms home base count dir folder lost free first second →
      (∀ location ∈ sure, location ∉ lost) → numbered folder number ∈ free →
      SameEnd (numbered folder number) success (task first.disk) (task second.disk))
    (rests : ∀ disk, Housed dir folder disk → idle (task disk).1 → (task disk).2 = disk)
    (later : ∀ result, Locked happened (TwinRooms home base count dir folder)
      (sure ∪ wonBy (numbered folder number) success result)
      (own \ usedBy (numbered folder number) idle result) (ExceptT.mk (next result)) gains) :
    Locked happened (TwinRooms home base count dir folder) sure own
      (ExceptT.mk (.step (Studio.onDisk task) next)) gains := by
  refine .step (fun _ => True) (wonBy (numbered folder number) success)
    (usedBy (numbered folder number) idle) ?_ ?_ ?_ fun result _ => later result
  · rintro result location ⟨succeeded, here⟩
    exact ⟨busy result succeeded, here⟩
  · rintro result location ⟨-, rfl⟩
    exact owned
  · intro lost free first second known allowed _ twins
    obtain ⟨same, still⟩ := twins.onDisk writes listed (allowed owned) busy
      (ends lost free first second twins known (allowed owned)) (by
        intro disk member
        rcases List.mem_pair.mp member with rfl | rfl
        · exact rests _ twins.housed
        · exact rests _ twins.housedToo)
    exact ⟨trivial, congrArg next same, still⟩

/-- A task that leaves its file if it succeeds. -/
theorem locked_task (writes : equipment.WritesOutputs) {task : FileTask Unit}
    (listed : equipment.Task dir number task) (owned : numbered folder number ∈ own)
    (ends : ∀ lost free (first second : Studio V),
      TwinRooms home base count dir folder lost free first second →
      (∀ location ∈ sure, location ∉ lost) → numbered folder number ∈ free →
      SameEnd (numbered folder number) (· = .ok ()) (task first.disk) (task second.disk)) :
    Locked happened (TwinRooms home base count dir folder) sure own
      (Equipment.attemptOnDisk task : StudioJob V Unit) fun _ => {numbered folder number} := by
  have never : ∀ result : Except Fault Unit, result = .ok () → ¬False := fun _ _ => id
  refine locked_onDisk writes listed owned never ends (fun _ _ impossible => impossible.elim) ?_
  intro result
  refine .done trivial ?_
  rintro location ⟨value, rfl, here⟩
  exact Or.inr ⟨rfl, here⟩

theorem locked_provided (writes : equipment.WritesOutputs) (apart : folder ≠ base)
    {task : FileTask Unit} (listed : equipment.Task dir number task)
    (owned : numbered folder number ∈ own) (inputs : List Path)
    (alike : ∀ lost free (first second : Studio V),
      TwinRooms home base count dir folder lost free first second →
      (∀ location ∈ sure, location ∉ lost) →
      ∀ input ∈ inputs, first.disk.locate input = second.disk.locate input ∧
        first.disk.openFile input = second.disk.openFile input)
    (ends : ∀ first second,
      Disk.Provide home base inputs (numberedFile dir number) first second →
      SameEnd (first.place (numberedFile dir number)) (· = .ok ()) (task first) (task second)) :
    Locked happened (TwinRooms home base count dir folder) sure own
      (Equipment.attemptOnDisk task : StudioJob V Unit) fun _ => {numbered folder number} := by
  refine locked_task writes listed owned ?_
  intro lost free first second twins known isFree
  rw [← (numberedFile_way twins.housed.located twins.housed.standing number).2]
  exact ends _ _ (twins.provide apart (alike lost free first second twins known) isFree)

theorem files_alike (sources : List Nat) (known : ∀ source ∈ sources, numbered folder source ∈ sure)
    (lost free : Set Location) (first second : Studio V)
    (twins : TwinRooms home base count dir folder lost free first second)
    (kept : ∀ location ∈ sure, location ∉ lost) :
    ∀ input ∈ sources.map (numberedFile dir),
      first.disk.locate input = second.disk.locate input ∧
        first.disk.openFile input = second.disk.openFile input := by
  intro input member
  obtain ⟨source, listed, rfl⟩ := List.mem_map.mp member
  exact twins.file (kept _ (known source listed))

theorem speech_locked (writes : equipment.WritesOutputs)
    (impartial : equipment.Impartial home base) (apart : folder ≠ base) (speaker text : String)
    (owned : numbered folder number ∈ own) :
    Locked happened (TwinRooms home base count dir folder) sure own
      (equipment.speech speaker text (numberedFile dir number)) fun _ => {numbered folder number} := by
  refine (locked_noting _).after fun _ => ?_
  refine (locked_speakAs writes impartial speaker text).after fun audio => ?_
  refine locked_provided writes apart (.write audio) owned [] (fun _ _ _ _ _ _ => nofun) ?_
  intro first second provide
  exact sameEnd_after_room provide (sameEnd_update _ (provide.write _ audio))

theorem effect_locked (writes : equipment.WritesOutputs)
    (impartial : equipment.Impartial home base) (apart : folder ≠ base) (id : String)
    (owned : numbered folder number ∈ own) :
    Locked happened (TwinRooms home base count dir folder) sure own
      (equipment.effect id (numberedFile dir number)) fun _ => {numbered folder number} := by
  refine (locked_noting _).after fun _ => ?_
  refine locked_get impartial ?_ ?_
  · intro first second same
    rw [(same id).1]
  · intro seen
    cases found : equipment.assets id seen.disk with
    | none => exact locked_throw
    | some asset =>
        refine locked_provided writes apart (.place id seen.disk asset found) owned [asset.path]
          ?_ ?_
        · intro lost free first second twins _ input member
          rw [List.mem_singleton.mp member]
          exact impartial.plays id seen.disk asset _ _ found twins.beside
        · intro first second provide
          unfold Mixer.place
          by_cases wave : asset.isWave = true
          · rw [if_pos wave]
            exact provide.copyTask _ List.mem_cons_self
          · rw [if_neg wave]
            exact impartial.converts _ _ _ _ provide

theorem copy_locked (writes : equipment.WritesOutputs) (apart : folder ≠ base) {source : Nat}
    (known : numbered folder source ∈ sure) (owned : numbered folder number ∈ own) :
    Locked happened (TwinRooms home base count dir folder) sure own
      (Equipment.attemptOnDisk
        (FileTask.copy equipment.host (numberedFile dir source) (numberedFile dir number)) :
        StudioJob V Unit)
      fun _ => {numbered folder number} :=
  locked_provided writes apart (.copy source) owned [numberedFile dir source]
    (files_alike [source] (by simpa using known))
    fun _ _ provide => provide.copyTask _ List.mem_cons_self

theorem joined_locked (writes : equipment.WritesOutputs)
    (impartial : equipment.Impartial home base) (apart : folder ≠ base) (sources : List Nat)
    (known : ∀ source ∈ sources, numbered folder source ∈ sure)
    (owned : numbered folder number ∈ own) :
    Locked happened (TwinRooms home base count dir folder) sure own
      (equipment.joined (sources.map (numberedFile dir)) (numberedFile dir number))
      fun told => {location | told = true ∧ location = numbered folder number} := by
  match sources, known with
  | [], _ =>
      refine locked_pure ?_
      rintro location ⟨impossible, -⟩
      cases impossible
  | [only], known =>
      exact (copy_locked writes apart (known only List.mem_cons_self) owned).telling
  | first :: second :: rest, known =>
      exact (locked_provided writes apart (.join (first :: second :: rest)) owned _
        (files_alike _ known) fun _ _ provide => impartial.joins _ _ _ _ provide).telling

/-- A filter program that cannot be started leaves its file for the copy that is made instead. -/
theorem programFilter_locked (writes : equipment.WritesOutputs)
    (impartial : equipment.Impartial home base) (apart : folder ≠ base) {id : String} {disk : Disk}
    {program : Path} (offered : equipment.programFor? id disk = some program) {source : Nat}
    (known : numbered folder source ∈ sure) (owned : numbered folder number ∈ own) :
    Locked happened (TwinRooms home base count dir folder) sure own
      (equipment.programFilter program (numberedFile dir source) (numberedFile dir number))
      fun _ => {numbered folder number} := by
  refine @locked_onDisk V _ _ equipment home base folder count dir number sure own writes _ _ _ _
    (.filter id disk program offered source) owned (· = .ok .success)
    (fun result => ∃ reason, result = .ok (.unavailable reason)) ?_ ?_ ?_ ?_
  · rintro _ rfl ⟨reason, impossible⟩
    cases impossible
  · intro lost free first second twins kept isFree
    rw [← (numberedFile_way twins.housed.located twins.housed.standing number).2]
    have alike := files_alike [source] (by simpa using known) lost free first second twins kept
    exact impartial.runs id disk program _ _ _ _ offered (twins.provide apart alike isFree)
  · rintro one housed ⟨reason, ended⟩
    exact runFilter_unavailable
      (Disk.makeRoom_numberedFile housed.located housed.standing number) ended
  · intro result
    cases result with
    | error fault => exact locked_throw
    | ok ending =>
        cases ending with
        | success => exact locked_pure fun location here => Or.inr ⟨rfl, here⟩
        | failed status => exact locked_throw
        | unavailable reason =>
            refine (locked_noting _).after fun _ => ?_
            refine copy_locked writes apart (Or.inl known) ⟨owned, ?_⟩
            rintro ⟨used, -⟩
            exact used ⟨reason, rfl⟩

theorem filtered_locked (writes : equipment.WritesOutputs)
    (impartial : equipment.Impartial home base) (apart : folder ≠ base) (id : String) {source : Nat}
    (known : numbered folder source ∈ sure) (owned : numbered folder number ∈ own) :
    Locked happened (TwinRooms home base count dir folder) sure own
      (equipment.filtered id (numberedFile dir source) (numberedFile dir number))
      fun _ => {numbered folder number} := by
  refine (locked_noting _).after fun _ => ?_
  refine locked_get impartial ?_ ?_
  · intro first second same
    rw [(same id).2]
  · intro seen
    cases offered : equipment.programFor? id seen.disk with
    | some program => exact programFilter_locked writes impartial apart offered known owned
    | none =>
        unfold Equipment.builtInFilter
        cases Preset.find? id with
        | none => exact (locked_noting _).after fun _ => copy_locked writes apart known owned
        | some preset =>
            exact locked_provided writes apart (.preset preset source) owned _
              (files_alike [source] (by simpa using known))
              fun _ _ provide => impartial.applies _ _ _ _ _ provide

def audioPlaces (dir : Path) (folder : Location) (renditions : List Rendition) : Set Location :=
  {location | ∃ number, numberedFile dir number ∈ renditions.filterMap (·.audio) ∧
    location = numbered folder number}

theorem numberedFile_injective {first second : Nat}
    (same : numberedFile dir first = numberedFile dir second) : first = second := by
  have relative : ∀ number, (numberedName number).toList.head? ≠ some '/' := by
    intro number slash
    obtain ⟨-, -, -, plain, -, -⟩ := (Path.isPlainName_iff _).mp (isPlainName_numberedName number)
    exact plain (List.mem_of_mem_head? slash)
  rw [numberedFile_eq_join, numberedFile_eq_join] at same
  exact numberedName_injective (Disk.join_injective (relative first) (relative second) same)

theorem Concludes.names {parts : List Rendition} {rendition : Rendition}
    (concludes : Concludes (numberedFile dir number) parts rendition) :
    NamesFile dir number rendition := by
  rcases concludes with rfl | rfl
  · exact nofun
  · intro path same
    cases same
    rfl

theorem conclude_locked {work : StudioJob V Bool} (parts : List Rendition)
    (locked : Locked happened (TwinRooms home base count dir folder) sure own work
      fun told => {location | told = true ∧ location = numbered folder number}) :
    Job.Lockstep happened (TwinRooms home base count dir folder) sure own
      (Equipment.conclude (numberedFile dir number) parts work) (NamesFile dir number)
      fun rendition => audioPlaces dir folder [rendition] := by
  refine Job.Lockstep.mono
    (locked.conclude fun event lost free first second twins => twins.noting event) (subset_refl _)
    (subset_refl _) (fun _ concludes => concludes.names) ?_
  rintro rendition concludes location ⟨other, listed, rfl⟩
  rcases concludes with rfl | rfl
  · cases listed
  · refine ⟨nofun, ?_⟩
    have same : numberedFile dir other = numberedFile dir number := by simpa using listed
    rw [numberedFile_injective same]
    rfl

mutual

/-- The job of a tree is in lockstep. It has the files of its own numbers, counts on none, and wins
back the file that it ends with. -/
theorem job_locked (writes : equipment.WritesOutputs) (impartial : equipment.Impartial home base)
    (apart : folder ≠ base) (sideBySide : Bool) (node : Node) (number : Nat) :
    Job.Lockstep happened (TwinRooms home base count dir folder) ∅
      (numberedIn folder number (number + node.size))
      (equipment.job sideBySide (node.numberFrom dir number).1) (NamesFile dir number)
      fun rendition => audioPlaces dir folder [rendition] := by
  have own : numbered folder number ∈ numberedIn folder number (number + node.size) :=
    Disk.numbered_mem_numberedIn_iff.mpr
      ⟨Nat.le_refl _, Nat.lt_add_of_pos_right node.size_pos⟩
  have mine : numbered folder number ∈ ({numbered folder number} : Set Location) := rfl
  have alone : {numbered folder number} ⊆ numberedIn folder number (number + node.size) := by
    rintro location rfl
    exact own
  have outside : ∀ last, ∀ location ∈ ({numbered folder number} : Set Location),
      location ∉ numberedIn folder (number + 1) last := by
    rintro last location rfl ⟨other, low, -, same⟩
    have equal := Disk.numbered_injective same
    omega
  cases node with
  | speech speaker text target =>
      exact conclude_locked [] (speech_locked writes impartial apart speaker text own).telling
  | effect id target =>
      exact conclude_locked [] (effect_locked writes impartial apart id own).telling
  | group children target =>
      have inner := jobs_locked writes impartial apart sideBySide children (number + 1)
      rw [Nat.add_assoc] at inner
      simp only [Node.numberFrom, Equipment.job]
      refine inner.bind ?_ (outside _) (Disk.numberedIn_mono (Nat.le_succ _) (Nat.le_refl _)) alone
      rintro renditions ⟨survivors, -, files⟩
      rw [files]
      refine conclude_locked renditions (joined_locked writes impartial apart survivors ?_ mine)
      intro survivor member
      exact Or.inr ⟨survivor, files ▸ List.mem_map_of_mem member, rfl⟩
  | filter id child target =>
      have inner := job_locked writes impartial apart sideBySide child (number + 1)
      rw [Nat.add_assoc] at inner
      simp only [Node.numberFrom, Equipment.job]
      refine inner.bind ?_ (outside _) (Disk.numberedIn_mono (Nat.le_succ _) (Nat.le_refl _)) alone
      intro rendition names
      cases audible : rendition.audio with
      | none =>
          refine .done nofun ?_
          rintro location ⟨_, impossible, -⟩
          cases impossible
      | some input =>
          obtain rfl := names input audible
          refine conclude_locked [rendition]
            (filtered_locked writes impartial apart id ?_ mine).telling
          exact Or.inr ⟨number + 1, by simp [audible], rfl⟩

theorem jobs_locked (writes : equipment.WritesOutputs) (impartial : equipment.Impartial home base)
    (apart : folder ≠ base) (sideBySide : Bool) (nodes : List Node) (number : Nat) :
    Job.Lockstep happened (TwinRooms home base count dir folder) ∅
      (numberedIn folder number (number + Node.sizeAll nodes))
      (equipment.jobs sideBySide (Node.numberAllFrom dir number nodes).1)
      (NameFiles dir number (number + Node.sizeAll nodes)) (audioPlaces dir folder) := by
  cases nodes with
  | nil =>
      refine .done ⟨[], nofun, rfl⟩ ?_
      rintro location ⟨_, impossible, -⟩
      cases impossible
  | cons node rest =>
      have one := job_locked writes impartial apart sideBySide node number
      have others := jobs_locked writes impartial apart sideBySide rest (number + node.size)
      rw [Nat.add_assoc] at others
      simp only [Node.numberAllFrom, Equipment.jobs, Node.numberFrom_snd, Node.sizeAll]
      refine .both (Disk.numberedIn_mono (Nat.le_refl _) (by omega))
        (Disk.numberedIn_mono (by omega) (Nat.le_refl _)) (Set.empty_subset _) ?_
        (fun _ inside => absurd inside (Set.notMem_empty _))
        (fun _ inside => absurd inside (Set.notMem_empty _)) one others ?_
      · rintro location ⟨early, -, low, rfl⟩ ⟨late, high, -, equal⟩
        have same := Disk.numbered_injective equal
        omega
      · intro part parts names left
        refine .done (names.cons (Nat.lt_add_of_pos_right node.size_pos) (by omega) left) ?_
        rintro location ⟨survivor, member, rfl⟩
        rw [show part :: parts = [part] ++ parts from rfl, List.filterMap_append] at member
        rcases List.mem_append.mp member with here | later
        · exact Or.inr (Or.inl ⟨survivor, here, rfl⟩)
        · exact Or.inr (Or.inr ⟨survivor, later, rfl⟩)

end

end Tree

end SpokenMarkup
