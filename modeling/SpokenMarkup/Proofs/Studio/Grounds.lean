import SpokenMarkup.Proofs.Disk.Ancestry
import SpokenMarkup.Proofs.Disk.Rooms
import SpokenMarkup.Proofs.Studio.Amid
import SpokenMarkup.Proofs.Studio.Craft
import SpokenMarkup.Proofs.Studio.Rendering

set_option autoImplicit false

namespace SpokenMarkup

open Disk (numbered numberedIn)

/-- What several renders share: their equipment and what it makes of files, what they start from, and
the places that they may change. Among these are the rooms, the only ones where they take things
away. -/
structure Grounds (V : Type) where
  equipment : Equipment V
  craft : Craft
  /-- What a speaker makes of a text. -/
  sound : String → String → Except Fault ByteArray
  start : Disk
  booth : Booth V
  own : Set Location
  rooms : Set Location

namespace Grounds

variable {V : Type}

structure Admits (grounds : Grounds V) (disk : Disk) : Prop where
  frame : grounds.start.AgreeOff grounds.own disk
  keeps : grounds.start.Keeps grounds.rooms disk

def Reaches (grounds : Grounds V) (booth : Booth V) : Prop :=
  grounds.equipment.voice.Reaches grounds.start [] grounds.booth booth

structure Fine (grounds : Grounds V) (studio : Studio V) : Prop where
  admits : grounds.Admits studio.disk
  reached : grounds.Reaches studio.booth

/-- A change that renders may make, and that leaves alone what is at these places. -/
structure Spares (grounds : Grounds V) (kept : Set Location) (before after : Studio V) :
    Prop where
  frame : before.disk.AgreeOff grounds.own after.disk
  keeps : before.disk.Keeps grounds.rooms after.disk
  reached : grounds.Reaches before.booth → grounds.Reaches after.booth
  same : ∀ location ∈ kept, before.disk.entry? location = after.disk.entry? location

/-- A step of a render: in the rooms it changes nothing but what it may touch, and it takes no
number. -/
structure Careful (grounds : Grounds V) (touched : Set Location) (before after : Studio V) : Prop
    extends grounds.Spares (grounds.rooms \ touched) before after where
  renders : before.renders = after.renders

variable {grounds : Grounds V} {kept wider touched : Set Location}
  {before between after studio : Studio V}

theorem Spares.refl (grounds : Grounds V) (kept : Set Location) (studio : Studio V) :
    grounds.Spares kept studio studio :=
  ⟨Disk.AgreeOff.refl _ _, Disk.Keeps.refl _ _, fun reached => reached, fun _ _ => rfl⟩

theorem Spares.trans (early : grounds.Spares kept before between)
    (late : grounds.Spares kept between after) : grounds.Spares kept before after :=
  ⟨early.frame.trans late.frame, early.keeps.trans late.keeps,
    fun reached => late.reached (early.reached reached),
    fun location inside => (early.same location inside).trans (late.same location inside)⟩

theorem Spares.mono (spares : grounds.Spares wider before after) (contained : kept ⊆ wider) :
    grounds.Spares kept before after :=
  ⟨spares.frame, spares.keeps, spares.reached,
    fun location inside => spares.same location (contained inside)⟩

theorem Careful.mono (careful : grounds.Careful touched before after)
    (contained : touched ⊆ wider) : grounds.Careful wider before after := by
  refine ⟨careful.toSpares.mono ?_, careful.renders⟩
  intro location outside
  exact ⟨outside.1, fun inside => outside.2 (contained inside)⟩

theorem Spares.fine (spares : grounds.Spares kept before after) (fine : grounds.Fine before) :
    grounds.Fine after :=
  ⟨⟨fine.admits.frame.trans spares.frame, fine.admits.keeps.trans spares.keeps⟩,
    spares.reached fine.reached⟩

/-- Nothing but the journal is changed. -/
structure Idle (before after : Studio V) : Prop where
  disk : after.disk = before.disk
  booth : after.booth = before.booth
  renders : after.renders = before.renders

theorem spares_of_same (disk : after.disk = before.disk) (booth : after.booth = before.booth) :
    grounds.Spares kept before after := by
  refine ⟨?_, ?_, ?_, ?_⟩
  · rw [disk]
    exact Disk.AgreeOff.refl _ _
  · rw [disk]
    exact Disk.Keeps.refl _ _
  · rw [booth]
    exact fun reached => reached
  · rw [disk]
    exact fun _ _ => rfl

theorem Idle.spares (idle : Idle before after) : grounds.Spares kept before after :=
  spares_of_same idle.disk idle.booth

theorem Idle.careful (idle : Idle before after) : grounds.Careful touched before after :=
  ⟨idle.spares, idle.renders.symm⟩

theorem idle_noting (studio : Studio V) (event : Event) : Idle studio (studio.noting event) :=
  ⟨rfl, rfl, rfl⟩

/-- A task that changes places in the rooms only. -/
theorem careful_of_agreeOff (owned : grounds.rooms ⊆ grounds.own) (inside : touched ⊆ grounds.rooms)
    (frame : before.disk.AgreeOff touched after.disk)
    (reached : grounds.Reaches before.booth → grounds.Reaches after.booth)
    (renders : before.renders = after.renders) : grounds.Careful touched before after :=
  ⟨⟨frame.mono (inside.trans owned), frame.keeps.mono inside, reached,
    fun location outside => frame.entry location outside.2⟩, renders⟩

mutual

/-- What is read of a tree that has audio, with its files numbered into a room, in whatever order its
speech is spoken. -/
def heard (grounds : Grounds V) (dir : Path) (number : Nat) : Node → Option Reading
  | .speech speaker text _ =>
    (grounds.sound speaker text).toOption.bind (grounds.equipment.host.written dir number)
  | .effect id _ => grounds.equipment.placed grounds.craft grounds.start dir number id
  | .group children _ =>
    grounds.equipment.merged grounds.craft dir number (heardAll grounds dir (number + 1) children)
  | .filter id child _ =>
    (heard grounds dir (number + 1) child).bind
      (grounds.equipment.strained grounds.craft grounds.start dir (number + 1) number id)

def heardAll (grounds : Grounds V) (dir : Path) (number : Nat) : List Node → List (Nat × Reading)
  | [] => []
  | node :: rest =>
    ((heard grounds dir number node).map (number, ·)).toList ++
      heardAll grounds dir (number + node.size) rest

end

/-- The equipment finds the same sounds and programs whatever the renders change. -/
structure Steady (grounds : Grounds V) : Prop where
  finds : ∀ disk, grounds.Admits disk → ∀ id,
    grounds.equipment.assets id disk = grounds.equipment.assets id grounds.start
  opens : ∀ disk, grounds.Admits disk → ∀ id asset,
    grounds.equipment.assets id grounds.start = some asset →
    disk.openFile asset.path = grounds.start.openFile asset.path
  offers : ∀ disk, grounds.Admits disk → ∀ id,
    grounds.equipment.programFor? id disk = grounds.equipment.programFor? id grounds.start

/-- Besides, what is said depends on the speaker and the text only. -/
structure Settled (grounds : Grounds V) : Prop extends grounds.Steady where
  repeats : grounds.equipment.voice.Repeats grounds.start [] grounds.booth grounds.sound

/-- A place for a room, which no other room is on the way to. -/
structure Offers (grounds : Grounds V) (dir : Path) (folder : Location) : Prop where
  owned : grounds.rooms ⊆ grounds.own
  inside : Disk.within folder ⊆ grounds.rooms
  aside : ∀ location ∈ grounds.start.way dir, location ∉ grounds.rooms

/-- A room for a render with so many files, in which tasks make of files what the craft says of what
is read. -/
structure Suits (grounds : Grounds V) (dir : Path) (folder : Location) (last : Nat) : Prop
    extends grounds.Offers dir folder where
  governs : ∀ disk, grounds.Admits disk → Housed dir folder disk →
    grounds.craft.Governs grounds.equipment disk dir folder last

variable {dir : Path} {folder : Location} {number last : Nat}

structure Open (grounds : Grounds V) (dir : Path) (folder : Location) (studio : Studio V) :
    Prop where
  fine : grounds.Fine studio
  housed : Housed dir folder studio.disk

/-- A file is yet to be made. -/
structure Free (grounds : Grounds V) (dir : Path) (folder : Location) (number : Nat)
    (studio : Studio V) : Prop extends grounds.Open dir folder studio where
  free : studio.disk.entry? (numbered folder number) = none

/-- This is to be read of a file, which may be missing. -/
structure Made (grounds : Grounds V) (dir : Path) (folder : Location) (number : Nat)
    (reading : Reading) (studio : Studio V) : Prop extends grounds.Open dir folder studio where
  read : studio.disk.read (numberedFile dir number) = reading

section Stable

variable (offers : grounds.Offers dir folder) (own : folder ∈ kept)
include offers own

theorem stable_open : Job.Stable (grounds.Spares kept) (grounds.Open dir folder) := by
  intro studio after spares isOpen
  have aside : ∀ passedBy ∈ studio.disk.way dir, passedBy ∉ grounds.rooms := by
    rw [Disk.way_congr isOpen.fine.admits.frame.home]
    exact offers.aside
  refine ⟨spares.fine isOpen.fine, spares.keeps.locate aside isOpen.housed.located, ?_⟩
  rw [← spares.same folder own]
  exact isOpen.housed.standing

theorem stable_free (inside : numbered folder number ∈ kept) :
    Job.Stable (grounds.Spares kept) (grounds.Free dir folder number) := by
  intro studio after spares free
  refine ⟨stable_open offers own studio after spares free.toOpen, ?_⟩
  rw [← spares.same _ inside]
  exact free.free

theorem stable_made (inside : numbered folder number ∈ kept) (reading : Reading) :
    Job.Stable (grounds.Spares kept) (grounds.Made dir folder number reading) := by
  intro studio after spares made
  have stays := stable_open offers own studio after spares made.toOpen
  refine ⟨stays, ?_⟩
  rw [← made.housed.read_congr stays.housed (spares.same _ inside)]
  exact made.read

end Stable

theorem Open.governs (isOpen : grounds.Open dir folder studio)
    (suits : grounds.Suits dir folder last) :
    grounds.craft.Governs grounds.equipment studio.disk dir folder last :=
  suits.governs _ isOpen.fine.admits isOpen.housed

end Grounds

/-- In two rooms the system treats the files with the first numbers alike: it follows their paths, and
carries out what is written and copied to them, in both or in neither. -/
structure Host.AlikeIn (host : Host) (first second : Path) (last : Nat) : Prop where
  follows : ∀ number < last, Disk.Fits first number ↔ Disk.Fits second number
  writes : ∀ number < last, ∀ content,
    host.writing (numberedFile first number) content = none ↔
      host.writing (numberedFile second number) content = none
  copies : ∀ source < last, ∀ number < last, ∀ content,
    host.copying (numberedFile first source) (numberedFile first number) content = none ↔
      host.copying (numberedFile second source) (numberedFile second number) content = none
  places : ∀ input, ∀ number < last, ∀ content,
    host.copying input (numberedFile first number) content = none ↔
      host.copying input (numberedFile second number) content = none

namespace Host.AlikeIn

variable {V : Type} {equipment : Equipment V} {craft : Craft} {host : Host} {first second : Path}
  {source number last : Nat}

theorem written (alike : host.AlikeIn first second last) (bound : number < last) :
    host.written first number = host.written second number := by
  funext content
  simp only [Host.written, alike.follows number bound, alike.writes number bound]

theorem duplicate (alike : host.AlikeIn first second last) (sources : source < last)
    (bound : number < last) : host.duplicate (numberedFile first source) first number =
      host.duplicate (numberedFile second source) second number := by
  funext reading
  cases reading with
  | error error => rfl
  | ok content =>
      simp only [Host.duplicate, alike.follows number bound, alike.copies source sources number bound]

variable (alike : equipment.host.AlikeIn first second last) (bound : number < last)
include alike bound

theorem placed (disk : Disk) (id : String) :
    equipment.placed craft disk first number id = equipment.placed craft disk second number id := by
  unfold Equipment.placed
  cases equipment.assets id disk with
  | none => rfl
  | some asset =>
      simp only [alike.follows number bound, Host.duplicate, alike.places asset.path number bound]

theorem strained (disk : Disk) (sources : source < last) (id : String) :
    equipment.strained craft disk first source number id =
      equipment.strained craft disk second source number id := by
  funext input
  simp only [Equipment.strained, Equipment.passed, alike.follows number bound,
    alike.duplicate sources bound]

theorem merged (parts : List (Nat × Reading)) (sources : ∀ part ∈ parts, part.1 < last) :
    equipment.merged craft first number parts = equipment.merged craft second number parts := by
  match parts, sources with
  | [], _ => rfl
  | [(source, only)], sources =>
      have inside : source < last := sources _ List.mem_cons_self
      simp only [Equipment.merged, alike.duplicate inside bound]
  | _ :: _ :: _, _ => simp only [Equipment.merged, alike.follows number bound]

end Host.AlikeIn

/-- A system on which nothing breaks off treats all rooms alike whose files it follows. -/
theorem alikeIn_of_follows {first second : Path} {last : Nat}
    (follows : ∀ number < last, Disk.Fits first number ↔ Disk.Fits second number) :
    Host.AlikeIn {} first second last :=
  ⟨follows, fun _ _ _ => Iff.rfl, fun _ _ _ _ _ => Iff.rfl, fun _ _ _ _ => Iff.rfl⟩

namespace Grounds

variable {V : Type} {grounds : Grounds V} {first second : Path} {last : Nat}

theorem heardAll_numbers (grounds : Grounds V) (dir : Path) (nodes : List Node) (number : Nat) :
    ∀ part ∈ grounds.heardAll dir number nodes,
      number ≤ part.1 ∧ part.1 < number + Node.sizeAll nodes := by
  induction nodes generalizing number with
  | nil => nofun
  | cons node rest ih =>
      intro part member
      rw [heardAll, List.mem_append] at member
      have positive := node.size_pos
      simp only [Node.sizeAll]
      rcases member with own | later
      · obtain ⟨reading, -, rfl⟩ := Option.map_eq_some_iff.mp (Option.mem_toList.mp own)
        exact ⟨Nat.le_refl _, by omega⟩
      · have range := ih (number + node.size) part later
        omega

mutual

/-- In rooms that are alike the same is heard of a tree. -/
theorem heard_alike (alike : grounds.equipment.host.AlikeIn first second last) (node : Node)
    (number : Nat) (bound : number + node.size ≤ last) :
    grounds.heard first number node = grounds.heard second number node := by
  have own : number < last := Nat.lt_of_lt_of_le (Nat.lt_add_of_pos_right node.size_pos) bound
  cases node with
  | speech speaker text target => simp only [heard, alike.written own]
  | effect id target => exact alike.placed own grounds.start id
  | group children target =>
      simp only [Node.size] at bound
      have inner := heardAll_alike alike children (number + 1) (by omega)
      have numbers := grounds.heardAll_numbers second children (number + 1)
      simp only [heard, inner]
      exact alike.merged own _ fun part member => by
        have range := numbers part member
        omega
  | filter id child target =>
      simp only [Node.size] at bound
      have positive := child.size_pos
      have inner := heard_alike alike child (number + 1) (by omega)
      simp only [heard, inner, alike.strained own grounds.start (by omega : number + 1 < last) id]

theorem heardAll_alike (alike : grounds.equipment.host.AlikeIn first second last)
    (nodes : List Node) (number : Nat) (bound : number + Node.sizeAll nodes ≤ last) :
    grounds.heardAll first number nodes = grounds.heardAll second number nodes := by
  cases nodes with
  | nil => rfl
  | cons node rest =>
      simp only [Node.sizeAll] at bound
      have one := heard_alike alike node number (by omega)
      have others := heardAll_alike alike rest (number + node.size) (by omega)
      simp only [heardAll, one, others]

end

end Grounds

end SpokenMarkup
