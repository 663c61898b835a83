import SpokenMarkup.Proofs.Studio.Undisturbed
import SpokenMarkup.Studio.Session

set_option autoImplicit false

namespace SpokenMarkup

open Disk (numbered)

/-- What a session is asked for: the audio of a markup, to be put into a file or to be kept until it
is discarded. -/
structure Request where
  markup : String
  target : Option Path

theorem utf8ByteSize_of_digits (chars : List Char) (digits : ∀ c ∈ chars, c.isDigit = true) :
    (String.ofList chars).utf8ByteSize = chars.length := by
  induction chars with
  | nil => rfl
  | cons c rest ih =>
      obtain ⟨digit, others⟩ := List.forall_mem_cons.mp digits
      simp only [Char.isDigit, Bool.and_eq_true, decide_eq_true_eq] at digit
      have single : (String.singleton c).utf8ByteSize = 1 := by
        rw [String.utf8ByteSize_singleton, Char.utf8Size_eq_one_iff]
        exact UInt32.le_trans digit.2 (by decide)
      rw [String.ofList_cons, String.utf8ByteSize_append, single, ih others, List.length_cons,
        Nat.add_comm]

theorem utf8ByteSize_zeroPadded (width number : Nat) :
    (zeroPadded width number).utf8ByteSize = max width (Nat.toDigits 10 number).length := by
  have bytes := utf8ByteSize_of_digits (zeroPadded width number).toList
    (isDigit_of_mem_zeroPadded width number)
  rw [String.ofList_toList, toList_zeroPadded, List.length_append, List.length_replicate] at bytes
  omega

namespace Session

variable {V : Type}

/-- What the names of all scratch directories of a session begin with. -/
def mark (session : Session V) : String :=
  "render-" ++ toString session.process ++ "-"

def roomName (session : Session V) (number : Nat) : String :=
  session.mark ++ zeroPadded 4 number

theorem scratchDir_eq (session : Session V) (number : Nat) :
    session.scratchDir number = session.settings.scratchDir.join (session.roomName number) := rfl

theorem roomName_injective (session : Session V) {first second : Nat}
    (equal : session.roomName first = session.roomName second) : first = second := by
  have chars := congrArg String.toList equal
  simp only [roomName, String.toList_append] at chars
  exact zeroPadded_injective 4 (String.toList_injective (List.append_cancel_left chars))

theorem mark_front (session : Session V) (number : Nat) :
    session.mark.toList <+: (session.roomName number).toList := by
  rw [roomName, String.toList_append]
  exact List.prefix_append _ _

theorem first_of_mark (session : Session V) {name : String}
    (marked : session.mark.toList <+: name.toList) : name.toList.head? = some 'r' := by
  obtain ⟨rest, whole⟩ := marked
  rw [← whole]
  simp [mark, String.toList_append]

theorem proper_of_mark (session : Session V) {name : String}
    (marked : session.mark.toList <+: name.toList) : name ≠ "" ∧ name ≠ "." ∧ name ≠ ".." := by
  have first := session.first_of_mark marked
  refine ⟨?_, ?_, ?_⟩ <;> (rintro rfl; exact absurd first (by decide))

theorem relative_of_mark (session : Session V) {name : String}
    (marked : session.mark.toList <+: name.toList) : name.toList.head? ≠ some '/' := by
  rw [session.first_of_mark marked]
  decide

theorem relative_roomName (session : Session V) (number : Nat) :
    (session.roomName number).toList.head? ≠ some '/' :=
  session.relative_of_mark (session.mark_front number)

theorem not_mem_roomName (session : Session V) (number : Nat) {c : Char}
    (letter : c ∉ "render-".toList) (dash : c ∉ "-".toList) (digit : c.isDigit = false) :
    c ∉ (session.roomName number).toList := by
  have digits : ∀ c ∈ (toString session.process).toList, c.isDigit = true := by
    intro c member
    have same : toString session.process = zeroPadded 0 session.process := by
      apply String.toList_injective
      rw [toList_zeroPadded]
      simp
    rw [same] at member
    exact isDigit_of_mem_zeroPadded 0 session.process c member
  intro member
  simp only [roomName, mark, String.toList_append, List.mem_append] at member
  rcases member with ((first | process) | last) | counted
  · exact letter first
  · rw [digits c process] at digit
    cases digit
  · exact dash last
  · rw [isDigit_of_mem_zeroPadded 4 number c counted] at digit
    cases digit

theorem plain_roomName (session : Session V) (number : Nat) :
    '/' ∉ (session.roomName number).toList :=
  session.not_mem_roomName number (by decide) (by decide) (by decide)

theorem size_roomName (session : Session V) (number : Nat) :
    (session.roomName number).utf8ByteSize =
      session.mark.utf8ByteSize + max 4 (Nat.toDigits 10 number).length := by
  rw [roomName, String.utf8ByteSize_append, utf8ByteSize_zeroPadded]

theorem size_roomName_zero_le (session : Session V) (number : Nat) :
    (session.roomName 0).utf8ByteSize ≤ (session.roomName number).utf8ByteSize := by
  have single : (Nat.toDigits 10 0).length = 1 := rfl
  rw [size_roomName, size_roomName, single]
  omega

/-- The first ten thousand rooms have names of one length. -/
theorem size_roomName_of_few (session : Session V) {number : Nat} (few : number < 10000) :
    (session.roomName number).utf8ByteSize = (session.roomName 0).utf8ByteSize := by
  have single : (Nat.toDigits 10 0).length = 1 := rfl
  have four : (Nat.toDigits 10 number).length ≤ 4 :=
    (Nat.length_toDigits_le_iff (by decide) (by decide)).mpr few
  rw [size_roomName, size_roomName, single]
  omega

theorem place_scratchDir (session : Session V) (number : Nat) (disk : Disk) :
    disk.place (session.scratchDir number) =
      session.roomName number :: disk.place session.settings.scratchDir := by
  obtain ⟨nonempty, notDot, notDots⟩ := session.proper_of_mark (session.mark_front number)
  exact Disk.place_join disk session.settings.scratchDir nonempty (session.plain_roomName number)
    notDot notDots

/-- What comes of making the room of a render: nothing is made but the room and directories on the
way to it, and without the room only the latter. -/
structure MakesRoom (session : Session V) (number : Nat) (before : Disk)
    (ending : Except OsError Unit × Disk) : Prop where
  grows : Disk.Grows (before.trail session.settings.scratchDir ∪
    {before.place (session.scratchDir number)}) before ending.2
  stands : ending.1 = .ok () →
    ending.2.locate (session.scratchDir number) = .ok (before.place (session.scratchDir number)) ∧
      Disk.entry? ending.2 (before.place (session.scratchDir number)) = some .directory
  fails : ending.1 ≠ .ok () →
    Disk.Grows (before.trail session.settings.scratchDir) before ending.2

theorem makesRoom (session : Session V) (number : Nat) (disk : Disk) :
    session.MakesRoom number disk (disk.makeDirectories (session.scratchDir number)) := by
  obtain ⟨nonempty, notDot, -⟩ := session.proper_of_mark (session.mark_front number)
  obtain ⟨grows, stands, fails⟩ := Disk.makeDirectories_join disk session.settings.scratchDir
    nonempty (session.plain_roomName number) notDot
  rw [← session.scratchDir_eq] at grows stands fails
  refine ⟨grows, ?_, fails⟩
  intro made
  rw [← Disk.place_congr grows.home]
  exact (Disk.isDirectory_iff _ _).mp (stands made)

def tree (session : Session V) (markup : String) : Node :=
  Node.ofMarkup markup session.settings.defaultSpeaker

end Session

/-- A session in a studio, from the state in which it finds the studio, with what it may be asked
for and what it sounds like. -/
structure Booking (V : Type) where
  session : Session V
  asked : Request → Prop
  opening : Studio V
  craft : Craft
  /-- What a speaker makes of a text. -/
  sound : String → String → Except Fault ByteArray

namespace Booking

variable {V : Type}

def dir (booking : Booking V) (number : Nat) : Path :=
  booking.session.scratchDir number

def base (booking : Booking V) : Location :=
  booking.opening.disk.place booking.session.settings.scratchDir

def folder (booking : Booking V) (number : Nat) : Location :=
  booking.session.roomName number :: booking.base

/-- All directories with the mark of the session, and all that is in them. -/
def rooms (booking : Booking V) : Set Location :=
  {location | ∃ name : String, booking.session.mark.toList <+: name.toList ∧
    location ∈ Disk.within (name :: booking.base)}

def trails (booking : Booking V) : Set Location :=
  {location | location ∈ booking.opening.disk.trail booking.session.settings.scratchDir ∨
    ∃ request, booking.asked request ∧ ∃ target ∈ request.target,
      location ∈ booking.opening.disk.trail target}

/-- What all renders share, and where they change anything. -/
def grounds (booking : Booking V) : Grounds V where
  equipment := booking.session.equipment
  craft := booking.craft
  sound := booking.sound
  start := booking.opening.disk
  booth := booking.opening.booth
  own := {location | location ∈ booking.rooms ∨ location ∈ booking.trails}
  rooms := booking.rooms

/--
What a session needs for its first `limit` renders. At the start there is nothing with the mark of
the session, and no trail leads into a room; what is said depends on the speaker and the text only;
and in every room the equipment makes of files what the craft says of what is read.
-/
structure IsPrepared (booking : Booking V) (limit : Nat) : Prop where
  begins : booking.opening.renders = 0
  home : booking.opening.disk.entry? booking.opening.disk.home = some .directory
  vacant : ∀ location ∈ booking.rooms, booking.opening.disk.entry? location = none
  aside : ∀ location ∈ booking.trails, location ∉ booking.rooms
  repeats : booking.session.equipment.voice.Repeats booking.opening.disk [] booking.opening.booth
    booking.sound
  governs : ∀ request, booking.asked request → ∀ number < limit, ∀ disk,
    booking.grounds.Admits disk → Housed (booking.dir number) (booking.folder number) disk →
    booking.craft.Governs booking.session.equipment disk (booking.dir number)
      (booking.folder number) (booking.session.tree request.markup).size

/-- What isolation rests on: besides, the equipment finds the same sounds and programs whatever the
session changes. -/
structure IsIsolated (booking : Booking V) (limit : Nat) : Prop extends
    booking.IsPrepared limit where
  steady : booking.grounds.Steady

theorem IsIsolated.settled {booking : Booking V} {limit : Nat}
    (isolated : booking.IsIsolated limit) : booking.grounds.Settled :=
  ⟨isolated.steady, isolated.repeats⟩

variable {booking : Booking V} {studio after : Studio V} {limit number other : Nat}
  {markup : String}

theorem room_subset_rooms (booking : Booking V) (number : Nat) :
    Disk.within (booking.folder number) ⊆ booking.rooms :=
  fun _ inside => ⟨booking.session.roomName number, booking.session.mark_front number, inside⟩

theorem rooms_subset_below (booking : Booking V) : booking.rooms ⊆ Disk.below booking.base := by
  rintro location ⟨name, -, inside⟩
  refine ⟨(List.suffix_cons name booking.base).trans inside, ?_⟩
  rintro rfl
  exact absurd inside.length_le (by simp)

theorem room_disjoint {location : Location}
    (inside : location ∈ Disk.within (booking.folder number))
    (also : location ∈ Disk.within (booking.folder other)) : number = other :=
  booking.session.roomName_injective (Disk.within_disjoint inside also)

theorem place_dir (booking : Booking V) (number : Nat) :
    booking.opening.disk.place (booking.dir number) = booking.folder number :=
  booking.session.place_scratchDir number booking.opening.disk

theorem mem_way_dir (booking : Booking V) (number : Nat) (location : Location) :
    location ∈ booking.opening.disk.way (booking.dir number) ↔
      location ∈ booking.opening.disk.trail booking.session.settings.scratchDir := by
  obtain ⟨nonempty, -, -⟩ := booking.session.proper_of_mark (booking.session.mark_front number)
  rw [dir, Session.scratchDir_eq, Disk.way_join booking.opening.disk _ nonempty
    (booking.session.plain_roomName number), List.mem_append, List.mem_singleton]
  rfl

theorem IsPrepared.offers (prepared : booking.IsPrepared limit) (number : Nat) :
    booking.grounds.Offers (booking.dir number) (booking.folder number) where
  owned := fun _ inside => Or.inl inside
  inside := booking.room_subset_rooms number
  aside := by
    intro location member
    exact prepared.aside location (Or.inl ((booking.mem_way_dir number location).mp member))

theorem IsPrepared.suits (prepared : booking.IsPrepared limit) {request : Request}
    (asked : booking.asked request) (counted : number < limit) :
    booking.grounds.Suits (booking.dir number) (booking.folder number)
      (booking.session.tree request.markup).size :=
  ⟨prepared.offers number, prepared.governs request asked number counted⟩

structure Vacated (booking : Booking V) (number : Nat) (studio : Studio V) : Prop where
  fine : booking.grounds.Fine studio
  nothing : ∀ location ∈ Disk.within (booking.folder number), studio.disk.entry? location = none

/-- There is nothing in the room, unless the system does not remove it. -/
structure Cleared (booking : Booking V) (number : Nat) (studio : Studio V) : Prop where
  fine : booking.grounds.Fine studio
  nothing : booking.session.equipment.host.removing (booking.dir number) = none →
    ∀ location ∈ Disk.within (booking.folder number), studio.disk.entry? location = none

theorem Vacated.cleared (vacated : booking.Vacated number studio) : booking.Cleared number studio :=
  ⟨vacated.fine, fun _ => vacated.nothing⟩

/-- In the room there is what is kept of a take of a markup. -/
structure Kept (booking : Booking V) (number : Nat) (markup : String) (take : Take)
    (studio : Studio V) : Prop where
  scratch : take.scratch = booking.dir number
  recorded : booking.grounds.Recorded (booking.dir number) (booking.folder number) 0
    (booking.grounds.heard (booking.dir number) 0 (booking.session.tree markup))
    ⟨take.artifact, []⟩ studio

/-- What others leave alone while a render is under way, and as long as it is kept. -/
abbrev Others (booking : Booking V) (number : Nat) : Studio V → Studio V → Prop :=
  booking.grounds.Spares (Disk.within (booking.folder number))

/-- What a render does at most in the rooms. -/
abbrev Own (booking : Booking V) (number : Nat) : Studio V → Studio V → Prop :=
  booking.grounds.Careful (Disk.within (booking.folder number))

theorem others_of_own (own : booking.Own number studio after) (apart : number ≠ other) :
    booking.Others other studio after := by
  refine own.toSpares.mono ?_
  intro location inside
  exact ⟨booking.room_subset_rooms other inside, fun also => apart (room_disjoint also inside)⟩

theorem stable_vacated (booking : Booking V) (number : Nat) :
    Job.Stable (booking.Others number) (booking.Vacated number) := by
  intro studio after spares vacated
  refine ⟨spares.fine vacated.fine, ?_⟩
  intro location inside
  rw [← spares.same location inside]
  exact vacated.nothing location inside

theorem stable_cleared (booking : Booking V) (number : Nat) :
    Job.Stable (booking.Others number) (booking.Cleared number) := by
  intro studio after spares cleared
  refine ⟨spares.fine cleared.fine, ?_⟩
  intro removable location inside
  rw [← spares.same location inside]
  exact cleared.nothing removable location inside

theorem numbered_mem_room (booking : Booking V) (number file : Nat) :
    numbered (booking.folder number) file ∈ Disk.within (booking.folder number) :=
  (Disk.numbered_mem_below _ file).1

theorem stable_kept (prepared : booking.IsPrepared limit) (number : Nat) (markup : String)
    (take : Take) : Job.Stable (booking.Others number) (booking.Kept number markup take) := by
  intro studio after spares kept
  exact ⟨kept.scratch, Grounds.stable_recorded (prepared.offers number) (List.suffix_refl _)
    (booking.numbered_mem_room number 0) _ _ _ _ spares kept.recorded⟩

/-- The system treats the files of each render alike, whatever the room is. -/
def IsUniform (booking : Booking V) (limit : Nat) : Prop :=
  ∀ request, booking.asked request → ∀ number < limit,
    booking.session.equipment.host.AlikeIn (booking.dir number) (booking.dir 0)
      (booking.session.tree request.markup).size

theorem size_file (booking : Booking V) (number file : Nat) :
    (numberedFile (booking.dir number) file).text.utf8ByteSize =
      (booking.dir number).text.utf8ByteSize + 1 + (numberedName file).utf8ByteSize := by
  obtain ⟨front, joined⟩ := Disk.join_front booking.session.settings.scratchDir
  have room : booking.dir number = ⟨front ++ booking.session.roomName number⟩ :=
    joined _ (booking.session.relative_roomName number)
  obtain ⟨nonempty, -, -⟩ := booking.session.proper_of_mark (booking.session.mark_front number)
  have letters : (booking.session.roomName number).toList ≠ [] := by simpa using nonempty
  have proper : front ++ booking.session.roomName number ≠ "" := by
    intro blank
    have both : front = "" ∧ booking.session.roomName number = "" := by simpa using blank
    exact nonempty both.2
  have bare : Path.endsWithSlash ⟨front ++ booking.session.roomName number⟩ = false := by
    simp only [Path.endsWithSlash, String.toList_append, List.getLast?_append,
      List.getLast?_eq_getLast_of_ne_nil letters, Option.some_or, Option.some.injEq,
      decide_eq_false_iff_not]
    intro last
    exact booking.session.plain_roomName number (last ▸ List.getLast_mem letters)
  have relative : (numberedName file).toList.head? ≠ some '/' := by
    obtain ⟨-, -, -, plain, -, -⟩ :=
      (Path.isPlainName_iff _).mp (isPlainName_numberedName file)
    exact fun first => plain (List.mem_of_mem_head? first)
  have slash : ("/" : String).utf8ByteSize = 1 := rfl
  rw [numberedFile_eq_join, room]
  simp only [Path.join, relative, proper, bare, if_false, decide_false, Bool.or_self,
    Bool.false_eq_true, String.utf8ByteSize_append, slash]

/-- A file of one of the first ten thousand rooms can be followed if it can be in the first one. -/
theorem fits_dir_iff (booking : Booking V) (few : number < 10000) (file : Nat) :
    Disk.Fits (booking.dir number) file ↔ Disk.Fits (booking.dir 0) file := by
  obtain ⟨front, joined⟩ := Disk.join_front booking.session.settings.scratchDir
  have room : ∀ number, (booking.dir number).text.utf8ByteSize =
      front.utf8ByteSize + (booking.session.roomName number).utf8ByteSize := by
    intro number
    rw [dir, Session.scratchDir_eq, joined _ (booking.session.relative_roomName number),
      String.utf8ByteSize_append]
  unfold Disk.Fits
  rw [booking.size_file, booking.size_file, room, room, booking.session.size_roomName_of_few few]

end Booking

end SpokenMarkup
