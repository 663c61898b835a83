import SpokenMarkup.Proofs.CommandLine.Loop

set_option autoImplicit false

namespace SpokenMarkup.CommandLine

variable {V : Type} {session : Session V} {target : Path}

/-- What lies in the scratch directories of the renders that got one. -/
def inRooms (session : Session V) (disk : Disk) (turns : List (Option (Saying V))) :
    Set Location :=
  {location | ∃ saying take, some saying ∈ turns ∧ saying.outcome = .ok take ∧
    location ∈ Disk.within (disk.place (saying.room session))}

/-- A place that is as it was, or where a directory was made on the way to the scratch directories
or to the target. -/
def Stays (session : Session V) (target : Path) (before after : Disk) (location : Location) :
    Prop :=
  after.entry? location = before.entry? location ∨
    (before.entry? location = none ∧ after.entry? location = some .directory ∧
      (location ∈ before.trail session.settings.scratchDir ∨ location ∈ before.way target))

/-- What a call left in the target that it opened: the audio of its render, or what of that was
transferred before the copy broke off. -/
inductive Saying.Fills (session : Session V) (target : Path) (saying : Saying V)
    (bytes : ByteArray) : Prop
  | whole {take : Take} {artifact : Path} (got : saying.outcome = .ok take)
    (audible : take.artifact = some artifact) (read : saying.middle.disk.read artifact = .ok bytes)
    (gave : saying.result = .ok (some target)) : Fills session target saying bytes
  | broken {take : Take} {artifact : Path} {content : ByteArray} {written : Nat} {fault : Fault}
    (got : saying.outcome = .ok take) (audible : take.artifact = some artifact)
    (read : saying.middle.disk.read artifact = .ok content)
    (stops : session.equipment.host.copying artifact target content ≠ none)
    (failed : saying.result = .error fault) (part : bytes = content.extract 0 written) :
    Fills session target saying bytes

/-- The scratch directory of a render is gone with all that was in it, or it is one of those that the
system does not remove. -/
def IsCleared (session : Session V) (before after : Disk) (number : Nat) : Prop :=
  match session.equipment.host.removing (session.scratchDir number) with
  | none => ∀ location ∈ Disk.within (before.place (session.scratchDir number)),
      after.entry? location = none
  | some _ => after.entry? (before.place (session.scratchDir number)) = some .directory

theorem IsCleared.congr {before between after : Disk} {number : Nat}
    (same : ∀ location ∈ Disk.within (before.place (session.scratchDir number)),
      after.entry? location = between.entry? location)
    (cleared : IsCleared session before between number) :
    IsCleared session before after number := by
  unfold IsCleared at cleared ⊢
  cases removing : session.equipment.host.removing (session.scratchDir number) with
  | none =>
      rw [removing] at cleared
      exact fun location inside => (same location inside).trans (cleared location inside)
  | some refusal =>
      rw [removing] at cleared
      exact (same _ (List.suffix_refl _)).trans cleared

section Stays

variable {before between after : Disk} {location : Location}

theorem Stays.trans (home : before.home = between.home)
    (early : Stays session target before between location)
    (late : Stays session target between after location) :
    Stays session target before after location := by
  unfold Stays at late
  rw [Disk.trail_congr home, Disk.way_congr home] at late
  rcases late with same | ⟨absent, made, onWay⟩
  · unfold Stays
    rw [same]
    exact early
  · rcases early with same | ⟨-, stands, -⟩
    · exact Or.inr ⟨same ▸ absent, made, onWay⟩
    · rw [stands] at absent
      cases absent

theorem Stays.entry_eq (aside : RoomsAside session target before) {number : Nat}
    (inside : location ∈ Disk.within (before.place (session.scratchDir number)))
    (stays : Stays session target before after location) :
    after.entry? location = before.entry? location := by
  rcases stays with same | ⟨-, -, onWay⟩
  · exact same
  · have onTrail : location ∈ before.trail session.settings.scratchDir ∪ before.trail target :=
      onWay.imp_right Or.inl
    exact absurd inside (aside number location onTrail)

theorem Stays.directory (stays : Stays session target before after location)
    (held : before.entry? location = some .directory) :
    after.entry? location = some .directory := by
  rcases stays with same | ⟨-, made, -⟩
  · rw [same, held]
  · exact made

theorem Stays.file_iff (stays : Stays session target before after location) (content : ByteArray)
    (mode : Bool) : after.entry? location = some (.file content mode) ↔
      before.entry? location = some (.file content mode) := by
  rcases stays with same | ⟨absent, made, -⟩
  · rw [same]
  · simp [absent, made]

end Stays

section Call

variable {saying : Saying V}

theorem Saying.Happens.stays (happens : saying.Happens session target) (location : Location)
    (outside : ∀ take, saying.outcome = .ok take →
      location ∉ Disk.within (saying.before.disk.place (saying.room session)))
    (shut : location = saying.before.disk.place target → saying.opened target = false) :
    Stays session target saying.before.disk saying.after.disk location := by
  cases outcome : saying.outcome with
  | error fault =>
      rcases (happens.refused fault outcome).entry location with same | ⟨onTrail, absent, made⟩
      · exact Or.inl same
      · exact Or.inr ⟨absent, made, Or.inl onTrail⟩
  | ok take =>
      have apart := outside take outcome
      rcases happens.settles.untouched location apart with same | made | ⟨here, opens⟩
      · exact Or.inl same
      · exact Or.inr made
      · have opened := Saying.opened_iff.mpr opens
        rw [shut here] at opened
        cases opened

theorem Saying.Happens.gave (happens : saying.Happens session target) {file : Path}
    (done : saying.result = .ok (some file)) : file = target ∧ saying.opened target = true := by
  cases outcome : saying.outcome with
  | error fault =>
      rw [(happens.settles.refused fault outcome).1] at done
      cases done
  | ok take =>
      cases audible : take.artifact with
      | none =>
          rw [happens.settles.silent take outcome audible] at done
          cases done
      | some artifact =>
          rw [happens.settles.published take artifact outcome audible] at done
          cases opens : FileTask.opens artifact target saying.middle.disk with
          | false =>
              obtain ⟨fault, failed⟩ := happens.settles.shut take artifact outcome audible opens
              rw [failed] at done
              cases done
          | true =>
              refine ⟨?_, Saying.opened_iff.mpr ⟨take, artifact, outcome, audible, opens⟩⟩
              cases copied :
                (FileTask.copy session.equipment.host artifact target saying.middle.disk).1 with
              | error fault =>
                  rw [copied] at done
                  cases done
              | ok value =>
                  rw [copied] at done
                  exact (Option.some.inj (Except.ok.inj done)).symm

/-- A call that opened the target left the audio of its render in it, as far as the copy went. -/
theorem Saying.Happens.fills (happens : saying.Happens session target)
    (aside : RoomsAside session target saying.before.disk) (opened : saying.opened target = true) :
    ∃ bytes mode, saying.Fills session target bytes ∧
      saying.after.disk.entry? (saying.before.disk.place target) = some (.file bytes mode) ∧
      saying.after.disk.read target = .ok bytes := by
  obtain ⟨take, artifact, got, audible, opens⟩ := Saying.opened_iff.mp opened
  have result := happens.settles.published take artifact got audible
  obtain ⟨content, bytes, mode, read, transfers, held, again⟩ :=
    happens.settles.opened take artifact got audible opens
  refine ⟨bytes, mode, ?_, held, again fun location onWay => aside _ location (Or.inr (Or.inl onWay))⟩
  generalize (FileTask.copy session.equipment.host artifact target saying.middle.disk).1 = copied
    at result transfers
  cases transfers with
  | whole _ => exact .whole got audible read result
  | broken stops fault written =>
      exact .broken got audible read (by rw [stops]; exact nofun) result rfl

theorem Saying.Happens.cleared (happens : saying.Happens session target) {take : Take}
    (got : saying.outcome = .ok take) :
    IsCleared session saying.before.disk saying.after.disk saying.before.renders := by
  unfold IsCleared
  cases removing : session.equipment.host.removing (session.scratchDir saying.before.renders) with
  | none => exact happens.settles.emptied take got removing
  | some refusal => exact (happens.settles.left take refusal got removing).1

end Call

namespace Turns

variable {lines : List String} {studio after : Studio V} {turns : List (Option (Saying V))}

theorem mem_inRooms_cons {disk : Disk} {turn : Option (Saying V)} {location : Location} :
    location ∈ inRooms session disk (turn :: turns) ↔
      (∃ saying take, turn = some saying ∧ saying.outcome = .ok take ∧
        location ∈ Disk.within (disk.place (saying.room session))) ∨
      location ∈ inRooms session disk turns := by
  constructor
  · rintro ⟨saying, take, member, got, inside⟩
    cases List.mem_cons.mp member with
    | inl here => exact Or.inl ⟨saying, take, here.symm, got, inside⟩
    | inr there => exact Or.inr ⟨saying, take, there, got, inside⟩
  · rintro (⟨saying, take, rfl, got, inside⟩ | ⟨saying, take, member, got, inside⟩)
    · exact ⟨saying, take, List.mem_cons_self, got, inside⟩
    · exact ⟨saying, take, List.mem_cons_of_mem _ member, got, inside⟩

theorem inRooms_congr {before later : Disk} (home : before.home = later.home) :
    inRooms session later turns = inRooms session before turns := by
  unfold inRooms
  simp only [Disk.place_congr home]

theorem lastOpened_pass : lastOpened target (none :: turns) = lastOpened target turns := by
  rw [lastOpened, Option.filter_none, Option.or_none]

theorem lastOpened_eq_none {saying : Saying V}
    (none : lastOpened target (some saying :: turns) = none) :
    lastOpened target turns = .none ∧ saying.opened target = false := by
  rw [lastOpened, Option.or_eq_none_iff] at none
  refine ⟨none.1, ?_⟩
  simpa using none.2

theorem untouched (takes : Turns session target lines studio turns after) (location : Location)
    (outside : location ∉ inRooms session studio.disk turns)
    (shut : location = studio.disk.place target → lastOpened target turns = none) :
    Stays session target studio.disk after.disk location := by
  induction takes with
  | done => exact Or.inl rfl
  | pass empty _ ih =>
      rw [lastOpened_pass] at shut
      exact ih (fun inside => outside (mem_inRooms_cons.mpr (Or.inr inside))) shut
  | say full markup happens rest ih =>
      rename_i saying _ turns
      have here : Stays session target saying.before.disk saying.after.disk location := by
        apply happens.stays
        · intro take got inside
          exact outside (mem_inRooms_cons.mpr (Or.inl ⟨saying, take, rfl, got, inside⟩))
        · intro same
          exact (lastOpened_eq_none (shut same)).2
      rw [Saying.disk_left, inRooms_congr happens.home, Disk.place_congr happens.home] at ih
      apply here.trans happens.home
      apply ih
      · exact fun inside => outside (mem_inRooms_cons.mpr (Or.inr inside))
      · exact fun same => (lastOpened_eq_none (shut same)).1

theorem room_kept (takes : Turns session target lines studio turns after)
    (aside : RoomsAside session target studio.disk) {number : Nat}
    (others : ∀ saying take, some saying ∈ turns → saying.outcome = .ok take →
      saying.before.renders ≠ number) :
    ∀ location ∈ Disk.within (studio.disk.place (session.scratchDir number)),
      after.disk.entry? location = studio.disk.entry? location := by
  intro location inside
  refine (takes.untouched location ?_ fun here => ?_).entry_eq aside inside
  · rintro ⟨saying, take, member, got, there⟩
    rw [session.place_scratchDir] at inside
    rw [Saying.room, session.place_scratchDir] at there
    exact others saying take member got
      (session.roomName_injective (Disk.within_disjoint there inside))
  · rw [here] at inside
    exact absurd inside (aside number _ (Or.inr (Or.inr rfl)))

theorem cleared (takes : Turns session target lines studio turns after)
    (aside : RoomsAside session target studio.disk) :
    ∀ saying take, some saying ∈ turns → saying.outcome = .ok take →
      IsCleared session studio.disk after.disk saying.before.renders := by
  induction takes with
  | done => exact fun _ _ member => absurd member List.not_mem_nil
  | pass empty _ ih =>
      intro saying take member
      rcases List.mem_cons.mp member with impossible | later
      · cases impossible
      · exact ih aside saying take later
  | say full markup happens rest ih =>
      rename_i current _ turns
      have next : RoomsAside session target (current.left target).disk := by
        rw [Saying.disk_left]
        exact aside.congr happens.home
      replace ih := ih next
      have kept := fun number => @room_kept _ _ _ _ _ _ _ rest next number
      simp only [Saying.disk_left, IsCleared, Disk.place_congr happens.home] at ih kept
      intro saying take member got
      by_cases again : ∃ other took, some other ∈ turns ∧ other.outcome = .ok took ∧
          other.before.renders = saying.before.renders
      · obtain ⟨other, took, later, gotToo, same⟩ := again
        have cleared := ih other took later gotToo
        rw [same] at cleared
        exact cleared
      · -- no later turn has the scratch directory, so this is the turn that has it
        have here : saying = current := by
          rcases List.mem_cons.mp member with here | later
          · exact Option.some.inj here
          · exact absurd ⟨saying, take, later, got, rfl⟩ again
        subst here
        exact (happens.cleared got).congr <| kept saying.before.renders
          fun other took later gotToo same => again ⟨other, took, later, gotToo, same⟩

theorem place_notMem_inRooms {disk : Disk} (aside : RoomsAside session target disk)
    {location : Location}
    (onTrail : location ∈ disk.trail session.settings.scratchDir ∪ disk.trail target) :
    location ∉ inRooms session disk turns := by
  rintro ⟨saying, take, -, -, inside⟩
  exact aside saying.before.renders location onTrail inside

theorem read_kept (takes : Turns session target lines studio turns after)
    (aside : RoomsAside session target studio.disk) (shut : lastOpened target turns = none)
    {content : ByteArray} (told : studio.disk.read target = .ok content) :
    after.disk.read target = .ok content := by
  have stays : ∀ location ∈ studio.disk.trail target,
      Stays session target studio.disk after.disk location := by
    intro location onTrail
    exact takes.untouched location (place_notMem_inRooms aside (Or.inr onTrail)) fun _ => shut
  have same : after.disk.entry? (studio.disk.place target) =
      studio.disk.entry? (studio.disk.place target) := by
    obtain ⟨mode, opened⟩ := Disk.openFile_of_read told
    obtain ⟨-, -, held⟩ := Disk.openFile_eq_some.mp opened
    rw [held]
    exact ((stays _ (Or.inr rfl)).file_iff content mode).mpr held
  apply Disk.read_kept takes.home_eq told same
  exact fun location onWay held => (stays location (Or.inl onWay)).directory held

theorem written (takes : Turns session target lines studio turns after)
    (aside : RoomsAside session target studio.disk) (saying : Saying V)
    (last : lastOpened target turns = some saying) :
    ∃ bytes mode, saying.Fills session target bytes ∧
      after.disk.entry? (studio.disk.place target) = some (.file bytes mode) ∧
      after.disk.read target = .ok bytes := by
  induction takes with
  | done => cases last
  | pass empty _ ih =>
      rw [lastOpened_pass] at last
      exact ih aside last
  | say full markup happens rest ih =>
      rename_i current _ turns
      have next : RoomsAside session target (current.left target).disk := by
        rw [Saying.disk_left]
        exact aside.congr happens.home
      rw [lastOpened] at last
      cases later : lastOpened target turns with
      | some other =>
          rw [later, Option.some_or] at last
          rw [Saying.disk_left, Disk.place_congr happens.home, ← Saying.disk_left target] at ih
          exact ih next (later.trans last)
      | none =>
          rw [later, Option.none_or, Option.filter_eq_some_iff] at last
          obtain ⟨same, opened⟩ := last
          cases same
          obtain ⟨bytes, mode, fills, held, read⟩ := happens.fills aside opened
          refine ⟨bytes, mode, fills, ?_, ?_⟩
          · have stays := rest.untouched _ (place_notMem_inRooms next (Or.inr (Or.inr rfl)))
              fun _ => later
            rw [Saying.disk_left, Disk.place_congr happens.home] at stays
            exact (stays.file_iff bytes mode).mpr held
          · apply rest.read_kept next later
            rw [Saying.disk_left]
            exact read

end Turns

end SpokenMarkup.CommandLine
