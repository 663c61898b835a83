import SpokenMarkup.Proofs.Studio.Grounds

set_option autoImplicit false

namespace SpokenMarkup

open Disk (numbered numberedIn)

theorem Job.ensures_of {σ α : Type} {rely guar : σ → σ → Prop} {pre : σ → Prop} {job : Job σ α}
    {post : α → σ → Prop} {fact : Prop} (given : ∀ state, pre state → fact)
    (ensures : fact → Job.Ensures rely guar pre job post) : Job.Ensures rely guar pre job post :=
  fun state start => ensures (given state start) state start

/-- A job keeps what neither its own steps nor those of others change. -/
theorem Job.ensures_frame {σ α : Type} {rely wider guar : σ → σ → Prop} {pre still : σ → Prop}
    {job : Job σ α} {post : α → σ → Prop} (ensures : Job.Ensures rely guar pre job post)
    (relies : ∀ state after, wider state after → rely state after)
    (stable : Job.Stable wider still) (stays : Job.Stable guar still) :
    Job.Ensures wider guar (fun state => pre state ∧ still state) job
      fun result state => post result state ∧ still state := by
  intro state start later after amid
  have along : Job.Amid rely job state later after ∧ still after := by
    induction amid with
    | refl => exact ⟨.refl, start.2⟩
    | own _ moved ih =>
        obtain ⟨earlier, holds⟩ := ih
        have step := (ensures state start.1 _ _ earlier).1 _ _ moved
        exact ⟨.own earlier moved, stays _ _ step holds⟩
    | other _ changed ih =>
        exact ⟨.other ih.1 (relies _ _ changed), stable _ _ changed ih.2⟩
  obtain ⟨steps, results⟩ := ensures state start.1 later after along.1
  exact ⟨steps, fun result equal => ⟨results result equal, along.2⟩⟩

theorem Job.ensures_given {σ α : Type} {rely guar : σ → σ → Prop} {pre : σ → Prop} {job : Job σ α}
    {post : α → σ → Prop} {fact : Prop} (ensures : fact → Job.Ensures rely guar pre job post) :
    Job.Ensures rely guar (fun state => fact ∧ pre state) job post :=
  fun state start => ensures start.1 state start.2

theorem speakAs_renders {V : Type} (voice : Voice V) (speaker text : String) (studio : Studio V) :
    (voice.speakAs speaker text studio).2.renders = studio.renders := by
  refine speakAs_invariant voice (·.renders = studio.renders) ?_ ?_ ?_ rfl
  · exact fun _ _ kept => kept
  · intro after kept
    rw [Studio.call_apply]
    exact kept
  · intro after kept
    rw [Studio.call_apply]
    exact kept

theorem Disk.agreeOff_root {first second : Disk} (home : first.home = second.home) :
    Disk.AgreeOff (Disk.below []) first second := by
  refine ⟨home, ?_⟩
  intro location outside
  have root : location = [] := by
    by_contra proper
    exact outside ⟨List.nil_suffix, proper⟩
  rw [root]
  rfl

namespace Grounds

variable {V : Type} {grounds : Grounds V} {dir : Path} {folder : Location} {number size : Nat}
  {kept touched : Set Location} {audio : Option Reading} {pre : Studio V → Prop}

section Steps

variable (suits : grounds.Suits dir folder size)
include suits

theorem numbered_mem_rooms (number : Nat) : numbered folder number ∈ grounds.rooms :=
  suits.inside (Disk.numbered_mem_below folder number).1

theorem Open.careful {studio after : Studio V} (isOpen : grounds.Open dir folder studio)
    (careful : grounds.Careful {numbered folder number} studio after) :
    grounds.Open dir folder after := by
  have own : folder ∈ grounds.rooms \ {numbered folder number} := by
    refine ⟨suits.inside (List.suffix_refl folder), ?_⟩
    intro same
    have below := Disk.numbered_mem_below folder number
    rw [← show folder = numbered folder number from same] at below
    exact Disk.not_mem_below_self folder below
  exact stable_open suits.toOffers own _ _ careful.toSpares isOpen

theorem careful_onDisk {studio : Studio V} {task : FileTask Unit}
    (produces : Produces audio (numberedFile dir number) (numbered folder number) studio.disk
      (task studio.disk)) :
    grounds.Careful {numbered folder number} studio (Studio.onDisk task studio).2 := by
  refine careful_of_agreeOff suits.owned ?_ produces.frame (fun reached => reached) rfl
  intro location single
  rw [show location = numbered folder number from single]
  exact numbered_mem_rooms suits number

/-- Speaking leaves the disk alone, and says what is to be said. -/
theorem speakAs_said (settled : grounds.Settled) (speaker text : String) {studio : Studio V}
    (fine : grounds.Fine studio) :
    (grounds.equipment.voice.speakAs speaker text studio).1 = grounds.sound speaker text ∧
      grounds.Careful ∅ studio (grounds.equipment.voice.speakAs speaker text studio).2 := by
  have agree := Disk.agreeOff_root fine.admits.frame.home
  refine ⟨settled.repeats.said studio fine.reached agree speaker text, ?_⟩
  have frame := settled.repeats.kept studio fine.reached agree speaker text
  exact careful_of_agreeOff suits.owned (Set.empty_subset _) frame
    (fun reached => .spoken reached agree speaker text) (speakAs_renders _ speaker text studio).symm

end Steps

/-- Work amid others: it leaves this to be read of a file, or fails without audio. -/
def Fills (grounds : Grounds V) (dir : Path) (folder : Location) (kept : Set Location)
    (number : Nat) (audio : Option Reading) (pre : Studio V → Prop)
    (work : StudioJob V Unit) : Prop :=
  StudioJob.Ensures (grounds.Spares kept) (grounds.Careful {numbered folder number}) pre work
    (fun _ studio => ∃ reading, audio = some reading ∧ grounds.Made dir folder number reading studio)
    (fun studio => audio = none ∧ grounds.Open dir folder studio)

section Work

variable (suits : grounds.Suits dir folder size) (own : folder ∈ kept)
  (inside : numbered folder number ∈ kept)
include suits own

theorem stable_lost (audio : Option Reading) : Job.Stable (grounds.Spares kept)
    fun studio => audio = none ∧ grounds.Open dir folder studio :=
  fun _ _ spares lost => ⟨lost.1, stable_open suits.toOffers own _ _ spares lost.2⟩

include inside

theorem stable_filled (audio : Option Reading) : Job.Stable (grounds.Spares kept)
    fun studio => ∃ reading, audio = some reading ∧ grounds.Made dir folder number reading studio := by
  rintro studio after spares ⟨reading, audible, made⟩
  exact ⟨reading, audible, stable_made suits.toOffers own inside reading _ _ spares made⟩

theorem fills_onDisk {task : FileTask Unit} (stable : Job.Stable (grounds.Spares kept) pre)
    (produces : ∀ studio, pre studio → grounds.Open dir folder studio ∧
      Produces audio (numberedFile dir number) (numbered folder number) studio.disk
        (task studio.disk)) :
    grounds.Fills dir folder kept number audio pre (Equipment.attemptOnDisk task) := by
  refine StudioJob.ensures_attempt stable (fun _ => stable_filled suits own inside audio)
    (stable_lost suits own audio) ?_
  intro studio holds
  obtain ⟨isOpen, produces⟩ := produces studio holds
  have careful := careful_onDisk suits produces
  have stays := isOpen.careful suits careful
  refine ⟨careful, ?_⟩
  obtain ⟨-, made, failed⟩ := produces
  unfold Studio.onDisk at stays ⊢
  generalize task studio.disk = ending at made failed stays ⊢
  obtain ⟨result, after⟩ := ending
  cases result with
  | error fault =>
      refine ⟨?_, stays⟩
      cases audio with
      | none => rfl
      | some reading => cases (made reading rfl).1
  | ok value =>
      cases audio with
      | none =>
          obtain ⟨fault, impossible⟩ := failed rfl
          cases impossible
      | some reading => exact ⟨reading, rfl, stays, (made reading rfl).2⟩

omit suits own inside

theorem ensures_idle {failed : Studio V → Prop} {change : Studio V → Studio V}
    (idle : ∀ studio, Idle studio (change studio)) (stable : Job.Stable (grounds.Spares kept) pre) :
    StudioJob.Ensures (grounds.Spares kept) (grounds.Careful touched) pre
      (modify change : StudioJob V PUnit) (fun _ => pre) failed := by
  refine StudioJob.ensures_modify stable stable ?_
  intro studio holds
  exact ⟨(idle studio).careful, stable _ _ (idle studio).spares holds⟩

theorem ensures_noting {failed : Studio V → Prop} (event : Event)
    (stable : Job.Stable (grounds.Spares kept) pre) :
    StudioJob.Ensures (grounds.Spares kept) (grounds.Careful touched) pre
      (modify (·.noting event) : StudioJob V PUnit) (fun _ => pre) failed :=
  ensures_idle (fun studio => idle_noting studio event) stable

include suits own

theorem fills_after {α : Type} {first : StudioJob V α} {next : α → StudioJob V Unit}
    (between : α → Studio V → Prop)
    (begins : StudioJob.Ensures (grounds.Spares kept) (grounds.Careful {numbered folder number})
      pre first between fun studio => audio = none ∧ grounds.Open dir folder studio)
    (rest : ∀ value, grounds.Fills dir folder kept number audio (between value) (next value)) :
    grounds.Fills dir folder kept number audio pre (first >>= next) :=
  StudioJob.ensures_bind between (stable_lost suits own audio) begins rest

theorem fills_get {next : Studio V → StudioJob V Unit}
    (stable : Job.Stable (grounds.Spares kept) pre) (fine : ∀ studio, pre studio → grounds.Fine studio)
    (rest : ∀ seen, grounds.Admits seen.disk →
      grounds.Fills dir folder kept number audio pre (next seen)) :
    grounds.Fills dir folder kept number audio pre (get >>= next) := by
  refine fills_after suits own (fun seen studio => grounds.Admits seen.disk ∧ pre studio) ?_ ?_
  · refine StudioJob.ensures_get stable ?_ ?_
    · intro seen studio after spares holds
      exact ⟨holds.1, stable _ _ spares holds.2⟩
    · intro studio holds
      have still : grounds.Careful {numbered folder number} studio studio :=
        ⟨Spares.refl _ _ _, rfl⟩
      exact ⟨still, (fine studio holds).admits, holds⟩
  · intro seen
    exact Job.ensures_given (rest seen)

end Work

section Tasks

variable (suits : grounds.Suits dir folder size) (own : folder ∈ kept)
  (inside : numbered folder number ∈ kept)
include suits own inside

theorem fills_speech (settled : grounds.Settled) (speaker text : String) :
    grounds.Fills dir folder kept number
      ((grounds.sound speaker text).toOption.bind (grounds.equipment.host.written dir number))
      (grounds.Free dir folder number)
      (grounds.equipment.speech speaker text (numberedFile dir number)) := by
  have stable := stable_free suits.toOffers own inside
  refine fills_after suits own (fun _ => _) (ensures_noting _ stable) fun _ => ?_
  refine fills_after suits own (fun content studio =>
    grounds.sound speaker text = .ok content ∧ grounds.Free dir folder number studio)
    ?_ ?_
  · refine StudioJob.ensures_attempt stable ?_ (stable_lost suits own _) ?_
    · intro content studio after spares holds
      exact ⟨holds.1, stable _ _ spares holds.2⟩
    · intro studio free
      obtain ⟨said, careful⟩ := speakAs_said suits settled speaker text free.fine
      have stays : grounds.Free dir folder number _ :=
        stable_free suits.toOffers (suits.inside (List.suffix_refl folder))
          (numbered_mem_rooms suits number) _ _ (careful.toSpares.mono fun _ inside => ⟨inside, Set.notMem_empty _⟩) free
      refine ⟨careful.mono (Set.empty_subset _), ?_⟩
      rw [said]
      cases grounds.sound speaker text with
      | ok content => exact ⟨rfl, stays⟩
      | error fault => exact ⟨rfl, stays.toOpen⟩
  · intro content
    refine Job.ensures_given fun audible => ?_
    refine fills_onDisk suits own inside stable ?_
    intro studio free
    rw [audible, Except.toOption, Option.bind_some]
    exact ⟨free.toOpen, free.housed.write_produces free.free grounds.equipment.host content _⟩

variable (bound : number < size)
include bound

theorem fills_effect (settled : grounds.Settled) (id : String) :
    grounds.Fills dir folder kept number
      (grounds.equipment.placed grounds.craft grounds.start dir number id)
      (grounds.Free dir folder number)
      (grounds.equipment.effect id (numberedFile dir number)) := by
  have stable := stable_free suits.toOffers own inside
  refine fills_after suits own (fun _ => _) (ensures_noting _ stable) fun _ => ?_
  refine fills_get suits own stable (fun _ free => free.fine) fun seen admits => ?_
  rw [settled.finds _ admits id]
  unfold Equipment.placed
  cases found : grounds.equipment.assets id grounds.start with
  | none => exact StudioJob.ensures_throw _ (fun _ free => ⟨rfl, free.toOpen⟩) (stable_lost suits own _)
  | some asset =>
      refine fills_onDisk suits own inside stable ?_
      intro studio free
      have same := Disk.read_congr (settled.opens _ free.fine.admits id asset found)
      refine ⟨free.toOpen, ?_⟩
      simp only [← same]
      rw [Mixer.place]
      by_cases wave : asset.isWave = true
      · rw [if_pos wave, if_pos wave]
        exact free.housed.copy_produces free.free grounds.equipment.host asset.path
      · rw [if_neg wave, if_neg wave]
        have here := (settled.finds _ free.fine.admits id).trans found
        exact (free.toOpen.governs suits).converts id asset here number bound free.free

omit bound

theorem fills_from {source : Nat} {part : Reading} {task : FileTask Unit}
    (insideSource : numbered folder source ∈ kept)
    (produces : ∀ disk : Disk, grounds.craft.Governs grounds.equipment disk dir folder size →
      Housed dir folder disk → disk.read (numberedFile dir source) = part →
      disk.entry? (numbered folder number) = none →
      Produces audio (numberedFile dir number) (numbered folder number) disk (task disk)) :
    grounds.Fills dir folder kept number audio
      (fun studio => grounds.Free dir folder number studio ∧
        grounds.Made dir folder source part studio)
      (Equipment.attemptOnDisk task) := by
  refine fills_onDisk suits own inside ?_ ?_
  · intro studio after spares holds
    exact ⟨stable_free suits.toOffers own inside _ _ spares holds.1,
      stable_made suits.toOffers own insideSource part _ _ spares holds.2⟩
  · rintro studio ⟨free, made⟩
    exact ⟨free.toOpen, produces _ (free.toOpen.governs suits) free.housed made.read free.free⟩

theorem fills_copy {source : Nat} {part : Reading} (insideSource : numbered folder source ∈ kept) :
    grounds.Fills dir folder kept number
      (grounds.equipment.host.duplicate (numberedFile dir source) dir number part)
      (fun studio => grounds.Free dir folder number studio ∧
        grounds.Made dir folder source part studio)
      (Equipment.attemptOnDisk
        (FileTask.copy grounds.equipment.host (numberedFile dir source)
          (numberedFile dir number))) := by
  refine fills_from suits own inside insideSource ?_
  intro disk _ housed read free
  rw [← read]
  exact housed.copy_produces free grounds.equipment.host (numberedFile dir source)

end Tasks

end Grounds

/-- What comes of a run of a filter program: something to be read of its output, a failure without
audio, or nothing at all if there is no program to run, and then the input is copied. -/
inductive FilterEnd.Gives (audio copied : Option Reading) (output : Path) (before after : Disk) :
    Except Fault FilterEnd → Prop
  | success (audible : audio = some (after.read output)) :
    Gives audio copied output before after (.ok .success)
  | failed {status : String} (silent : audio = none) :
    Gives audio copied output before after (.ok (.failed status))
  | refused {fault : Fault} (silent : audio = none) :
    Gives audio copied output before after (.error fault)
  | unavailable {reason : OsError} (audible : audio = copied) (idle : after = before) :
    Gives audio copied output before after (.ok (.unavailable reason))

theorem runFilter_gives {V : Type} {equipment : Equipment V} {craft : Craft} {disk : Disk}
    {dir program : Path} {folder : Location} {size source number : Nat}
    (governs : craft.Governs equipment disk dir folder size) (housed : Housed dir folder disk)
    {id : String} (offered : equipment.programFor? id disk = some program)
    (sources : source < size) (bound : number < size)
    (free : disk.entry? (numbered folder number) = none) :
    let ending := runFilter equipment.launcher program (numberedFile dir source)
      (numberedFile dir number) disk
    let part := disk.read (numberedFile dir source)
    disk.AgreeOff {numbered folder number} ending.2 ∧
      FilterEnd.Gives (equipment.passed craft dir source number program part)
        (equipment.host.duplicate (numberedFile dir source) dir number part)
        (numberedFile dir number) disk ending.2 ending.1 := by
  intro ending part
  have room := Disk.makeRoom_numberedFile housed.located housed.standing number
  have equation : ending = _ := task_bind_ok _ room
  rw [equation]
  unfold Equipment.passed
  cases ended : craft.program program (Disk.Fits dir number) part with
  | error error =>
      rw [governs.refuses id program offered source sources number bound error free ended]
      cases error with
      | notFound => exact ⟨Disk.AgreeOff.refl _ _, .unavailable rfl rfl⟩
      | permissionDenied => exact ⟨Disk.AgreeOff.refl _ _, .unavailable rfl rfl⟩
      | _ => exact ⟨Disk.AgreeOff.refl _ _, .refused rfl⟩
  | ok outturn =>
      obtain ⟨status, reading⟩ := outturn
      obtain ⟨outcome, after, launched, rfl, frame, wrote⟩ :=
        governs.runs id program offered source sources number bound status reading free ended
      rw [launched]
      cases succeeded : outcome.status.succeeded with
      | true =>
          simp only [succeeded, if_true]
          refine ⟨frame, .success ?_⟩
          rw [wrote succeeded]
      | false =>
          simp only [succeeded, Bool.false_eq_true, if_false]
          exact ⟨frame, .failed rfl⟩

namespace Grounds

variable {V : Type} {grounds : Grounds V} {dir : Path} {folder : Location}
  {number source size : Nat} {kept : Set Location} {part : Reading}

section Filters

variable (suits : grounds.Suits dir folder size) (settled : grounds.Settled) (own : folder ∈ kept)
  (inside : numbered folder number ∈ kept) (insideSource : numbered folder source ∈ kept)
  (bound : number < size) (sources : source < size)
include suits settled own inside insideSource bound sources

def Ended (grounds : Grounds V) (dir : Path) (folder : Location) (number source : Nat)
    (part : Reading) (audio copied : Option Reading) : FilterEnd → Studio V → Prop
  | .success, studio => ∃ reading, audio = some reading ∧ grounds.Made dir folder number reading studio
  | .failed _, studio => audio = none ∧ grounds.Open dir folder studio
  | .unavailable _, studio => audio = copied ∧ grounds.Free dir folder number studio ∧
    grounds.Made dir folder source part studio

omit settled own inside insideSource bound sources in
theorem onDisk_ended {audio copied : Option Reading} {studio : Studio V} {task : FileTask FilterEnd}
    (free : grounds.Free dir folder number studio)
    (made : grounds.Made dir folder source part studio)
    (frame : studio.disk.AgreeOff {numbered folder number} (task studio.disk).2)
    (gives : FilterEnd.Gives audio copied (numberedFile dir number) studio.disk
      (task studio.disk).2 (task studio.disk).1) :
    grounds.Careful {numbered folder number} studio (Studio.onDisk task studio).2 ∧
      StudioJob.Ends (grounds.Ended dir folder number source part audio copied)
        (fun studio => audio = none ∧ grounds.Open dir folder studio)
        (Studio.onDisk task studio).1 (Studio.onDisk task studio).2 := by
  have careful : grounds.Careful {numbered folder number} studio (Studio.onDisk task studio).2 := by
    refine careful_of_agreeOff suits.owned ?_ frame (fun reached => reached) rfl
    intro location single
    rw [show location = numbered folder number from single]
    exact numbered_mem_rooms suits number
  have stays := free.toOpen.careful suits careful
  refine ⟨careful, ?_⟩
  unfold Studio.onDisk at stays ⊢
  generalize task studio.disk = ending at gives stays ⊢
  obtain ⟨result, after⟩ := ending
  cases gives with
  | success audible => exact ⟨_, audible, stays, rfl⟩
  | failed silent => exact ⟨silent, stays⟩
  | refused silent => exact ⟨silent, stays⟩
  | unavailable audible idle =>
      subst idle
      exact ⟨audible, free, made⟩

omit suits settled own inside insideSource bound sources

theorem stable_source (part : Reading) (suits : grounds.Suits dir folder size) (own : folder ∈ kept)
    (inside : numbered folder number ∈ kept) (insideSource : numbered folder source ∈ kept) :
    Job.Stable (grounds.Spares kept) fun studio =>
      grounds.Free dir folder number studio ∧ grounds.Made dir folder source part studio :=
  fun _ _ spares holds => ⟨stable_free suits.toOffers own inside _ _ spares holds.1,
    stable_made suits.toOffers own insideSource part _ _ spares holds.2⟩

include suits settled own inside insideSource bound sources

/-- A program is run on a file of the room; one that cannot be started leaves the audio as it is. -/
theorem fills_programFilter {id : String} {program : Path}
    (offered : grounds.equipment.programFor? id grounds.start = some program) :
    grounds.Fills dir folder kept number
      (grounds.equipment.passed grounds.craft dir source number program part)
      (fun studio => grounds.Free dir folder number studio ∧
        grounds.Made dir folder source part studio)
      (grounds.equipment.programFilter program (numberedFile dir source)
        (numberedFile dir number)) := by
  have stable := stable_source part suits own inside insideSource
  refine fills_after suits own (grounds.Ended dir folder number source part
    (grounds.equipment.passed grounds.craft dir source number program part)
    (grounds.equipment.host.duplicate (numberedFile dir source) dir number part)) ?_ ?_
  · refine StudioJob.ensures_attempt stable ?_ (stable_lost suits own _) ?_
    · intro ending
      cases ending with
      | success => exact stable_filled suits own inside _
      | failed status => exact stable_lost suits own _
      | unavailable reason =>
          exact fun _ _ spares holds => ⟨holds.1, stable _ _ spares holds.2⟩
    · rintro studio ⟨free, made⟩
      have here := (settled.offers _ free.fine.admits id).trans offered
      obtain ⟨frame, gives⟩ := runFilter_gives (free.toOpen.governs suits) free.housed here sources
        bound free.free
      rw [made.read] at gives
      exact onDisk_ended suits free made frame gives
  · intro ending
    cases ending with
    | success =>
        exact StudioJob.ensures_pure _ (fun _ holds => holds) (stable_filled suits own inside _)
    | failed status =>
        exact StudioJob.ensures_throw _ (fun _ holds => holds) (stable_lost suits own _)
    | unavailable reason =>
        refine Job.ensures_given fun audible => ?_
        rw [audible]
        exact fills_after suits own (fun _ => _) (ensures_noting _ stable) fun _ =>
          fills_copy suits own inside insideSource

theorem fills_filtered (part : Reading) (id : String) :
    grounds.Fills dir folder kept number
      (grounds.equipment.strained grounds.craft grounds.start dir source number id part)
      (fun studio => grounds.Free dir folder number studio ∧
        grounds.Made dir folder source part studio)
      (grounds.equipment.filtered id (numberedFile dir source) (numberedFile dir number)) := by
  have stable := stable_source part suits own inside insideSource
  refine fills_after suits own (fun _ => _) (ensures_noting _ stable) fun _ => ?_
  refine fills_get suits own stable (fun _ holds => holds.1.fine) fun seen admits => ?_
  rw [settled.offers _ admits id]
  unfold Equipment.strained
  cases offered : grounds.equipment.programFor? id grounds.start with
  | some program =>
      exact fills_programFilter suits settled own inside insideSource bound sources offered
  | none =>
      simp only [Equipment.builtInFilter]
      cases Preset.find? id with
      | none =>
          exact fills_after suits own (fun _ => _) (ensures_noting _ stable) fun _ =>
            fills_copy suits own inside insideSource
      | some preset =>
          refine fills_from suits own inside insideSource ?_
          intro disk governs _ read free
          rw [← read]
          exact governs.applies preset source sources number bound free

end Filters

/-- What a node is said to have is what there is. -/
def Told (grounds : Grounds V) (dir : Path) (folder : Location) (number : Nat)
    (audio : Option Reading) : Bool → Studio V → Prop
  | true, studio => ∃ reading, audio = some reading ∧ grounds.Made dir folder number reading studio
  | false, studio => audio = none ∧ grounds.Open dir folder studio

/-- Work that tells whether there is audio, amid others. -/
def Tells (grounds : Grounds V) (dir : Path) (folder : Location) (kept : Set Location)
    (number : Nat) (audio : Option Reading) (pre : Studio V → Prop)
    (work : StudioJob V Bool) : Prop :=
  StudioJob.Ensures (grounds.Spares kept) (grounds.Careful {numbered folder number}) pre work
    (grounds.Told dir folder number audio) fun studio => audio = none ∧ grounds.Open dir folder studio

/-- What came of a node is what is heard of it, and it is read of its own file. -/
structure Recorded (grounds : Grounds V) (dir : Path) (folder : Location) (number : Nat)
    (audio : Option Reading) (rendition : Rendition) (studio : Studio V) : Prop
    extends grounds.Open dir folder studio where
  heard : ∀ reading, audio = some reading → rendition.audio = some (numberedFile dir number) ∧
    grounds.Made dir folder number reading studio
  silent : audio = none → rendition.audio = none

/-- What came of several nodes: what is heard of them is read of files with numbers from a range. -/
structure RecordedAll (grounds : Grounds V) (dir : Path) (folder : Location) (first last : Nat)
    (parts : List (Nat × Reading)) (renditions : List Rendition) (studio : Studio V) : Prop
    extends grounds.Open dir folder studio where
  files : renditions.filterMap (·.audio) = parts.map fun part => numberedFile dir part.1
  heard : ∀ part ∈ parts, (first ≤ part.1 ∧ part.1 < last) ∧
    grounds.Made dir folder part.1 part.2 studio

theorem stable_recorded (offers : grounds.Offers dir folder) (own : folder ∈ kept)
    (inside : numbered folder number ∈ kept) (audio : Option Reading) (rendition : Rendition) :
    Job.Stable (grounds.Spares kept) (grounds.Recorded dir folder number audio rendition) := by
  intro studio after spares recorded
  refine ⟨stable_open offers own _ _ spares recorded.toOpen, ?_, recorded.silent⟩
  intro reading audible
  obtain ⟨file, made⟩ := recorded.heard reading audible
  exact ⟨file, stable_made offers own inside reading _ _ spares made⟩

section Results

variable {audio : Option Reading} {pre : Studio V → Prop} {first last : Nat}
  (suits : grounds.Suits dir folder size) (own : folder ∈ kept)
include suits own

theorem stable_recordedAll (inside : numberedIn folder first last ⊆ kept)
    (parts : List (Nat × Reading)) (renditions : List Rendition) : Job.Stable (grounds.Spares kept)
      (grounds.RecordedAll dir folder first last parts renditions) := by
  intro studio after spares recorded
  refine ⟨stable_open suits.toOffers own _ _ spares recorded.toOpen, recorded.files, ?_⟩
  intro part listed
  obtain ⟨ranged, made⟩ := recorded.heard part listed
  have member := inside (Disk.numbered_mem_numberedIn_iff.mpr ranged)
  exact ⟨ranged, stable_made suits.toOffers own member _ _ _ spares made⟩

variable (inside : numbered folder number ∈ kept)
include inside

theorem Fills.tells {work : StudioJob V Unit}
    (fills : grounds.Fills dir folder kept number audio pre work) :
    grounds.Tells dir folder kept number audio pre (do work; pure true) :=
  StudioJob.ensures_bind _ (stable_lost suits own audio) fills fun _ =>
    StudioJob.ensures_pure true (fun _ holds => holds) (stable_filled suits own inside audio)

theorem conclude_recorded (parts : List Rendition) {work : StudioJob V Bool}
    (tells : grounds.Tells dir folder kept number audio pre work) :
    Job.Ensures (grounds.Spares kept) (grounds.Careful {numbered folder number}) pre
      (Equipment.conclude (numberedFile dir number) parts work)
      (grounds.Recorded dir folder number audio) := by
  have without : ∀ studio, audio = none ∧ grounds.Open dir folder studio →
      grounds.Recorded dir folder number audio ⟨none, parts⟩ studio := by
    rintro studio ⟨rfl, isOpen⟩
    exact ⟨isOpen, nofun, fun _ => rfl⟩
  have stable := stable_recorded suits.toOffers own inside audio
  refine Job.ensures_bind _ tells ?_
  intro result
  rcases result with fault | _ | _
  · refine Job.ensures_step (fun _ studio => audio = none ∧ grounds.Open dir folder studio)
      (stable_lost suits own audio) ?_ fun _ => Job.ensures_done _ without (stable _)
    rintro studio ⟨silent, isOpen⟩
    have careful : grounds.Careful {numbered folder number} studio
        (studio.noting (.nodeDropped (numberedFile dir number) fault)) :=
      (idle_noting studio _).careful
    exact ⟨careful, silent, isOpen.careful suits careful⟩
  · exact Job.ensures_done _ without (stable _)
  · refine Job.ensures_done _ ?_ (stable _)
    rintro studio ⟨reading, rfl, made⟩
    refine ⟨made.toOpen, ?_, nofun⟩
    intro other equal
    cases equal
    exact ⟨rfl, made⟩

end Results

theorem RecordedAll.read {first last : Nat} {parts : List (Nat × Reading)}
    {renditions : List Rendition} {studio : Studio V}
    (recorded : grounds.RecordedAll dir folder first last parts renditions studio) :
    ((parts.map Prod.fst).map (numberedFile dir)).map studio.disk.read = parts.map Prod.snd := by
  rw [List.map_map, List.map_map]
  exact List.map_congr_left fun part listed => (recorded.heard part listed).2.read

theorem joined_several (equipment : Equipment V) {files : List Path} {target : Path}
    (several : 2 ≤ files.length) : equipment.joined files target = (do
      Equipment.attemptOnDisk (equipment.mixer.join files target)
      pure true) := by
  match files, several with
  | _ :: _ :: _, _ => rfl

theorem joined_tells (suits : grounds.Suits dir folder size) (own : folder ∈ kept)
    (inside : numbered folder number ∈ kept) {first last : Nat}
    (insideAll : numberedIn folder first last ⊆ kept) (bound : number < size)
    (boundAll : last ≤ size) (parts : List (Nat × Reading)) (renditions : List Rendition) :
    grounds.Tells dir folder kept number
      (grounds.equipment.merged grounds.craft dir number parts)
      (fun studio => grounds.RecordedAll dir folder first last parts renditions studio ∧
        grounds.Free dir folder number studio)
      (grounds.equipment.joined (renditions.filterMap (·.audio)) (numberedFile dir number)) := by
  have stable : Job.Stable (grounds.Spares kept) fun studio =>
      grounds.RecordedAll dir folder first last parts renditions studio ∧
        grounds.Free dir folder number studio :=
    fun _ _ spares holds => ⟨stable_recordedAll suits own insideAll parts renditions _ _ spares holds.1,
      stable_free suits.toOffers own inside _ _ spares holds.2⟩
  refine Job.ensures_of (fun _ holds => holds.1.files) fun files => ?_
  refine Job.ensures_of (fun _ holds part listed =>
    Nat.lt_of_lt_of_le (holds.1.heard part listed).1.2 boundAll) fun sources => ?_
  rw [files]
  match parts, sources with
  | [], _ =>
      refine StudioJob.ensures_pure false ?_ (stable_lost suits own _)
      exact fun studio holds => ⟨rfl, holds.2.toOpen⟩
  | [(source, only)], _ =>
      refine Fills.tells suits own inside (fills_onDisk suits own inside stable ?_)
      rintro studio ⟨recorded, free⟩
      have copied := free.housed.copy_produces free.free grounds.equipment.host
        (numberedFile dir source)
      rw [(recorded.heard _ List.mem_cons_self).2.read] at copied
      exact ⟨free.toOpen, copied⟩
  | one :: two :: rest, sources =>
      have several : 2 ≤ (one :: two :: rest).length := by simp
      generalize one :: two :: rest = parts at sources several stable ⊢
      rw [joined_several _ (by rw [List.length_map]; exact several),
        Equipment.merged_several _ _ _ _ several]
      refine Fills.tells suits own inside (fills_onDisk suits own inside stable ?_)
      rintro studio ⟨recorded, free⟩
      have joined := (free.toOpen.governs suits).joins (parts.map Prod.fst) number bound
        (by rw [List.length_map]; exact several) (by
          intro source listed
          obtain ⟨part, member, rfl⟩ := List.mem_map.mp listed
          exact sources part member) free.free
      rw [recorded.read, List.map_map] at joined
      exact ⟨free.toOpen, joined⟩

/-- The places of a room that a render with these numbers depends on. -/
def claimed (folder : Location) (first last : Nat) : Set Location :=
  {location | location = folder ∨ location ∈ numberedIn folder first last}

/-- A room in which the files with these numbers are yet to be made. -/
structure Ready (grounds : Grounds V) (dir : Path) (folder : Location) (first last : Nat)
    (studio : Studio V) : Prop extends grounds.Open dir folder studio where
  free : ∀ later, first ≤ later → later < last → studio.disk.entry? (numbered folder later) = none

section Claims

variable {first last lower upper : Nat}

theorem claimed_own (folder : Location) (first last : Nat) : folder ∈ claimed folder first last :=
  Or.inl rfl

theorem mem_claimed (low : first ≤ number) (high : number < last) :
    numbered folder number ∈ claimed folder first last :=
  Or.inr (Disk.numbered_mem_numberedIn_iff.mpr ⟨low, high⟩)

theorem claimed_mono (down : lower ≤ first) (up : last ≤ upper) :
    claimed folder first last ⊆ claimed folder lower upper := by
  intro location inside
  exact inside.imp_right fun numbered => Disk.numberedIn_mono down up numbered

theorem claimed_apart (suits : grounds.Suits dir folder size)
    (apart : last ≤ lower ∨ upper ≤ first) :
    claimed folder first last ⊆ grounds.rooms \ numberedIn folder lower upper := by
  rintro location (rfl | ⟨number, low, high, rfl⟩)
  · refine ⟨suits.inside (List.suffix_refl location), ?_⟩
    intro inside
    exact Disk.not_mem_below_self _ (Disk.numberedIn_subset_below _ _ _ inside)
  · refine ⟨numbered_mem_rooms suits number, ?_⟩
    intro inside
    obtain ⟨lowOther, highOther⟩ := Disk.numbered_mem_numberedIn_iff.mp inside
    omega

theorem Ready.at {studio : Studio V} (ready : grounds.Ready dir folder first last studio)
    (low : first ≤ number) (high : number < last) : grounds.Free dir folder number studio :=
  ⟨ready.toOpen, ready.free number low high⟩

theorem Ready.mono {studio : Studio V} (ready : grounds.Ready dir folder lower upper studio)
    (down : lower ≤ first) (up : last ≤ upper) : grounds.Ready dir folder first last studio :=
  ⟨ready.toOpen, fun later low high => ready.free later (by omega) (by omega)⟩

theorem careful_numberedIn {before after : Studio V} (low : first ≤ number) (high : number < last)
    (careful : grounds.Careful {numbered folder number} before after) :
    grounds.Careful (numberedIn folder first last) before after := by
  refine careful.mono ?_
  intro location single
  rw [show location = numbered folder number from single]
  exact Disk.numbered_mem_numberedIn_iff.mpr ⟨low, high⟩

end Claims

theorem Recorded.cons {first middle last : Nat} {audio : Option Reading} {rendition : Rendition}
    {parts : List (Nat × Reading)} {renditions : List Rendition} {studio : Studio V}
    (one : grounds.Recorded dir folder first audio rendition studio) (early : first < middle)
    (late : middle ≤ last)
    (rest : grounds.RecordedAll dir folder middle last parts renditions studio) :
    grounds.RecordedAll dir folder first last ((audio.map (first, ·)).toList ++ parts)
      (rendition :: renditions) studio := by
  have wide : ∀ part ∈ parts, (first ≤ part.1 ∧ part.1 < last) ∧
      grounds.Made dir folder part.1 part.2 studio := by
    intro part listed
    obtain ⟨⟨lower, upper⟩, made⟩ := rest.heard part listed
    exact ⟨⟨by omega, upper⟩, made⟩
  cases audio with
  | none =>
      refine ⟨one.toOpen, ?_, wide⟩
      rw [List.filterMap_cons_none (one.silent rfl)]
      exact rest.files
  | some reading =>
      obtain ⟨file, made⟩ := one.heard reading rfl
      refine ⟨one.toOpen, ?_, List.forall_mem_cons.mpr
        ⟨⟨⟨Nat.le_refl _, Nat.lt_of_lt_of_le early late⟩, made⟩, wide⟩⟩
      rw [List.filterMap_cons_some file, rest.files]
      rfl

section Trees

variable {last : Nat} (suits : grounds.Suits dir folder size)
include suits

theorem conclude_last (own : number < last) {audio : Option Reading} {pre : Studio V → Prop}
    (parts : List Rendition) {work : StudioJob V Bool}
    (tells : grounds.Tells dir folder (claimed folder number last) number audio pre work) :
    Job.Ensures (grounds.Spares (claimed folder number last))
      (grounds.Careful (numberedIn folder number last)) pre
      (Equipment.conclude (numberedFile dir number) parts work)
      (grounds.Recorded dir folder number audio) :=
  Job.Ensures.mono
    (conclude_recorded suits (claimed_own _ _ _) (mem_claimed (Nat.le_refl _) own) parts tells)
    (fun _ _ spares => spares) (fun _ _ careful => careful_numberedIn (Nat.le_refl _) own careful)
    (fun _ holds => holds) fun _ _ holds => holds

/-- While what is below a node is rendered, the file of the node is not made. -/
theorem below_first {α : Type} {job : Job (Studio V) α} {post : α → Studio V → Prop}
    (own : number < last)
    (ensures : Job.Ensures (grounds.Spares (claimed folder (number + 1) last))
      (grounds.Careful (numberedIn folder (number + 1) last))
      (grounds.Ready dir folder (number + 1) last) job post) :
    Job.Ensures (grounds.Spares (claimed folder number last))
      (grounds.Careful (numberedIn folder number last)) (grounds.Ready dir folder number last) job
      fun result studio => post result studio ∧ grounds.Free dir folder number studio := by
  have inside : numbered folder number ∈ claimed folder number last :=
    mem_claimed (Nat.le_refl _) own
  have framed := Job.ensures_frame ensures
    (fun _ _ spares => spares.mono (claimed_mono (Nat.le_succ number) (Nat.le_refl last)))
    (stable_free suits.toOffers (claimed_own _ _ _) inside)
    (by
      intro studio after careful free
      have apart : claimed folder number (number + 1) ⊆
          grounds.rooms \ numberedIn folder (number + 1) last :=
        claimed_apart suits (Or.inl (Nat.le_refl _))
      have spared := careful.toSpares.mono apart
      exact stable_free suits.toOffers (claimed_own _ _ _)
        (mem_claimed (Nat.le_refl _) (Nat.lt_succ_self _)) _ _ spared free)
  exact Job.Ensures.mono framed (fun _ _ spares => spares)
    (fun _ _ careful => careful.mono (Disk.numberedIn_mono (Nat.le_succ _) (Nat.le_refl _)))
    (fun _ ready => ⟨ready.mono (Nat.le_succ _) (Nat.le_refl _), ready.at (Nat.le_refl _) own⟩)
    fun _ _ holds => holds

mutual

/-- The job of a tree, amid others that leave its files alone. -/
theorem job_recorded (settled : grounds.Settled) (sideBySide : Bool) (node : Node) (number : Nat)
    (bound : number + node.size ≤ size) :
    Job.Ensures (grounds.Spares (claimed folder number (number + node.size)))
      (grounds.Careful (numberedIn folder number (number + node.size)))
      (grounds.Ready dir folder number (number + node.size))
      (grounds.equipment.job sideBySide (node.numberFrom dir number).1)
      (grounds.Recorded dir folder number (grounds.heard dir number node)) := by
  have own : number < number + node.size := Nat.lt_add_of_pos_right node.size_pos
  have claims : folder ∈ claimed folder number (number + node.size) := claimed_own _ _ _
  have inside : numbered folder number ∈ claimed folder number (number + node.size) :=
    mem_claimed (Nat.le_refl _) own
  have ownBound := Nat.lt_of_lt_of_le own bound
  have begins : ∀ studio : Studio V, grounds.Ready dir folder number (number + node.size) studio →
      grounds.Free dir folder number studio := fun _ ready => ready.at (Nat.le_refl _) own
  cases node with
  | speech speaker text target =>
      have spoken := fills_speech suits claims inside settled speaker text
      exact Job.Ensures.mono (conclude_last suits own [] (spoken.tells suits claims inside))
        (fun _ _ spares => spares) (fun _ _ careful => careful) begins fun _ _ holds => holds
  | effect id target =>
      have placed := fills_effect suits claims inside ownBound settled id
      exact Job.Ensures.mono (conclude_last suits own [] (placed.tells suits claims inside))
        (fun _ _ spares => spares) (fun _ _ careful => careful) begins fun _ _ holds => holds
  | group children target =>
      simp only [Node.size] at bound
      have inner := jobs_recorded settled sideBySide children (number + 1) (by omega)
      rw [Nat.add_assoc] at inner
      simp only [Node.numberFrom, Equipment.job]
      refine Job.ensures_bind _ (below_first suits own inner) ?_
      intro renditions
      have insideAll : numberedIn folder (number + 1) (number + (1 + Node.sizeAll children)) ⊆
          claimed folder number (number + (1 + Node.sizeAll children)) :=
        fun _ below => Or.inr (Disk.numberedIn_mono (Nat.le_succ _) (Nat.le_refl _) below)
      exact conclude_last suits own renditions (joined_tells suits claims inside insideAll ownBound
        bound (grounds.heardAll dir (number + 1) children) renditions)
  | filter id child target =>
      have proper : number + 1 < number + (1 + child.size) := by
        have positive := child.size_pos
        omega
      simp only [Node.size] at bound
      have inner := job_recorded settled sideBySide child (number + 1) (by omega)
      rw [Nat.add_assoc] at inner
      have insideSource : numbered folder (number + 1) ∈
          claimed folder number (number + (1 + child.size)) :=
        mem_claimed (Nat.le_succ _) proper
      simp only [Node.numberFrom, Equipment.job]
      refine Job.ensures_bind _ (below_first suits own inner) ?_
      intro rendition
      have stable := stable_recorded suits.toOffers claims inside
        (grounds.heard dir number (.filter id child target))
      cases heard : grounds.heard dir (number + 1) child with
      | none =>
          -- without audio below it a filter does nothing
          refine Job.ensures_of (fun _ holds => holds.1.silent rfl) fun silent => ?_
          rw [silent]
          refine Job.ensures_done _ ?_ (stable _)
          rintro studio ⟨recorded, -⟩
          refine ⟨recorded.toOpen, ?_, fun _ => rfl⟩
          intro reading audible
          simp [Grounds.heard, heard] at audible
      | some part =>
          refine Job.ensures_of (fun _ holds => (holds.1.heard part rfl).1) fun file => ?_
          rw [file]
          have filtered := fills_filtered suits settled claims inside insideSource ownBound
            (Nat.lt_of_lt_of_le proper bound) part id
          have same : grounds.heard dir number (.filter id child target) =
              grounds.equipment.strained grounds.craft grounds.start dir (number + 1) number id
                part := by
            simp [Grounds.heard, heard]
          rw [same]
          refine Job.Ensures.mono
            (conclude_last suits own [rendition] (filtered.tells suits claims inside))
            (fun _ _ spares => spares) (fun _ _ careful => careful) ?_ fun _ _ holds => holds
          rintro studio ⟨recorded, free⟩
          exact ⟨free, (recorded.heard part rfl).2⟩

theorem jobs_recorded (settled : grounds.Settled) (sideBySide : Bool) (nodes : List Node) (number : Nat)
    (bound : number + Node.sizeAll nodes ≤ size) :
    Job.Ensures (grounds.Spares (claimed folder number (number + Node.sizeAll nodes)))
      (grounds.Careful (numberedIn folder number (number + Node.sizeAll nodes)))
      (grounds.Ready dir folder number (number + Node.sizeAll nodes))
      (grounds.equipment.jobs sideBySide (Node.numberAllFrom dir number nodes).1)
      (grounds.RecordedAll dir folder number (number + Node.sizeAll nodes)
        (grounds.heardAll dir number nodes)) := by
  have stable := fun renditions => stable_recordedAll suits
    (claimed_own folder number (number + Node.sizeAll nodes)) (fun _ below => Or.inr below)
    (grounds.heardAll dir number nodes) renditions
  cases nodes with
  | nil =>
      refine Job.ensures_done _ ?_ (stable _)
      intro studio ready
      exact ⟨ready.toOpen, rfl, nofun⟩
  | cons node rest =>
      simp only [Node.sizeAll] at bound
      have one := job_recorded settled sideBySide node number (by omega)
      have others := jobs_recorded settled sideBySide rest (number + node.size) (by omega)
      have middle : number + node.size ≤ number + (node.size + Node.sizeAll rest) := by omega
      have ends : number + node.size + Node.sizeAll rest =
          number + (node.size + Node.sizeAll rest) := Nat.add_assoc _ _ _
      rw [ends] at others
      simp only [Node.numberAllFrom, Equipment.jobs, Node.numberFrom_snd, Node.sizeAll]
      refine Job.ensures_both (fun _ => ⟨Spares.refl _ _ _, rfl⟩) ?_ ?_ ?_ ?_ ?_ one others ?_
      · intro studio after spares
        exact ⟨spares.mono (claimed_mono (Nat.le_refl _) middle),
          spares.mono (claimed_mono (Nat.le_add_right _ _) (Nat.le_refl _))⟩
      · rintro studio after (careful | careful)
        · exact careful.mono (Disk.numberedIn_mono (Nat.le_refl _) middle)
        · exact careful.mono (Disk.numberedIn_mono (Nat.le_add_right _ _) (Nat.le_refl _))
      · intro studio after careful
        exact careful.toSpares.mono (claimed_apart suits (Or.inl (Nat.le_refl _)))
      · intro studio after careful
        exact careful.toSpares.mono (claimed_apart suits (Or.inr (Nat.le_refl _)))
      · intro studio ready
        exact ⟨ready.mono (Nat.le_refl _) middle, ready.mono (Nat.le_add_right _ _) (Nat.le_refl _)⟩
      · intro rendition renditions
        refine Job.ensures_done _ ?_ (stable _)
        rintro studio ⟨first, later⟩
        exact first.cons (Nat.lt_add_of_pos_right node.size_pos) middle later

end

end Trees

end Grounds

end SpokenMarkup
