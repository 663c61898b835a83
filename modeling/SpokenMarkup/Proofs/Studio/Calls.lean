import SpokenMarkup.Proofs.Studio.Booking

set_option autoImplicit false

namespace SpokenMarkup

open Disk (numbered)

theorem StudioJob.ensures_lift {V α : Type} {rely guar : Studio V → Studio V → Prop}
    {pre failed : Studio V → Prop} {job : Job (Studio V) α} {post : α → Studio V → Prop}
    (ensures : Job.Ensures rely guar pre job post)
    (stable : ∀ value, Job.Stable rely (post value)) :
    StudioJob.Ensures rely guar pre (liftM job : StudioJob V α) post failed :=
  Job.ensures_bind post ensures fun value =>
    Job.ensures_done (Except.ok value) (fun _ holds => holds) (stable value)

/-- Copying a file changes what is on the trail of the output only, and takes nothing away. -/
theorem copy_frame (host : Host) (input output : Path) (disk : Disk) :
    disk.AgreeOff (disk.trail output) (FileTask.copy host input output disk).2 ∧
      disk.Keeps ∅ (FileTask.copy host input output disk).2 := by
  have grows := disk.makeRoom_grows_trail output
  rw [FileTask.copy, task_bind]
  generalize FileTask.makeRoom output disk = ending at grows ⊢
  obtain ⟨result, made⟩ := ending
  cases result with
  | error fault => exact ⟨grows.agreeOff, grows.keeps⟩
  | ok value =>
      simp only [update_apply]
      rcases Disk.saves_copy host input output made with ⟨error, refused⟩ | saved
      · rw [refused]
        exact ⟨grows.agreeOff, grows.keeps⟩
      · refine ⟨grows.agreeOff.trans (saved.frame.mono ?_), grows.keeps.trans saved.keeps⟩
        intro location here
        rw [show location = made.place output from here, Disk.place_congr grows.home]
        exact Or.inr rfl

namespace Session

variable {V : Type}

def makeScratch (session : Session V) (number : Nat) : StudioTask V Unit := fun studio =>
  let (made, disk) := studio.disk.makeDirectories (session.scratchDir number)
  (made.mapError (Fault.scratchDirectory (session.scratchDir number)), { studio with disk })

theorem makeScratch_apply (session : Session V) (number : Nat) (studio : Studio V) :
    session.makeScratch number studio =
      ((studio.disk.makeDirectories (session.scratchDir number)).1.mapError
        (Fault.scratchDirectory (session.scratchDir number)),
        { studio with disk := (studio.disk.makeDirectories (session.scratchDir number)).2 }) := rfl

def openAs (session : Session V) (number : Nat) : StudioJob V Path := do
  Equipment.attempt (session.makeScratch number)
  pure (session.scratchDir number)

def perform (session : Session V) (scratch : Path) (markup : String) : StudioJob V Take := do
  let speaker := session.settings.defaultSpeaker
  let root := Node.ofMarkupIn scratch markup speaker
  modify (·.notingAll (compositionEvents markup speaker))
  modify (·.noting (.composed root.toList.length root.layout))
  let rendition ← session.equipment.job session.settings.parallel root
  modify (·.noting ((rendition.audio.map Event.renderFinished).getD .renderSilent))
  pure ⟨scratch, rendition.audio⟩

def recordAs (session : Session V) (markup : String) (number : Nat) : StudioJob V Take := do
  let scratch ← session.openAs number
  session.perform scratch markup

def recordIntoAs (session : Session V) (markup : String) (target : Path) (number : Nat) :
    StudioJob V (Option Path) := ExceptT.mk do
  match ← (session.recordAs markup number).run with
  | .error fault => pure (.error fault)
  | .ok take =>
    let published ← (session.publish take target).run
    modify (session.discard take)
    pure published

theorem record_run (session : Session V) (markup : String) :
    (session.record markup).run =
      .step (fun studio => ((), studio.noting (.renderStarted markup.length))) fun _ =>
        .step Studio.takeNumber fun number => (session.recordAs markup number).run := rfl

theorem discard_disk (session : Session V) (take : Take) (studio : Studio V) :
    (session.discard take studio).disk =
      (session.equipment.host.removeTree take.scratch studio.disk).2 := by
  unfold discard
  generalize session.equipment.host.removeTree take.scratch studio.disk = ending
  obtain ⟨_ | error, disk⟩ := ending
  · cases ‹OsError› <;> rfl
  · rfl

theorem discard_idle (session : Session V) (take : Take) (studio : Studio V) :
    (session.discard take studio).booth = studio.booth ∧
      (session.discard take studio).renders = studio.renders := by
  unfold discard
  generalize session.equipment.host.removeTree take.scratch studio.disk = ending
  obtain ⟨_ | error, disk⟩ := ending
  · cases ‹OsError› <;> exact ⟨rfl, rfl⟩
  · exact ⟨rfl, rfl⟩

/-- What comes of discarding a take whose directory is there. It goes with all that is in it, or the
system does not remove it: then it stays, with what is left of it, and that is noted. Nothing else is
changed. -/
def Discards (session : Session V) (take : Take) (folder : Location) (studio : Studio V) : Prop :=
  ∃ disk, Disk.Thinned folder studio.disk disk ∧
    match session.equipment.host.removing take.scratch with
    | none => session.discard take studio = { studio with disk } ∧
        ∀ location ∈ Disk.within folder, disk.entry? location = none
    | some refusal => session.discard take studio =
          Studio.noting { studio with disk } (.scratchLeft take.scratch refusal.error) ∧
        disk.entry? folder = some .directory

theorem discards_of_standing (session : Session V) {take : Take} {folder : Location}
    {studio : Studio V} (located : studio.disk.locate take.scratch = .ok folder)
    (standing : studio.disk.entry? folder = some .directory) (proper : folder ≠ []) :
    session.Discards take folder studio := by
  have removed := @Host.removeTree_eq _ _ _ session.equipment.host located standing
  have thinned := @Host.removeTree_thinned _ _ _ session.equipment.host located standing proper
  have stands := @Host.removeTree_standing _ _ _ session.equipment.host located standing proper
  have gone := @Host.removeTree_gone _ _ _ session.equipment.host located standing proper
  refine ⟨_, thinned, ?_⟩
  unfold discard
  generalize session.equipment.host.removeTree take.scratch studio.disk = ending
    at removed stands gone ⊢
  cases refused : session.equipment.host.removing take.scratch with
  | none =>
      rw [refused] at removed
      subst removed
      exact ⟨rfl, gone refused⟩
  | some refusal =>
      rw [refused] at removed stands
      subst removed
      refine ⟨?_, stands⟩
      obtain ⟨error, standing, spares, closed⟩ := refusal
      cases error <;> first | rfl | exact absurd rfl standing

theorem recordInto_run (session : Session V) (markup : String) (target : Path) :
    (session.recordInto markup target).run =
      .step (fun studio => ((), studio.noting (.renderStarted markup.length))) fun _ =>
        .step Studio.takeNumber fun number => (session.recordIntoAs markup target number).run := rfl

end Session

namespace Booking

variable {V : Type} {booking : Booking V} {studio after : Studio V} {limit number other : Nat}
  {markup : String}

theorem own_of_trails (isolated : booking.IsIsolated limit)
    (touched : ∀ location, studio.disk.entry? location ≠ after.disk.entry? location →
      location ∈ booking.trails ∨ location ∈ Disk.within (booking.folder number))
    (keeps : studio.disk.Keeps ∅ after.disk) (booths : after.booth = studio.booth)
    (renders : studio.renders = after.renders) : booking.Own number studio after := by
  refine ⟨⟨⟨keeps.home, ?_⟩, keeps.mono (Set.empty_subset _), ?_, ?_⟩, renders⟩
  · intro location outside
    by_contra changed
    rcases touched location changed with trail | room
    · exact outside (Or.inr trail)
    · exact outside (Or.inl (booking.room_subset_rooms number room))
  · intro reached
    rw [booths]
    exact reached
  · rintro location ⟨inside, outside⟩
    by_contra changed
    rcases touched location changed with trail | room
    · exact isolated.aside location trail inside
    · exact outside room

theorem makeScratch_ends (isolated : booking.IsIsolated limit) (last : Nat)
    (vacated : booking.Vacated number studio) :
    booking.Own number studio (booking.session.makeScratch number studio).2 ∧
      StudioJob.Ends
        (fun _ => booking.grounds.Ready (booking.dir number) (booking.folder number) 0 last)
        (booking.Vacated number) (booking.session.makeScratch number studio).1
        (booking.session.makeScratch number studio).2 := by
  have home := vacated.fine.admits.frame.home
  obtain ⟨grows, stands, fails⟩ := booking.session.makesRoom number studio.disk
  have here : booking.session.scratchDir number = booking.dir number := rfl
  have place : studio.disk.place (booking.dir number) = booking.folder number := by
    rw [Disk.place_congr home]
    exact booking.place_dir number
  rw [here, place] at grows stands
  rw [Disk.trail_congr home] at grows fails
  have trail : ∀ location ∈ Disk.within (booking.folder number),
      location ∉ booking.opening.disk.trail booking.session.settings.scratchDir :=
    fun location inside led => isolated.aside location (Or.inl led)
      (booking.room_subset_rooms number inside)
  rw [Session.makeScratch_apply, here]
  rw [here] at fails
  generalize studio.disk.makeDirectories (booking.dir number) = ending at grows stands fails ⊢
  obtain ⟨result, made⟩ := ending
  have own : booking.Own number studio { studio with disk := made } := by
    refine own_of_trails isolated ?_ grows.keeps rfl rfl
    intro location changed
    rcases grows.entry location with same | ⟨inside, -, -⟩
    · exact absurd same.symm changed
    · rcases inside with led | here
      · exact Or.inl (Or.inl led)
      · rw [show location = booking.folder number from here]
        exact Or.inr (List.suffix_refl _)
  refine ⟨own, ?_⟩
  have fine := own.toSpares.fine vacated.fine
  cases result with
  | error error =>
      refine ⟨fine, ?_⟩
      intro location inside
      rcases (fails nofun).entry location with same | ⟨led, -, -⟩
      · exact same.trans (vacated.nothing location inside)
      · exact absurd led (trail location inside)
  | ok value =>
      obtain ⟨located, standing⟩ := stands rfl
      refine ⟨⟨fine, ⟨located, standing⟩⟩, ?_⟩
      intro file _ _
      have below := Disk.numbered_mem_below (booking.folder number) file
      rcases grows.entry (numbered (booking.folder number) file) with same | ⟨inside, -, -⟩
      · exact same.trans (vacated.nothing _ below.1)
      · rcases inside with led | same
        · exact absurd led (trail _ below.1)
        · exact absurd same below.2

theorem stable_ready (isolated : booking.IsIsolated limit) (number last : Nat) :
    Job.Stable (booking.Others number)
      (booking.grounds.Ready (booking.dir number) (booking.folder number) 0 last) := by
  intro studio after spares ready
  refine ⟨Grounds.stable_open (isolated.offers number) (List.suffix_refl _) _ _ spares
    ready.toOpen, ?_⟩
  intro file low high
  rw [← spares.same _ (booking.numbered_mem_room number file)]
  exact ready.free file low high

theorem ensures_openAs (isolated : booking.IsIsolated limit) (number last : Nat) :
    StudioJob.Ensures (booking.Others number) (booking.Own number) (booking.Vacated number)
      (booking.session.openAs number)
      (fun scratch studio => scratch = booking.dir number ∧
        booking.grounds.Ready (booking.dir number) (booking.folder number) 0 last studio)
      (booking.Vacated number) := by
  have stable := stable_ready isolated number last
  have gone := booking.stable_vacated number
  refine StudioJob.ensures_bind _ gone (StudioJob.ensures_attempt gone (fun _ => stable) gone
    fun studio vacated => makeScratch_ends isolated last vacated) fun _ => ?_
  refine StudioJob.ensures_pure _ (fun _ ready => ⟨rfl, ready⟩) ?_
  intro studio after spares holds
  exact ⟨holds.1, stable _ _ spares holds.2⟩

theorem claimed_subset_room (booking : Booking V) (number last : Nat) :
    Grounds.claimed (booking.folder number) 0 last ⊆ Disk.within (booking.folder number) := by
  rintro location (rfl | inside)
  · exact List.suffix_refl _
  · exact (Disk.numberedIn_subset_below _ _ _ inside).1

/-- In the room that was made, rendering leaves a take and does not fail. -/
theorem ensures_perform (isolated : booking.IsIsolated limit) (counted : number < limit)
    {request : Request} (asked : booking.asked request) :
    StudioJob.Ensures (booking.Others number) (booking.Own number)
      (booking.grounds.Ready (booking.dir number) (booking.folder number) 0
        (booking.session.tree request.markup).size)
      (booking.session.perform (booking.dir number) request.markup)
      (booking.Kept number request.markup) (fun _ => False) := by
  have gone : Job.Stable (booking.Others number) fun _ => False := fun _ _ _ impossible => impossible
  have ready := stable_ready isolated number (booking.session.tree request.markup).size
  have rendered := Grounds.job_recorded (isolated.suits asked counted) isolated.settled
    booking.session.settings.parallel (booking.session.tree request.markup) 0
    (Nat.le_of_eq (Nat.zero_add _))
  rw [Nat.zero_add, ← Node.number_eq_numberFrom] at rendered
  have inRoom := booking.claimed_subset_room number (booking.session.tree request.markup).size
  have recorded := fun rendition => Grounds.stable_recorded (isolated.offers number)
    (List.suffix_refl (booking.folder number)) (booking.numbered_mem_room number 0)
    (booking.grounds.heard (booking.dir number) 0 (booking.session.tree request.markup)) rendition
  refine StudioJob.ensures_bind _ gone
    (Grounds.ensures_idle (fun _ => ⟨rfl, rfl, rfl⟩) ready) fun _ => ?_
  refine StudioJob.ensures_bind _ gone
    (Grounds.ensures_idle (fun _ => ⟨rfl, rfl, rfl⟩) ready) fun _ => ?_
  refine StudioJob.ensures_bind _ gone (StudioJob.ensures_lift ?_ recorded) fun rendition => ?_
  · exact Job.Ensures.mono rendered (fun _ _ spares => spares.mono inRoom)
      (fun _ _ careful => careful.mono fun _ inside => inRoom (Or.inr inside))
      (fun _ holds => holds) fun _ _ holds => holds
  · refine StudioJob.ensures_bind _ gone
      (Grounds.ensures_idle (fun _ => ⟨rfl, rfl, rfl⟩) (recorded rendition)) fun _ => ?_
    refine StudioJob.ensures_pure _ ?_ (stable_kept isolated.toIsPrepared number _ _)
    intro studio holds
    exact ⟨rfl, holds.toOpen, holds.heard, holds.silent⟩

theorem ensures_recordAs (isolated : booking.IsIsolated limit) (counted : number < limit)
    {request : Request} (asked : booking.asked request) :
    StudioJob.Ensures (booking.Others number) (booking.Own number) (booking.Vacated number)
      (booking.session.recordAs request.markup number) (booking.Kept number request.markup)
      (booking.Vacated number) := by
  have opens := ensures_openAs isolated number (booking.session.tree request.markup).size
  refine StudioJob.ensures_bind _ (booking.stable_vacated number) opens fun scratch => ?_
  refine Job.ensures_given fun same => ?_
  subst same
  refine Job.Ensures.mono (ensures_perform isolated counted asked) (fun _ _ spares => spares)
    (fun _ _ careful => careful) (fun _ ready => ready) ?_
  intro result studio ended
  cases result with
  | ok take => exact ended
  | error fault => exact ended.elim

/-- The take stays in its room while its audio is put into a file. -/
theorem ensures_publish (isolated : booking.IsIsolated limit) (number : Nat)
    {target : Path} (meant : ∃ request, booking.asked request ∧ target ∈ request.target)
    (take : Take) :
    StudioJob.Ensures (booking.Others number) (booking.Own number)
      (booking.Kept number markup take) (booking.session.publish take target)
      (fun _ => booking.Kept number markup take) (booking.Kept number markup take) := by
  have stable := stable_kept isolated.toIsPrepared number markup take
  unfold Session.publish
  cases take.artifact with
  | none => exact StudioJob.ensures_pure _ (fun _ kept => kept) stable
  | some artifact =>
      refine StudioJob.ensures_bind _ stable (StudioJob.ensures_attempt stable (fun _ => stable)
        stable ?_) fun _ => StudioJob.ensures_pure _ (fun _ kept => kept) stable
      intro studio kept
      have home := kept.recorded.fine.admits.frame.home
      obtain ⟨frame, keeps⟩ := copy_frame booking.session.equipment.host artifact target
        studio.disk
      rw [Disk.trail_congr home] at frame
      unfold Studio.onDisk
      generalize FileTask.copy _ artifact target studio.disk = ending at frame keeps ⊢
      obtain ⟨result, disk⟩ := ending
      have led : ∀ location, location ∈ booking.opening.disk.trail target →
          location ∈ booking.trails := by
        intro location inside
        obtain ⟨request, asked, named⟩ := meant
        exact Or.inr ⟨request, asked, target, named, inside⟩
      have own : booking.Own number studio { studio with disk } := by
        refine own_of_trails isolated ?_ keeps rfl rfl
        intro location changed
        by_contra elsewhere
        exact changed (frame.entry location fun inside => elsewhere (Or.inl (led location inside)))
      have spares : booking.Others number studio { studio with disk } := by
        refine ⟨own.frame, own.keeps, own.reached, ?_⟩
        intro location inside
        refine frame.entry location fun outside => ?_
        exact isolated.aside location (led location outside)
          (booking.room_subset_rooms number inside)
      refine ⟨own, ?_⟩
      have stays := stable _ _ spares kept
      cases result with
      | ok value => exact stays
      | error fault => exact stays

/-- A take that is discarded leaves what could not be removed of its room, and everything else as it
is. -/
theorem discard_ends {take : Take} (kept : booking.Kept number markup take studio) :
    booking.Own number studio (booking.session.discard take studio) ∧
      booking.Cleared number (booking.session.discard take studio) := by
  have disk := booking.session.discard_disk take studio
  obtain ⟨booth, renders⟩ := booking.session.discard_idle take studio
  obtain ⟨located, standing⟩ := kept.recorded.housed
  rw [kept.scratch] at disk
  generalize booking.session.discard take studio = after at disk booth renders ⊢
  have thinned := @Host.removeTree_thinned _ _ _ booking.session.equipment.host located standing
    (List.cons_ne_nil _ _)
  rw [← disk] at thinned
  have own : booking.Own number studio after :=
    Grounds.careful_of_agreeOff (fun _ inside => Or.inl inside) (booking.room_subset_rooms number)
      thinned.frame (fun reached => by rw [booth]; exact reached) renders.symm
  refine ⟨own, own.toSpares.fine kept.recorded.fine, ?_⟩
  intro removable
  rw [disk]
  exact Host.removeTree_gone located standing (List.cons_ne_nil _ _) removable

theorem ensures_recordIntoAs (isolated : booking.IsIsolated limit) (counted : number < limit)
    {request : Request} (asked : booking.asked request) {target : Path}
    (meant : target ∈ request.target) :
    Job.Ensures (booking.Others number) (booking.Own number) (booking.Vacated number)
      (booking.session.recordIntoAs request.markup target number).run
      fun _ => booking.Cleared number := by
  have gone := booking.stable_cleared number
  refine Job.ensures_bind _ (ensures_recordAs isolated counted asked) ?_
  intro result
  cases result with
  | error fault => exact Job.ensures_done _ (fun _ vacated => vacated.cleared) gone
  | ok take =>
      have stable := stable_kept isolated.toIsPrepared number request.markup take
      have published : Job.Ensures (booking.Others number) (booking.Own number)
          (booking.Kept number request.markup take) (booking.session.publish take target).run
          fun _ => booking.Kept number request.markup take := by
        refine Job.Ensures.mono (ensures_publish isolated number ⟨request, asked, meant⟩ take)
          (fun _ _ spares => spares) (fun _ _ careful => careful) (fun _ kept => kept) ?_
        intro result studio kept
        cases result with
        | ok value => exact kept
        | error fault => exact kept
      refine Job.ensures_bind _ published fun result => ?_
      exact Job.ensures_step (fun _ => booking.Cleared number) stable
        (fun studio kept => discard_ends kept) fun _ =>
          Job.ensures_done _ (fun _ cleared => cleared) gone

end Booking

namespace Request

variable {V : Type}

/-- The job of a call, which ends with the take that is kept, if there is one. -/
def job (session : Session V) (request : Request) : Job (Studio V) (Option Take) :=
  match request.target with
  | none => (session.record request.markup).run >>= fun result => pure result.toOption
  | some target => (session.recordInto request.markup target).run >>= fun _ => pure none

/-- What is left of a call once it has its number. -/
def jobAs (session : Session V) (request : Request) (number : Nat) :
    Job (Studio V) (Option Take) :=
  match request.target with
  | none => (session.recordAs request.markup number).run >>= fun result => pure result.toOption
  | some target =>
    (session.recordIntoAs request.markup target number).run >>= fun _ => pure none

theorem job_eq (session : Session V) (request : Request) : request.job session =
    .step (fun studio => ((), studio.noting (.renderStarted request.markup.length))) fun _ =>
      .step Studio.takeNumber fun number => request.jobAs session number := by
  obtain ⟨markup, target⟩ := request
  cases target with
  | none => rfl
  | some target => rfl

end Request

namespace Booking

variable {V : Type} {booking : Booking V} {limit number : Nat}

/-- What a call leaves in its room: the take that is kept, or nothing that could be removed. -/
def Leaves (booking : Booking V) (number : Nat) (markup : String) :
    Option Take → Studio V → Prop
  | none => booking.Cleared number
  | some take => booking.Kept number markup take

/-- A call amid others, from its number on. -/
theorem ensures_jobAs (isolated : booking.IsIsolated limit) (counted : number < limit)
    {request : Request} (asked : booking.asked request) :
    Job.Ensures (booking.Others number) (booking.Own number) (booking.Vacated number)
      (request.jobAs booking.session number) (booking.Leaves number request.markup) := by
  have gone := booking.stable_cleared number
  obtain ⟨markup, target⟩ := request
  cases target with
  | none =>
      refine Job.ensures_bind _ (ensures_recordAs isolated counted asked) ?_
      intro result
      cases result with
      | error fault => exact Job.ensures_done _ (fun _ vacated => vacated.cleared) gone
      | ok take =>
          exact Job.ensures_done _ (fun _ kept => kept)
            (stable_kept isolated.toIsPrepared number markup take)
  | some target =>
      refine Job.ensures_bind _ (ensures_recordIntoAs isolated counted asked rfl) ?_
      intro result
      exact Job.ensures_done _ (fun _ cleared => cleared) gone

end Booking

end SpokenMarkup
