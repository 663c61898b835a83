import Mathlib.Data.List.Nodup
import SpokenMarkup.Proofs.Studio.Orderly
import SpokenMarkup.Proofs.Studio.PlainBooking

set_option autoImplicit false

namespace SpokenMarkup

theorem StudioJob.Ensures.perform {V α : Type} {rely guar : Studio V → Studio V → Prop}
    {pre : Studio V → Prop} {job : StudioJob V α} {post : α → Studio V → Prop} {studio : Studio V}
    (ensures : StudioJob.Ensures rely guar pre job post fun _ => False) (start : pre studio) :
    ∃ value after, StudioJob.perform job studio = (.ok value, after) ∧ post value after := by
  have ended := Job.Ensures.run ensures studio start
  unfold StudioJob.perform
  generalize Job.run (ExceptT.run job) studio = ending at ended ⊢
  obtain ⟨result, after⟩ := ending
  cases result with
  | error fault => exact ended.elim
  | ok value => exact ⟨value, after, rfl, ended⟩

namespace Session

variable {V : Type} {session : Session V} {markup : String} {number : Nat} {studio : Studio V}

theorem makeScratch_ok
    (makes : (studio.disk.makeDirectories (session.scratchDir number)).1 = .ok ()) :
    (session.makeScratch number studio).1 = .ok () := by
  rw [makeScratch_apply, makes]
  rfl

theorem perform_recordAs (made : (session.makeScratch number studio).1 = .ok ()) :
    StudioJob.perform (session.recordAs markup number) studio =
      StudioJob.perform (session.perform (session.scratchDir number) markup)
        (session.makeScratch number studio).2 := by
  rw [recordAs, StudioJob.perform_bind, openAs, StudioJob.perform_bind, StudioJob.perform_attempt]
  generalize session.makeScratch number studio = ending at made ⊢
  obtain ⟨result, opened⟩ := ending
  obtain rfl : result = .ok () := made
  rfl

end Session

namespace Booking

variable {V : Type} {booking : Booking V} {limit number : Nat} {markup : String} {take : Take}
  {studio : Studio V}

/-- What is read of a take that is kept is what its markup comes to in its room. -/
theorem heard_of_kept {markup : String} (kept : booking.Kept number markup take studio) :
    take.artifact.map studio.disk.read =
      booking.grounds.heard (booking.dir number) 0 (booking.session.tree markup) := by
  cases audible : booking.grounds.heard (booking.dir number) 0 (booking.session.tree markup) with
  | none =>
      have silent : take.artifact = none := kept.recorded.silent audible
      rw [silent]
      rfl
  | some reading =>
      obtain ⟨file, made⟩ := kept.recorded.heard reading audible
      have artifact : take.artifact = some (numberedFile (booking.dir number) 0) := file
      have read := made.read
      -- the path stays closed
      generalize numberedFile (booking.dir number) 0 = path at artifact read
      rw [artifact, Option.map_some, read]

theorem sound_first (sound : Disk.IsSound (booking.dir number)) :
    Disk.IsSound (booking.dir 0) := by
  have proper := booking.session.proper_of_mark (booking.session.mark_front number)
  exact Disk.IsSound.rename sound proper.1 (booking.session.plain_roomName number)
    (booking.session.proper_of_mark (booking.session.mark_front 0))
    (booking.session.plain_roomName 0)
    (booking.session.not_mem_roomName 0 (by decide) (by decide) (by decide))
    (booking.session.size_roomName_zero_le number) proper.2

theorem makes_first (isolated : booking.IsIsolated limit) (fine : booking.grounds.Fine studio)
    (located : studio.disk.locate (booking.dir number) = .ok (booking.folder number)) :
    (booking.opening.disk.makeDirectories (booking.dir 0)).1 = .ok () := by
  obtain ⟨sound, standing, -⟩ := (Disk.locate_eq_ok _ _ _).mp located
  rw [Disk.way_congr fine.admits.frame.home] at standing
  refine Disk.makeDirectories_succeeds (sound_first sound) ?_ ?_
  · unfold Disk.origin
    split
    · rfl
    · exact isolated.home
  · rintro location (led | here)
    · have trail := (booking.mem_way_dir 0 location).mp led
      have now := standing location ((booking.mem_way_dir number location).mpr trail)
      have aside := isolated.aside location (Or.inl trail)
      cases before : booking.opening.disk.entry? location with
      | none => exact Or.inl before
      | some entry =>
          cases entry with
          | directory => exact Or.inr before
          | file content executable =>
              obtain ⟨_, _, still⟩ := fine.admits.keeps.files location aside ⟨_, _, before⟩
              rw [now] at still
              cases still
    · rw [here, booking.place_dir 0]
      exact Or.inl (isolated.vacant _ (booking.room_subset_rooms 0 (List.suffix_refl _)))

theorem perform_record (session : Session V) (markup : String) (studio : Studio V) :
    ∃ later : Studio V, later.disk = studio.disk ∧ later.booth = studio.booth ∧
      StudioJob.perform (session.record markup) studio =
        StudioJob.perform (session.recordAs markup studio.renders) later := by
  refine ⟨(studio.noting (.renderStarted markup.length)).takeNumber.2, rfl, rfl, ?_⟩
  rw [StudioJob.perform, Session.record_run, Job.run_step, Job.run_step]
  rfl

theorem makeScratch_ready (isolated : booking.IsIsolated limit) (last : Nat)
    (vacated : booking.Vacated number studio)
    (made : (booking.session.makeScratch number studio).1 = .ok ()) :
    booking.grounds.Ready (booking.dir number) (booking.folder number) 0 last
      (booking.session.makeScratch number studio).2 := by
  have both := makeScratch_ends isolated last vacated
  generalize booking.session.makeScratch number studio = ending at both made ⊢
  obtain ⟨result, after⟩ := ending
  obtain rfl : result = .ok () := made
  exact both.2

/-- In the next room a markup is rendered, if that room can be made. -/
theorem record_vacated (isolated : booking.IsIsolated limit) (counted : studio.renders < limit)
    {request : Request} (asked : booking.asked request)
    (vacated : booking.Vacated studio.renders studio)
    (makes : (studio.disk.makeDirectories (booking.dir studio.renders)).1 = .ok ()) :
    ∃ fresh after, StudioJob.perform (booking.session.record request.markup) studio =
        (.ok fresh, after) ∧ booking.Kept studio.renders request.markup fresh after := by
  obtain ⟨later, disk, booth, same⟩ := perform_record booking.session request.markup studio
  have still := booking.stable_vacated _ studio later (Grounds.spares_of_same disk booth) vacated
  rw [← disk] at makes
  have made := Session.makeScratch_ok makes
  have ready := makeScratch_ready isolated (booking.session.tree request.markup).size still made
  rw [same, Session.perform_recordAs made]
  exact (ensures_perform isolated counted asked).perform ready

/-- A session that has just begun renders a markup in its first room, if that can be made. -/
theorem record_opening (isolated : booking.IsIsolated limit) (counted : 0 < limit)
    {request : Request} (asked : booking.asked request)
    (makes : (booking.opening.disk.makeDirectories (booking.dir 0)).1 = .ok ()) :
    ∃ fresh after, StudioJob.perform (booking.session.record request.markup) booking.opening =
        (.ok fresh, after) ∧ booking.Kept 0 request.markup fresh after := by
  have fine : booking.grounds.Fine booking.opening :=
    ⟨⟨Disk.AgreeOff.refl _ _, Disk.Keeps.refl _ _⟩, .initial⟩
  have vacated : booking.Vacated 0 booking.opening :=
    ⟨fine, fun location inside => isolated.vacant location (booking.room_subset_rooms 0 inside)⟩
  rw [← isolated.begins] at counted makes vacated ⊢
  exact record_vacated isolated counted asked vacated makes

/-- A take that is kept at a desk: it is in the directory of the number that its call has taken, it is
what its markup comes to in a session that has just begun, and it can be discarded. -/
structure Intact (booking : Booking V) (desk : Desk V) (call : Call) (take : Take) : Prop where
  own : ∃ number, call.numbers = [number] ∧ take.scratch = booking.session.scratchDir number
  same : ∃ fresh after,
    StudioJob.perform (booking.session.record call.request.markup) booking.opening =
      (.ok fresh, after) ∧
    take.artifact.map desk.studio.disk.read = fresh.artifact.map after.disk.read
  discarded : ∃ folder, desk.studio.disk.locate take.scratch = .ok folder ∧
    desk.studio.disk.entry? folder = some .directory ∧
    booking.session.Discards take folder desk.studio

theorem intact_of_kept (isolated : booking.IsIsolated limit) (uniform : booking.IsUniform limit)
    {desk : Desk V} {call : Call} (counted : number < limit) (asked : booking.asked call.request)
    (numbered : call.numbers = [number])
    (kept : booking.Kept number call.request.markup take desk.studio) :
    booking.Intact desk call take := by
  have housed := kept.recorded.housed
  refine ⟨⟨number, numbered, kept.scratch⟩, ?_, ?_⟩
  · have positive : 0 < limit := Nat.lt_of_le_of_lt (Nat.zero_le number) counted
    obtain ⟨fresh, after, performed, first⟩ := record_opening isolated positive asked
      (makes_first isolated kept.recorded.fine housed.located)
    refine ⟨fresh, after, performed, ?_⟩
    rw [heard_of_kept kept, heard_of_kept first]
    exact Grounds.heard_alike (uniform _ asked number counted) _ 0 (Nat.le_of_eq (Nat.zero_add _))
  · have located : desk.studio.disk.locate take.scratch = .ok (booking.folder number) := by
      rw [kept.scratch]
      exact housed.located
    exact ⟨_, located, housed.standing,
      booking.session.discards_of_standing located housed.standing (List.cons_ne_nil _ _)⟩

theorem Orderly.asked_kept {desk : Desk V} (orderly : booking.Orderly limit desk)
    {pair : Call × Take} (member : pair ∈ desk.kept) : booking.asked pair.1.request :=
  orderly.asked _ (List.mem_append_right _ (orderly.listed.subset (List.mem_map_of_mem member)))

theorem scratches_eq (kept : List (Call × Take))
    (holding : ∀ pair ∈ kept, ∃ number, pair.1.numbers = [number] ∧
      pair.2.scratch = booking.dir number) :
    (kept.map fun pair => pair.2.scratch) =
      ((kept.map Prod.fst).flatMap Call.numbers).map booking.dir := by
  induction kept with
  | nil => rfl
  | cons pair rest ih =>
      obtain ⟨⟨number, own, scratch⟩, others⟩ := List.forall_mem_cons.mp holding
      rw [List.map_cons, List.map_cons, List.flatMap_cons, own, List.singleton_append,
        List.map_cons, ih others, scratch]

theorem dir_injective (booking : Booking V) : Function.Injective booking.dir := by
  intro first second same
  have relative := fun number => booking.session.relative_roomName number
  exact booking.session.roomName_injective
    (Disk.join_injective (relative first) (relative second) same)

theorem Orderly.scratches_distinct {desk : Desk V} (orderly : booking.Orderly limit desk) :
    (desk.kept.map fun pair => pair.2.scratch).Nodup := by
  have holding : ∀ pair ∈ desk.kept, ∃ number, pair.1.numbers = [number] ∧
      pair.2.scratch = booking.dir number := by
    intro pair listed
    obtain ⟨number, -, own, kept⟩ := orderly.holding pair listed
    exact ⟨number, own, kept.scratch⟩
  have distinct := orderly.holders_distinct.sublist
    ((List.sublist_append_right (desk.running.map Prod.fst) (desk.kept.map Prod.fst)).flatMap
      Call.numbers)
  rw [scratches_eq desk.kept holding]
  exact distinct.map booking.dir_injective

theorem Orderly.present_of_kept {desk : Desk V} (orderly : booking.Orderly limit desk) {name : String}
    (marked : booking.session.mark.toList <+: name.toList) {pair : Call × Take}
    (listed : pair ∈ desk.kept)
    (scratch : pair.2.scratch = booking.session.settings.scratchDir.join name) :
    desk.studio.disk.entry? (name :: booking.base) ≠ none := by
  obtain ⟨number, -, own, kept⟩ := orderly.holding pair listed
  have same : booking.session.roomName number = name :=
    Disk.join_injective (booking.session.relative_roomName number)
      (booking.session.relative_of_mark marked) (kept.scratch.symm.trans scratch)
  have standing : desk.studio.disk.entry? (name :: booking.base) = some .directory := by
    rw [← same]
    exact kept.recorded.housed.standing
  rw [standing]
  exact Option.some_ne_none _

/-- When no call is under way, what bears the mark of the session belongs to a take, or to a call
whose directory was not removed. -/
theorem Orderly.owner_of_present {desk : Desk V} (orderly : booking.Orderly limit desk)
    (idle : desk.running = []) {name : String}
    (marked : booking.session.mark.toList <+: name.toList)
    (there : desk.studio.disk.entry? (name :: booking.base) ≠ none) :
    (∃ pair ∈ desk.kept, pair.2.scratch = booking.session.settings.scratchDir.join name) ∨
      (∃ call ∈ desk.ended, ∃ number ∈ call.numbers,
        booking.session.scratchDir number = booking.session.settings.scratchDir.join name) ∧
      booking.session.equipment.host.removing
        (booking.session.settings.scratchDir.join name) ≠ none := by
  have named : ∀ number, name :: booking.base ∈ Disk.within (booking.folder number) →
      booking.session.scratchDir number = booking.session.settings.scratchDir.join name := by
    intro number here
    have same : booking.session.roomName number = name :=
      Disk.within_disjoint here (List.suffix_refl _)
    rw [← same]
    rfl
  rcases orderly.clear (name :: booking.base) ⟨name, marked, List.suffix_refl _⟩ there with
    ⟨call, member, number, mine, here⟩ | ⟨call, member, number, mine, here, refused⟩
  · rw [Desk.holders, idle, List.map_nil, List.nil_append] at member
    obtain ⟨pair, listed, rfl⟩ := List.mem_map.mp member
    obtain ⟨other, -, own, kept⟩ := orderly.holding pair listed
    rw [own, List.mem_singleton] at mine
    subst mine
    exact Or.inl ⟨pair, listed, kept.scratch.trans (named number here)⟩
  · rw [← named number here]
    exact Or.inr ⟨⟨call, member, number, mine, rfl⟩, refused⟩

end Booking

/--
Renders of one session are isolated, at every desk that it may come to: whatever calls were made,
whatever failed, and however the steps of overlapping calls were mixed. No number is taken twice; the
takes that are kept have different directories, and each of them is intact; and when no call is under
way, what bears the mark of the session is the directories of these takes, and those of earlier calls
that the system did not remove.
-/
theorem renders_isolated {V : Type} (booking : Booking V) (limit : Nat)
    (isolated : booking.IsIsolated limit) (uniform : booking.IsUniform limit) (desk : Desk V)
    (reached : Desk.Reached booking.session booking.asked booking.opening desk)
    (counted : desk.calls.length ≤ limit) :
    desk.numbers.Nodup ∧
      (desk.kept.map fun pair => pair.2.scratch).Nodup ∧
      (∀ pair ∈ desk.kept, booking.Intact desk pair.1 pair.2) ∧
      (desk.running = [] → ∀ name : String, booking.session.mark.toList <+: name.toList →
        let dir := booking.session.settings.scratchDir.join name
        (desk.studio.disk.entry? (name :: booking.base) ≠ none →
          (∃ pair ∈ desk.kept, pair.2.scratch = dir) ∨
            (∃ call ∈ desk.ended, ∃ number ∈ call.numbers,
              booking.session.scratchDir number = dir) ∧
            booking.session.equipment.host.removing dir ≠ none) ∧
        ∀ pair ∈ desk.kept, pair.2.scratch = dir →
          desk.studio.disk.entry? (name :: booking.base) ≠ none) := by
  have orderly := Booking.orderly_of_reached isolated reached counted
  refine ⟨orderly.distinct, orderly.scratches_distinct, ?_, ?_⟩
  · intro pair listed
    obtain ⟨number, bound, own, kept⟩ := orderly.holding pair listed
    exact Booking.intact_of_kept isolated uniform bound (orderly.asked_kept listed) own kept
  · intro idle name marked
    exact ⟨orderly.owner_of_present idle marked,
      fun pair listed scratch => orderly.present_of_kept marked listed scratch⟩

namespace Booking

variable {V : Type} {booking : Booking V} {limit number : Nat} {studio : Studio V}
  {request : Request}

/-- The directories on the way to the rooms are there from the start. -/
def IsLevel (booking : Booking V) : Prop :=
  ∀ location ∈ booking.opening.disk.trail booking.session.settings.scratchDir,
    booking.opening.disk.entry? location = some .directory

theorem makes_room (isolated : booking.IsIsolated limit) (level : booking.IsLevel)
    (sound : Disk.IsSound (booking.dir number)) (vacated : booking.Vacated number studio) :
    (studio.disk.makeDirectories (booking.dir number)).1 = .ok () := by
  have keeps := vacated.fine.admits.keeps
  have stays : ∀ location, booking.opening.disk.entry? location = some .directory →
      studio.disk.entry? location = some .directory := by
    intro location standing
    refine keeps.directories location (fun room => ?_) standing
    rw [isolated.vacant location room] at standing
    cases standing
  have home : studio.disk.home = booking.opening.disk.home := keeps.home.symm
  refine Disk.makeDirectories_succeeds sound ?_ ?_
  · unfold Disk.origin
    split
    · rfl
    · rw [home]
      exact stays _ isolated.home
  · rintro location (led | here)
    · rw [Disk.way_congr keeps.home] at led
      exact Or.inr (stays location (level location ((booking.mem_way_dir number location).mp led)))
    · rw [here, Disk.place_congr home.symm, booking.place_dir number]
      exact Or.inl (vacated.nothing _ (List.suffix_refl _))

theorem exists_kept (isolated : booking.IsIsolated (number + 1)) (level : booking.IsLevel)
    (sound : Disk.IsSound (booking.dir number)) (asked : booking.asked request)
    (untargeted : request.target = none) :
    ∃ studio call take kept ended,
      Desk.Reached booking.session booking.asked booking.opening
        ⟨studio, [], (call, take) :: kept, ended⟩ ∧
      ended.length = number + 1 ∧ call.request = request ∧
      booking.Kept number request.markup take studio := by
  obtain ⟨studio, kept, ended, reached, count⟩ :=
    Desk.reached_times booking.session booking.opening asked number
  have orderly := orderly_of_reached isolated reached (by simp [Desk.calls, count])
  have renders : studio.renders = number := (orderly.renders_idle rfl).trans count
  have vacated := orderly.vacated
  simp only [renders] at vacated
  have makes := makes_room isolated level sound vacated
  rw [← renders] at makes vacated
  obtain ⟨take, after, performed, held⟩ := record_vacated isolated
    (by rw [renders]; exact Nat.lt_succ_self number) asked vacated makes
  obtain ⟨numbers, later⟩ := reached.perform asked
  have ended : (request.job booking.session).run studio = (some take, after) := by
    have ran : (booking.session.record request.markup).run.run studio = (.ok take, after) :=
      performed
    rw [Request.job, untargeted]
    simp only [Job.run_bind, ran, Job.run_pure, Except.toOption]
  rw [ended] at later
  rw [renders] at held
  exact ⟨after, _, take, kept, _, later, by rw [List.length_cons, count], rfl, held⟩

/-- What is heard in a room that the system does not treat like the first one is not what the markup
comes to in a session that has just begun. -/
theorem exists_not_intact (isolated : booking.IsIsolated (number + 1)) (level : booking.IsLevel)
    (sound : Disk.IsSound (booking.dir number)) (asked : booking.asked request)
    (untargeted : request.target = none)
    (differs : booking.grounds.heard (booking.dir number) 0 (booking.session.tree request.markup) ≠
      booking.grounds.heard (booking.dir 0) 0 (booking.session.tree request.markup)) :
    ∃ desk, Desk.Reached booking.session booking.asked booking.opening desk ∧
      desk.calls.length = number + 1 ∧
      ∃ pair ∈ desk.kept, ¬booking.Intact desk pair.1 pair.2 := by
  obtain ⟨studio, call, take, kept, ended, reached, count, rfl, held⟩ :=
    exists_kept isolated level sound asked untargeted
  refine ⟨_, reached, count, (call, take), List.mem_cons_self, fun intact => ?_⟩
  obtain ⟨fresh, after, performed, same⟩ := intact.same
  obtain ⟨other, later, again, first⟩ := record_opening isolated (Nat.succ_pos number) asked
    (makes_first isolated held.recorded.fine held.recorded.housed.located)
  obtain ⟨rfl, rfl⟩ : fresh = other ∧ after = later := by
    simpa using performed.symm.trans again
  rw [heard_of_kept held, heard_of_kept first] at same
  exact differs same

/-- A room that is not removed stays when its take is discarded. -/
theorem exists_left (isolated : booking.IsIsolated (number + 1)) (level : booking.IsLevel)
    (sound : Disk.IsSound (booking.dir number)) (asked : booking.asked request)
    (untargeted : request.target = none)
    (refused : booking.session.equipment.host.removing (booking.dir number) ≠ none) :
    ∃ desk, Desk.Reached booking.session booking.asked booking.opening desk ∧
      desk.calls.length = number + 1 ∧ desk.running = [] ∧
      desk.studio.disk.entry? (booking.folder number) ≠ none ∧
      ∀ pair ∈ desk.kept, pair.2.scratch ≠ booking.dir number := by
  obtain ⟨studio, call, take, kept, ended, reached, count, rfl, held⟩ :=
    exists_kept isolated level sound asked untargeted
  have orderly := orderly_of_reached isolated reached (Nat.le_of_eq count)
  have move : Desk.Move booking.session booking.asked ⟨studio, [], [] ++ (call, take) :: kept, ended⟩
      ⟨booking.session.discard take studio, [], [] ++ kept, ended⟩ := .discard
  refine ⟨_, .moved reached move, count, rfl, ?_, ?_⟩
  · obtain ⟨located, standing⟩ := held.recorded.housed
    simp only [Session.discard_disk, held.scratch]
    rw [Host.removeTree_standing located standing (List.cons_ne_nil _ _), if_neg refused]
    exact Option.some_ne_none _
  · intro pair listed same
    have distinct := orderly.scratches_distinct
    rw [List.map_cons, List.nodup_cons] at distinct
    exact distinct.1 (List.mem_map.mpr ⟨pair, listed, same.trans held.scratch.symm⟩)

end Booking

namespace Plain

theorem annex_reached (sounds : Path) :
    ∃ first second, Desk.Reached (annexBooking sounds).session (annexBooking sounds).asked
      (annexBooking sounds).opening
      ⟨((chime.job (annexBooking sounds).session).run
          ((letter.job (annexBooking sounds).session).run (annexBooking sounds).opening).2).2, [],
        (((chime.job (annexBooking sounds).session).run
          ((letter.job (annexBooking sounds).session).run (annexBooking sounds).opening).2).1.map
            (⟨chime, second⟩, ·)).toList ++ [],
        [⟨chime, second⟩, ⟨letter, first⟩]⟩ := by
  have file : (annexBooking sounds).asked letter := List.mem_cons_self
  have take : (annexBooking sounds).asked chime := List.mem_cons_of_mem _ List.mem_cons_self
  generalize annexBooking sounds = booking at file take ⊢
  have starts : Desk.Reached booking.session booking.asked booking.opening _ := .opened
  obtain ⟨first, early⟩ := starts.performInto file
  obtain ⟨second, late⟩ := early.perform take
  exact ⟨first, second, late⟩

end Plain

theorem annex_isUniform (sounds : Path) : (Plain.annexBooking sounds).IsUniform 2 := by
  intro request _ number counted
  exact alikeIn_of_follows fun file _ =>
    (Plain.annexBooking sounds).fits_dir_iff (by omega) file

theorem renders_isolated_in_annex :
    let booking := Plain.annexBooking ⟨"/sounds"⟩
    ∃ desk, Desk.Reached booking.session booking.asked booking.opening desk ∧
      desk.calls.length = 2 ∧ desk.running = [] ∧ desk.numbers.Nodup ∧
      (desk.kept.map fun pair => pair.2.artifact) = [some ⟨"/scratch/render-1-0001/000.wav"⟩] ∧
      ∀ pair ∈ desk.kept, booking.Intact desk pair.1 pair.2 := by
  obtain ⟨first, second, reached⟩ := Plain.annex_reached ⟨"/sounds"⟩
  have isolated := renders_isolated (Plain.annexBooking ⟨"/sounds"⟩) 2 Plain.annex_isIsolated
    (annex_isUniform _) _ reached (Nat.le_refl _)
  refine ⟨_, reached, rfl, rfl, isolated.1, ?_, isolated.2.2.1⟩
  have take :
      let session := (Plain.annexBooking ⟨"/sounds"⟩).session
      let one := (Plain.letter.job session).run (Plain.annexBooking ⟨"/sounds"⟩).opening
      ((Plain.chime.job session).run one.2).1.toList.map (·.artifact) =
        [some ⟨"/scratch/render-1-0001/000.wav"⟩] := by
    decide +kernel
  dsimp only at take ⊢
  rw [← take, List.append_nil, Option.toList_map, List.map_map]
  rfl

namespace Plain

theorem camp_isLevel {count : Nat} {host : Host} (positive : 0 < count) :
    (camp count host).IsLevel := by
  intro location led
  have straight := straight_dotted annex positive
  have known : location = [] ∨ location = annex.home :=
    led.elim (straight.direct location) fun here => Or.inr (here.trans straight.arrives)
  rcases known with rfl | rfl
  · rfl
  · rfl

end Plain

/-- A folder that is made for one call lets a later one find a sound that it would not have found
without it. -/
theorem exists_changed_by_new_folder :
    let booking := Plain.annexBooking ⟨"/new/../sounds"⟩
    booking.IsPrepared 2 ∧ booking.IsUniform 2 ∧
      (∀ target ∈ Plain.letter.target, booking.opening.disk.place target = ["o.wav", "new"]) ∧
      booking.opening.disk.place ⟨"/new/../sounds"⟩ = ["sounds"] ∧
      ∃ desk, Desk.Reached booking.session booking.asked booking.opening desk ∧
        desk.calls.length = 2 ∧ ∃ pair ∈ desk.kept, ¬booking.Intact desk pair.1 pair.2 := by
  obtain ⟨first, second, reached⟩ := Plain.annex_reached ⟨"/new/../sounds"⟩
  refine ⟨Plain.annex_isPrepared _, annex_isUniform _, by decide, by decide, _, reached, rfl, ?_⟩
  have late :
      let session := (Plain.annexBooking ⟨"/new/../sounds"⟩).session
      let one := (Plain.letter.job session).run (Plain.annexBooking ⟨"/new/../sounds"⟩).opening
      let two := (Plain.chime.job session).run one.2
      ∃ take, two.1 = some take ∧
        take.artifact.map two.2.disk.read = some (.ok "<a:hi>ding".toUTF8) :=
    ⟨⟨⟨"/scratch/render-1-0001"⟩, some ⟨"/scratch/render-1-0001/000.wav"⟩⟩, by decide +kernel⟩
  have early :
      let booking := Plain.annexBooking ⟨"/new/../sounds"⟩
      let ending := StudioJob.perform (booking.session.record Plain.chime.markup) booking.opening
      ending.1.toOption.map (fun take => take.artifact.map ending.2.disk.read) =
        some (some (.ok "<a:hi>".toUTF8)) := by
    decide +kernel
  have same := fun desk take
    (intact : (Plain.annexBooking ⟨"/new/../sounds"⟩).Intact desk ⟨Plain.chime, second⟩ take) =>
      intact.same
  dsimp only at late early same ⊢
  -- both runs stay closed from here on
  generalize StudioJob.perform _ _ = ending at early same
  generalize (Plain.chime.job _).run ((Plain.letter.job _).run _).2 = two at late ⊢
  obtain ⟨take, ended, heard⟩ := late
  refine ⟨(⟨Plain.chime, second⟩, take), ?_, ?_⟩
  · rw [ended]
    exact List.mem_cons_self
  · intro intact
    obtain ⟨fresh, after, rfl, equal⟩ := same _ _ intact
    have different := equal.trans (Option.some.inj early)
    rw [heard] at different
    exact absurd different (by decide)

/--
Isolation takes all that is asked for. Without it, (a) the path of a file of room 10000 is too long,
though that of the first room is not; (b) the disk is full when a file of the second room is written;
(c) a directory stays, since the system does not remove it; (d) a folder that is made for one call lets
a later one find a sound.
-/
theorem renders_not_isolated :
    (let booking := Plain.camp 2037 {};
      booking.IsIsolated 10001 ∧
        ∃ desk, Desk.Reached booking.session booking.asked booking.opening desk ∧
          desk.calls.length = 10001 ∧ ∃ pair ∈ desk.kept, ¬booking.Intact desk pair.1 pair.2) ∧
    (let booking := Plain.camp 1 (Plain.fullAt ⟨"./render-1-0001/001.wav"⟩);
      booking.IsIsolated 2 ∧
        ∃ desk, Desk.Reached booking.session booking.asked booking.opening desk ∧
          desk.calls.length = 2 ∧ ∃ pair ∈ desk.kept, ¬booking.Intact desk pair.1 pair.2) ∧
    (let booking := Plain.camp 1 Plain.locked;
      booking.IsIsolated 1 ∧ booking.IsUniform 1 ∧
        ∃ desk, Desk.Reached booking.session booking.asked booking.opening desk ∧
          desk.calls.length = 1 ∧ desk.running = [] ∧
          desk.studio.disk.entry? (booking.folder 0) ≠ none ∧
          ∀ pair ∈ desk.kept, pair.2.scratch ≠ booking.dir 0) ∧
    (let booking := Plain.annexBooking ⟨"/new/../sounds"⟩;
      booking.IsPrepared 2 ∧ booking.IsUniform 2 ∧
        (∀ target ∈ Plain.letter.target, booking.opening.disk.place target = ["o.wav", "new"]) ∧
        booking.opening.disk.place ⟨"/new/../sounds"⟩ = ["sounds"] ∧
        ∃ desk, Desk.Reached booking.session booking.asked booking.opening desk ∧
          desk.calls.length = 2 ∧ ∃ pair ∈ desk.kept, ¬booking.Intact desk pair.1 pair.2) := by
  have asked : ∀ count host, (Plain.camp count host).asked Plain.word :=
    fun _ _ => List.mem_singleton_self _
  have five : (Nat.toDigits 10 10000).length = 5 := by decide +kernel
  refine ⟨⟨Plain.camp_isIsolated (by decide) _, ?_⟩, ⟨Plain.camp_isIsolated (by decide) _, ?_⟩,
    ⟨Plain.camp_isIsolated (by decide) _, ?_, ?_⟩, exists_changed_by_new_folder⟩
  · refine Booking.exists_not_intact (Plain.camp_isIsolated (by decide) _)
      (Plain.camp_isLevel (by decide)) (Plain.sound_camp (by decide) ?_ ?_) (asked _ _) rfl
      (Plain.heard_word_of_long (by decide) (by decide) ?_) <;> rw [five] <;> decide
  · exact Booking.exists_not_intact (Plain.camp_isIsolated (by decide) _)
      (Plain.camp_isLevel (by decide)) (Plain.sound_camp (by decide) (by decide) (by decide))
      (asked _ _) rfl Plain.heard_word_of_full
  · intro request _ number counted
    obtain rfl : number = 0 := by omega
    exact ⟨fun _ _ => Iff.rfl, fun _ _ _ => Iff.rfl, fun _ _ _ _ _ => Iff.rfl,
      fun _ _ _ _ => Iff.rfl⟩
  · exact Booking.exists_left (Plain.camp_isIsolated (by decide) _)
      (Plain.camp_isLevel (by decide)) (Plain.sound_camp (by decide) (by decide) (by decide))
      (asked _ _) rfl nofun

end SpokenMarkup
