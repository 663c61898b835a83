import SpokenMarkup.Proofs.Studio.Leftovers

set_option autoImplicit false

namespace SpokenMarkup

open Disk (numbered numberedIn)

/-- What a call answers: the file that it names, if any, with what can be read there when the call
returns. -/
abbrev Answer := Except Fault (Option (Path × Reading))

namespace Request

variable {V : Type}

def call (session : Session V) (request : Request) : Job (Studio V) (Except Fault (Option Path)) :=
  match request.target with
  | none => (session.record request.markup).run >>= fun result => .done (result.map (·.artifact))
  | some target => (session.recordInto request.markup target).run

/-- The call, and a look at the file that it names. -/
def answer (session : Session V) (request : Request) : Job (Studio V) Answer :=
  request.call session >>= fun result =>
    .step (fun studio => (result.map (·.map fun path => (path, studio.disk.read path)), studio)) .done

end Request

/-- Answers of a session to calls that are made one after the other. -/
inductive Session.Answers {V : Type} (session : Session V) :
    Studio V → List Request → List Answer → Prop
  | nil (studio : Studio V) : Answers session studio [] []
  | cons {studio after : Studio V} {request : Request} {requests : List Request} {answer : Answer}
    {answers : List Answer}
    (called : Job.Steps (request.answer session) studio (.done answer) after)
    (later : Answers session after requests answers) :
    Answers session studio (request :: requests) (answer :: answers)

namespace Session

variable {V : Type} {session : Session V} {base : Location} {number later : Nat}

def places (session : Session V) (base : Location) (number : Nat) : Set Location :=
  {location | ∃ later, number ≤ later ∧ (location = session.roomName later :: base ∨
    ∃ file, location = numbered (session.roomName later :: base) file)}

theorem places_subset_below (session : Session V) (base : Location) (number : Nat) :
    session.places base number ⊆ Disk.below base := by
  rintro location ⟨later, -, rfl | ⟨file, rfl⟩⟩
  · exact Disk.cons_mem_below _ _
  · refine ⟨(List.suffix_cons _ _).trans (List.suffix_cons _ _), ?_⟩
    intro same
    have lengths := congrArg List.length same
    simp only [numbered, List.length_cons] at lengths
    omega

theorem places_mono (early : number ≤ later) :
    session.places base later ⊆ session.places base number := by
  rintro location ⟨last, bound, place⟩
  exact ⟨last, Nat.le_trans early bound, place⟩

theorem places_apart {location : Location} (inside : location ∈ session.places base (number + 1)) :
    location ∉ Disk.within (session.roomName number :: base) := by
  obtain ⟨later, bound, place⟩ := inside
  intro here
  have there : location ∈ Disk.within (session.roomName later :: base) := by
    rcases place with rfl | ⟨file, rfl⟩
    · exact List.suffix_refl _
    · exact List.suffix_cons _ _
  have same := session.roomName_injective (Disk.within_disjoint here there)
  omega

end Session

section Calls

variable {V : Type} {session : Session V} {home base : Location} {number : Nat}
  {lost free : Set Location} {first second : Studio V} {markup : String}

/-- Wherever paths start as here, this one does not pass anything below the directory. -/
def Shuns (home base : Location) (path : Path) : Prop :=
  ∀ disk : Disk, disk.home = home → disk.Sees (Disk.below base) path

theorem Twins.sees (twins : Twins home base number lost free first second) {path : Path}
    (shuns : Shuns home base path) : first.disk.Sees lost path :=
  fun location led inside => shuns first.disk twins.home location led (twins.inside inside)

/-- Twins before the call with this number. -/
def AtCall (session : Session V) (home base : Location) (number : Nat)
    (first second : Studio V) : Prop :=
  ∃ lost free, Twins home base number lost free first second ∧ session.places base number ⊆ free

def WithNumber (session : Session V) (home base : Location) (number : Nat)
    (first second : Studio V) : Prop :=
  ∃ lost free, Twins home base (number + 1) lost free first second ∧
    session.places base number ⊆ free

def InRoom (session : Session V) (home base : Location) (number : Nat)
    (first second : Studio V) : Prop :=
  ∃ lost free, TwinRooms home base (number + 1) (session.scratchDir number)
      (session.roomName number :: base) lost free first second ∧
    session.roomName number :: base ∉ lost ∧ session.places base (number + 1) ⊆ free ∧
    ∀ file, numbered (session.roomName number :: base) file ∈ free

/-- Twins after the call has its take: the audio of the take is not lost. -/
def WithTake (session : Session V) (home base : Location) (number : Nat) (take : Take)
    (first second : Studio V) : Prop :=
  take.scratch = session.scratchDir number ∧ ∃ lost free,
    TwinRooms home base (number + 1) (session.scratchDir number)
      (session.roomName number :: base) lost free first second ∧
    session.roomName number :: base ∉ lost ∧ session.places base (number + 1) ⊆ free ∧
    ∀ artifact ∈ take.artifact, artifact = numberedFile (session.scratchDir number) 0 ∧
      numbered (session.roomName number :: base) 0 ∉ lost

/-- The scratch directory is where the leftovers are. -/
structure Scratches (session : Session V) (home base : Location) : Prop where
  leads : ∀ disk : Disk, disk.home = home → disk.place session.settings.scratchDir = base
  shuns : Shuns home base session.settings.scratchDir

theorem Session.room_mem_places (session : Session V) (base : Location) (number : Nat) :
    session.roomName number :: base ∈ session.places base number :=
  ⟨number, Nat.le_refl _, Or.inl rfl⟩

theorem Session.file_mem_places (session : Session V) (base : Location) (number file : Nat) :
    numbered (session.roomName number :: base) file ∈ session.places base number :=
  ⟨number, Nat.le_refl _, Or.inr ⟨file, rfl⟩⟩

section Making

variable {disk : Disk} {ending : Except OsError Unit × Disk}

theorem Scratches.elsewhere (scratches : Scratches session home base) (starts : disk.home = home)
    (makes : session.MakesRoom number disk ending) {location : Location}
    (inside : location ∈ Disk.below base) (other : location ≠ session.roomName number :: base) :
    Disk.entry? ending.2 location = disk.entry? location := by
  rcases makes.grows.entry location with same | ⟨led | here, -, -⟩
  · exact same
  · exact absurd inside (scratches.shuns disk starts location led)
  · rw [Session.place_scratchDir, scratches.leads disk starts] at here
    exact absurd here other

theorem Scratches.housed (scratches : Scratches session home base) (starts : disk.home = home)
    (makes : session.MakesRoom number disk ending) (done : ending.1 = .ok ()) :
    Housed (session.scratchDir number) (session.roomName number :: base) ending.2 := by
  obtain ⟨located, standing⟩ := makes.stands done
  rw [Session.place_scratchDir, scratches.leads disk starts] at located standing
  exact ⟨located, standing⟩

end Making

theorem Twins.makeScratch (scratches : Scratches session home base) {count : Nat}
    (twins : Twins home base count lost free first second)
    (room : session.roomName number :: base ∈ free) :
    (session.makeScratch number first).1 = (session.makeScratch number second).1 ∧
      Twins home base count lost (free \ {session.roomName number :: base})
        (session.makeScratch number first).2 (session.makeScratch number second).2 ∧
      ((session.makeScratch number first).1 = .ok () →
        TwinRooms home base count (session.scratchDir number) (session.roomName number :: base)
          (lost \ {session.roomName number :: base}) (free \ {session.roomName number :: base})
          (session.makeScratch number first).2 (session.makeScratch number second).2) := by
  have proper := session.proper_of_mark (session.mark_front number)
  have plain := session.plain_roomName number
  have spare := twins.spare _ room
  simp only [Disk.Spare, List.tail_cons, if_true] at spare
  have made := Disk.makeDirectories_room proper plain twins.agree (twins.sees scratches.shuns)
    (by rw [scratches.leads _ twins.home]; exact twins.doubtful room) (by
      rw [scratches.leads _ twins.home]
      intro disk member
      rcases List.mem_pair.mp member with rfl | rfl
      · exact spare.1
      · exact spare.2)
  rw [← session.scratchDir_eq] at made
  have startsToo : second.disk.home = home := twins.agree.home.symm.trans twins.home
  have makes := session.makesRoom number first.disk
  have makesToo := session.makesRoom number second.disk
  rw [Session.makeScratch_apply, Session.makeScratch_apply]
  generalize first.disk.makeDirectories (session.scratchDir number) = one,
    second.disk.makeDirectories (session.scratchDir number) = two at made makes makesToo ⊢
  -- on each disk for itself: nothing that is free is made but the room
  have still : ∀ location ∈ free \ {session.roomName number :: base}, location ∈ free ∧
      Disk.entry? one.2 location = first.disk.entry? location ∧
      Disk.entry? two.2 location = second.disk.entry? location := by
    rintro location ⟨isFree, other⟩
    have inside := twins.inside (twins.doubtful isFree)
    exact ⟨isFree, scratches.elsewhere twins.home makes inside other,
      scratches.elsewhere startsToo makesToo inside other⟩
  have housed := scratches.housed twins.home makes
  have housedToo := scratches.housed startsToo makesToo
  obtain ⟨result, one⟩ := one
  obtain ⟨resultToo, two⟩ := two
  obtain ⟨rfl, agree⟩ := made
  refine ⟨rfl, twins.onDisks makes.grows.home agree (subset_refl _)
    (Set.sdiff_subset.trans twins.doubtful) still, ?_⟩
  intro done
  have ok : result = .ok () := by
    cases result with
    | ok value => rfl
    | error error => cases done
  have room := housed ok
  have roomToo := housedToo ok
  refine ⟨twins.onDisks makes.grows.home ⟨agree.home, ?_⟩ Set.sdiff_subset
    (Set.sdiff_subset_sdiff_left twins.doubtful) still, room, roomToo⟩
  intro location outside
  by_cases here : location = session.roomName number :: base
  · rw [here]
    exact room.standing.trans roomToo.standing.symm
  · exact agree.entry location fun inside => outside ⟨inside, here⟩

theorem carries_openAs (scratches : Scratches session home base) :
    Job.Carries (WithNumber session home base number) (session.openAs number).run
      fun result first => StudioJob.Ends
        (fun scratch second => scratch = session.scratchDir number ∧
          InRoom session home base number first second)
        (AtCall session home base (number + 1) first) result := by
  have fewer : ∀ {free : Set Location}, session.places base number ⊆ free →
      session.places base (number + 1) ⊆ free \ {session.roomName number :: base} := by
    intro free open_ location inside
    refine ⟨open_ (Session.places_mono (Nat.le_succ _) inside), ?_⟩
    rintro rfl
    exact Session.places_apart inside (List.suffix_refl _)
  refine @Job.carries_step _ _ _ _ _ _ (fun result first => StudioJob.Ends
    (fun _ => InRoom session home base number first)
    (AtCall session home base (number + 1) first) result) _ ?_ ?_
  · rintro first second ⟨lost, free, twins, open_⟩
    obtain ⟨same, still, roomed⟩ :=
      twins.makeScratch scratches (open_ (session.room_mem_places base number))
    generalize session.makeScratch number first = one, session.makeScratch number second = two
      at same still roomed ⊢
    obtain ⟨result, one⟩ := one
    obtain ⟨resultToo, two⟩ := two
    obtain rfl : result = resultToo := same
    refine ⟨rfl, ?_⟩
    cases result with
    | error fault => exact ⟨_, _, still, fewer open_⟩
    | ok value =>
        refine ⟨_, _, roomed rfl, fun inside => inside.2 rfl, fewer open_, ?_⟩
        intro file
        refine ⟨open_ (session.file_mem_places base number file), ?_⟩
        exact fun same => (Disk.numbered_mem_below _ file).2 same
  · intro result
    cases result with
    | error fault => exact Job.carries_done fun _ _ holds => holds
    | ok value => exact Job.carries_done fun _ _ holds => ⟨rfl, holds⟩

/-- Rendering in a room is in lockstep. Its audio, if there is any, is won back. -/
theorem perform_locked {happened : Studio V → Studio V → Prop} {dir : Path} {folder : Location}
    {count : Nat}
    (writes : session.equipment.WritesOutputs)
    (impartial : session.equipment.Impartial home base) (apart : folder ≠ base) (markup : String) :
    Locked happened (TwinRooms home base count dir folder) ∅
      (numberedIn folder 0 (session.tree markup).size) (session.perform dir markup)
      fun take => audioPlaces dir folder [⟨take.artifact, []⟩] := by
  refine (locked_idle fun _ => ⟨_, rfl⟩).after fun _ => ?_
  refine (locked_noting _).after fun _ => ?_
  have rendered : Job.Lockstep happened (TwinRooms home base count dir folder) ∅ _ _ _ _ :=
    job_locked writes impartial apart session.settings.parallel (session.tree markup) 0
  rw [Nat.zero_add, ← Node.number_eq_numberFrom] at rendered
  have lifted : Locked happened (TwinRooms home base count dir folder) ∅
      (numberedIn folder 0 (session.tree markup).size)
      (liftM (session.equipment.job session.settings.parallel
        ((session.tree markup).number dir 0)) : StudioJob V Rendition)
      fun rendition => audioPlaces dir folder [rendition] := by
    refine Job.Lockstep.bind rendered (fun rendition _ => .done trivial ?_)
      (fun _ inside => absurd inside (Set.notMem_empty _)) (subset_refl _) (Set.empty_subset _)
    rintro location ⟨_, ⟨⟩, inside⟩
    exact Or.inr inside
  refine Locked.before lifted fun rendition => ?_
  refine (locked_noting _).after fun _ => locked_pure ?_
  exact Set.subset_union_right

/-- The job that renders the markup of a call does so in both, and does not fail. -/
theorem carries_perform (writes : session.equipment.WritesOutputs)
    (impartial : session.equipment.Impartial home base) (markup : String) :
    Job.Carries (InRoom session home base number)
      (session.perform (session.scratchDir number) markup).run fun result first second =>
        ∃ take, result = .ok take ∧ WithTake session home base number take first second := by
  rintro first second ⟨lost, free, twins, kept, open_, files⟩ result after steps
  have apart : session.roomName number :: base ≠ base := List.cons_ne_self _ _
  have locked : Locked (fun _ _ => True)
      (TwinRooms home base (number + 1) (session.scratchDir number) _) ∅ _ _ _ :=
    perform_locked writes impartial apart markup
  obtain ⟨lostAfter, freeAfter, other, stepsToo, twinsAfter, -, won, fewer, spared⟩ :=
    locked.steps steps (fun _ _ _ => trivial)
      (fun _ impossible => absurd impossible (Set.notMem_empty _)) (by
      rintro location ⟨file, -, -, rfl⟩
      exact files file) twins
  obtain ⟨take, rfl, scratch, named⟩ :=
    ((perform_made session (session.scratchDir number) markup).amid
      (Job.steps_iff_amid.mp steps)).result
  refine ⟨other, stepsToo, take, rfl, scratch, lostAfter, freeAfter, twinsAfter,
    fun inside => kept (fewer inside), ?_, ?_⟩
  · intro location inside
    refine spared ⟨open_ inside, fun own => ?_⟩
    exact Session.places_apart inside (Disk.numberedIn_subset_below _ _ _ own).1
  · intro artifact audible
    refine ⟨named artifact audible, won _ ⟨take, rfl, 0, ?_, rfl⟩⟩
    have here : take.artifact = some (numberedFile (session.scratchDir number) 0) := by
      rw [show take.artifact = some artifact from audible, named artifact audible]
    simp [here]

/-- Twins before the call clears its room. -/
def BeforeClearing (session : Session V) (home base : Location) (number : Nat)
    (first second : Studio V) : Prop :=
  ∃ lost free, TwinRooms home base (number + 1) (session.scratchDir number)
      (session.roomName number :: base) lost free first second ∧
    session.places base (number + 1) ⊆ free

theorem WithTake.sees (scratches : Scratches session home base) {take : Take}
    (taken : WithTake session home base number take first second) :
    ∃ lost free, TwinRooms home base (number + 1) (session.scratchDir number)
        (session.roomName number :: base) lost free first second ∧
      session.places base (number + 1) ⊆ free ∧
      ∀ artifact ∈ take.artifact, first.disk.Sees lost artifact := by
  obtain ⟨-, lost, free, twins, kept, open_, named⟩ := taken
  refine ⟨lost, free, twins, open_, ?_⟩
  intro artifact audible
  obtain ⟨rfl, won⟩ := named artifact audible
  have leads := scratches.leads _ twins.home
  have room : first.disk.Sees lost (session.scratchDir number) :=
    (twins.sees scratches.shuns).join (session.proper_of_mark (session.mark_front number))
      (session.plain_roomName number) (by rw [leads]; exact kept)
  obtain ⟨nonempty, notDot, notDots, plain, -, -⟩ :=
    (Path.isPlainName_iff _).mp (isPlainName_numberedName 0)
  rw [numberedFile_eq_join]
  refine room.join ⟨nonempty, notDot, notDots⟩ plain ?_
  rw [Session.place_scratchDir, leads]
  exact won

theorem TwinRooms.aside {dir : Path} {folder : Location} {count : Nat}
    (twins : TwinRooms home base count dir folder lost free first second) {one two : Disk}
    {places : Set Location} (agree : one.AgreeOff lost two)
    (stays : first.disk.StaysIn places one) (staysToo : second.disk.StaysIn places two)
    (aside : ∀ location ∈ places, location ∉ Disk.below base) :
    TwinRooms home base count dir folder lost free { first with disk := one }
      { second with disk := two } := by
  refine ⟨twins.onDisks stays.frame.home agree (subset_refl _) twins.doubtful ?_,
    twins.housed.later stays, twins.housedToo.later staysToo⟩
  intro location isFree
  have outside : location ∉ places :=
    fun inside => aside location inside (twins.inside (twins.doubtful isFree))
  exact ⟨isFree, (stays.frame.entry location outside).symm,
    (staysToo.frame.entry location outside).symm⟩

theorem copy_staysIn (host : Host) (input output : Path) (disk : Disk) :
    disk.StaysIn (disk.trail output) (FileTask.copy host input output disk).2 := by
  obtain ⟨frame, keeps⟩ := copy_frame host input output disk
  exact ⟨frame, fun location => keeps.directories location (Set.notMem_empty _)⟩

theorem carries_publish (scratches : Scratches session home base) {target : Path}
    (shuns : Shuns home base target) (take : Take) :
    Job.Carries (WithTake session home base number take)
      (session.publish take target).run fun result first second =>
        (∀ path, result = .ok (some path) → path = target) ∧
          BeforeClearing session home base number first second := by
  unfold Session.publish
  cases audible : take.artifact with
  | none =>
      refine Job.carries_done ?_
      rintro first second ⟨-, lost, free, twins, -, open_, -⟩
      exact ⟨nofun, lost, free, twins, open_⟩
  | some artifact =>
      refine @Job.carries_step _ _ _ _ _ _
        (fun _ => BeforeClearing session home base number) _ ?_ ?_
      · intro first second taken
        obtain ⟨lost, free, twins, open_, sees⟩ := taken.sees scratches
        have copied := (sees artifact audible).copyTask (twins.sees shuns) twins.agree
          session.equipment.host
        have stays := copy_staysIn session.equipment.host artifact target first.disk
        have staysToo := copy_staysIn session.equipment.host artifact target second.disk
        rw [Disk.trail_congr twins.agree.home] at staysToo
        exact ⟨copied.1, lost, free,
          twins.aside copied.2 stays staysToo (shuns first.disk twins.home), open_⟩
      · intro result
        cases result with
        | ok value =>
            refine Job.carries_done fun first second holds => ⟨?_, holds⟩
            rintro path ⟨⟩
            rfl
        | error fault => exact Job.carries_done fun first second holds => ⟨nofun, holds⟩

/-- The room of a call is cleared in both, or it stays in both with the same refusal. -/
theorem BeforeClearing.discard {take : Take} (scratch : take.scratch = session.scratchDir number)
    (alike : BeforeClearing session home base number first second) :
    AtCall session home base (number + 1) (session.discard take first)
      (session.discard take second) := by
  obtain ⟨lost, free, twins, open_⟩ := alike
  obtain ⟨located, standing⟩ := twins.housed
  obtain ⟨locatedToo, standingToo⟩ := twins.housedToo
  rw [← scratch] at located locatedToo
  have proper : session.roomName number :: base ≠ [] := List.cons_ne_nil _ _
  have agree := (twins.agree.removeTree session.equipment.host proper located standing locatedToo
    standingToo).2
  have thinned := @Host.removeTree_thinned _ _ _ session.equipment.host located standing proper
  have thinnedToo :=
    @Host.removeTree_thinned _ _ _ session.equipment.host locatedToo standingToo proper
  rw [← session.discard_disk, ← session.discard_disk] at agree
  rw [← session.discard_disk] at thinned thinnedToo
  obtain ⟨booth, renders⟩ := session.discard_idle take first
  obtain ⟨boothToo, rendersToo⟩ := session.discard_idle take second
  refine ⟨lost, session.places base (number + 1), ?_, subset_refl _⟩
  refine (twins.onDisks thinned.frame.home agree (subset_refl _) (open_.trans twins.doubtful)
    ?_).reset rfl rfl ?_ ?_ renders rendersToo
  · intro location inside
    have outside := Session.places_apart inside
    exact ⟨open_ inside, (thinned.frame.entry location outside).symm,
      (thinnedToo.frame.entry location outside).symm⟩
  · exact (congrArg (·.engine) booth).trans
      (twins.engine.trans (congrArg (·.engine) boothToo).symm)
  · exact (congrArg (·.poisoned) booth).trans
      (twins.poisoned.trans (congrArg (·.poisoned) boothToo).symm)

variable {requests : List Request} {answers : List Answer}

theorem carries_numbered {α : Type} {job : Nat → Job (Studio V) α}
    {post : α → Studio V → Studio V → Prop}
    (rest : Job.Carries (WithNumber session home base number) (job number) post) :
    Job.Carries (AtCall session home base number)
      (.step (fun studio => ((), studio.noting (.renderStarted markup.length))) fun _ =>
        .step Studio.takeNumber job) post := by
  refine @Job.carries_step _ _ _ _ _ _ (fun _ => AtCall session home base number) _ ?_ fun _ => ?_
  · rintro first second ⟨lost, free, twins, open_⟩
    exact ⟨rfl, lost, free, twins.reset rfl rfl twins.engine twins.poisoned rfl rfl, open_⟩
  · refine @Job.carries_step _ _ _ _ _ _ (fun taken first second => taken = number ∧
      WithNumber session home base number first second) _ ?_ fun taken => ?_
    · rintro first second ⟨lost, free, twins, open_⟩
      refine ⟨twins.renders.trans twins.rendersToo.symm, twins.renders, lost, free, ?_, open_⟩
      exact { twins with
        renders := congrArg (· + 1) twins.renders
        rendersToo := congrArg (· + 1) twins.rendersToo }
    · rintro first second ⟨rfl, alike⟩
      exact rest first second alike

theorem carries_recordAs (scratches : Scratches session home base)
    (writes : session.equipment.WritesOutputs)
    (impartial : session.equipment.Impartial home base) (markup : String) :
    Job.Carries (WithNumber session home base number) (session.recordAs markup number).run
      fun result first => StudioJob.Ends
        (fun take => WithTake session home base number take first)
        (AtCall session home base (number + 1) first) result := by
  unfold Session.recordAs
  rw [ExceptT.run_bind]
  refine (carries_openAs scratches).bind fun result => ?_
  cases result with
  | error fault => exact Job.carries_done fun _ _ holds => holds
  | ok scratch =>
      rintro first second ⟨rfl, alike⟩ result after steps
      obtain ⟨other, stepsToo, take, rfl, taken⟩ :=
        carries_perform writes impartial markup first second alike result after steps
      exact ⟨other, stepsToo, taken⟩

theorem WithTake.later {take : Take} (taken : WithTake session home base number take first second) :
    AtCall session home base (number + 1) first second := by
  obtain ⟨-, lost, free, twins, -, open_, -⟩ := taken
  exact ⟨lost, free, twins.toTwins, open_⟩

theorem AtCall.read (alike : AtCall session home base number first second) {path : Path}
    (shuns : Shuns home base path) : first.disk.read path = second.disk.read path := by
  obtain ⟨lost, free, twins, -⟩ := alike
  exact Disk.read_congr ((twins.sees shuns).openFile twins.agree)

theorem WithTake.read {take : Take} (taken : WithTake session home base number take first second)
    {artifact : Path} (audible : artifact ∈ take.artifact) :
    first.disk.read artifact = second.disk.read artifact := by
  obtain ⟨-, lost, free, twins, -, -, named⟩ := taken
  obtain ⟨rfl, won⟩ := named artifact audible
  exact Disk.read_congr (twins.file won).2

/-- A call does the same in both, and the file that it names reads the same in both. -/
theorem carries_call (scratches : Scratches session home base)
    (writes : session.equipment.WritesOutputs)
    (impartial : session.equipment.Impartial home base) (request : Request)
    (reported : ∀ target ∈ request.target, Shuns home base target) :
    Job.Carries (AtCall session home base number) (request.call session)
      fun result first second => AtCall session home base (number + 1) first second ∧
        ∀ path, result = .ok (some path) → first.disk.read path = second.disk.read path := by
  unfold Request.call
  cases asked : request.target with
  | none =>
      simp only
      rw [Session.record_run]
      refine Job.Carries.bind (carries_numbered
        (carries_recordAs scratches writes impartial request.markup)) fun result => ?_
      refine Job.carries_done fun first second alike => ?_
      cases result with
      | error fault => exact ⟨alike, nofun⟩
      | ok take =>
          refine ⟨WithTake.later alike, fun path same => ?_⟩
          exact WithTake.read alike (Except.ok.inj same)
  | some target =>
      have shuns := reported target asked
      simp only
      rw [Session.recordInto_run]
      refine carries_numbered ?_
      refine Job.Carries.bind (carries_recordAs scratches writes impartial request.markup)
        fun result => ?_
      cases result with
      | error fault => exact Job.carries_done fun _ _ alike => ⟨alike, nofun⟩
      | ok take =>
          intro first second taken
          have scratch := taken.1
          refine (carries_publish scratches shuns take).bind ?_ first second taken
          intro published
          refine @Job.carries_step _ _ _ _ _ _ (fun _ first second =>
            (∀ path, published = .ok (some path) → path = target) ∧
              AtCall session home base (number + 1) first second) _ ?_ fun _ => ?_
          · exact fun first second alike => ⟨rfl, alike.1, alike.2.discard scratch⟩
          · refine Job.carries_done fun first second alike => ⟨alike.2, fun path same => ?_⟩
            obtain rfl := alike.1 path same
            exact alike.2.read shuns

theorem carries_answer (scratches : Scratches session home base)
    (writes : session.equipment.WritesOutputs)
    (impartial : session.equipment.Impartial home base) (request : Request)
    (reported : ∀ target ∈ request.target, Shuns home base target) :
    Job.Carries (AtCall session home base number) (request.answer session)
      fun _ => AtCall session home base (number + 1) := by
  refine (carries_call scratches writes impartial request reported).bind fun result => ?_
  refine @Job.carries_step _ _ _ _ _ _ (fun _ => AtCall session home base (number + 1)) _ ?_
    fun answer => Job.carries_done fun _ _ alike => alike
  intro first second alike
  refine ⟨?_, alike.1⟩
  rcases result with fault | _ | path
  · rfl
  · rfl
  · exact congrArg (fun reading => Except.ok (some (path, reading))) (alike.2 path rfl)

/-- Twins answer the same, call by call. -/
theorem AtCall.same_answers (scratches : Scratches session home base)
    (writes : session.equipment.WritesOutputs)
    (impartial : session.equipment.Impartial home base)
    (alike : AtCall session home base number first second)
    (answered : session.Answers first requests answers)
    (reported : ∀ request ∈ requests, ∀ target ∈ request.target, Shuns home base target) :
    session.Answers second requests answers := by
  induction answered generalizing number second with
  | nil studio => exact .nil second
  | cons called later ih =>
      obtain ⟨here, others⟩ := List.forall_mem_cons.mp reported
      obtain ⟨other, calledToo, still⟩ :=
        carries_answer scratches writes impartial _ here _ _ alike _ _ called
      exact .cons calledToo (ih still others)

end Calls

section Leftovers

variable {V : Type} {session : Session V} {home base : Location} {number : Nat}
  {lost free : Set Location} {first second : Studio V} {requests : List Request}
  {answers : List Answer}

theorem Twins.symm (twins : Twins home base number lost free first second) :
    Twins home base number lost free second first where
  engine := twins.engine.symm
  poisoned := twins.poisoned.symm
  renders := twins.rendersToo
  rendersToo := twins.renders
  home := twins.agree.home.symm.trans twins.home
  agree := twins.agree.symm
  inside := twins.inside
  doubtful := twins.doubtful
  spare location isFree := (twins.spare location isFree).symm

/--
What is left below the scratch directory makes no difference to any calls: wherever rooms and files of
later renders would be there is nothing in the way, and a filter program that succeeds leaves its
output. Every schedule of the calls in one studio is one in the other, with the same answers.
-/
theorem leftovers_make_no_difference (scratches : Scratches session home base)
    (writes : session.equipment.WritesOutputs)
    (impartial : session.equipment.Impartial home base)
    (reported : ∀ request ∈ requests, ∀ target ∈ request.target, Shuns home base target)
    (twins : Twins home base number (Disk.below base) (session.places base number) first second) :
    session.Answers first requests answers ↔ session.Answers second requests answers := by
  have alike : ∀ {one two : Studio V},
      Twins home base number (Disk.below base) (session.places base number) one two →
      AtCall session home base number one two :=
    fun twins => ⟨_, _, twins, subset_refl _⟩
  exact ⟨fun answered => (alike twins).same_answers scratches writes impartial answered reported,
    fun answered => (alike twins.symm).same_answers scratches writes impartial answered reported⟩

end Leftovers

namespace Plain

open Disk (Beside Provide)

variable {sounds filters input output : Path} {home base : Location} {inputs : List Path}
  {first second : Disk}

def IsOutside (home base : Location) (folder : Path) : Prop :=
  ∀ name, Path.isPlainName name = true → Shuns home base (folder.join name)

theorem IsOutside.openFile (outside : IsOutside home base sounds)
    (beside : Beside home base first second) (name : String) (plain : Path.isPlainName name = true) :
    second.openFile (sounds.join name) = first.openFile (sounds.join name) :=
  ((outside name plain first beside.home).openFile beside.agree).symm

theorem asset_path {id : String} {asset : Asset} {disk : Disk}
    (found : (equipment sounds filters).assets id disk = some asset) :
    ∃ name, Path.isPlainName name = true ∧ asset.path = sounds.join name := by
  change AssetFolder.find? _ id disk = some asset at found
  unfold AssetFolder.find? at found
  cases plain : Path.isPlainName id with
  | false =>
      rw [plain] at found
      cases found
  | true =>
      rw [plain, if_pos rfl] at found
      obtain ⟨format, supported, rfl⟩ := List.mem_map.mp (List.mem_of_find?_eq_some found)
      exact ⟨_, isPlainName_dotted id plain format supported, rfl⟩

theorem sameEnd_after_load {α : Type} {reader : FileTask α} (reads : ∀ disk, (reader disk).2 = disk)
    (same : (reader first).1 = (reader second).1) (next : α → ByteArray)
    (provide : Provide home base inputs output first second) :
    SameEnd (first.place output) (· = .ok ())
      ((do
        let value ← reader
        save output (next value) : FileTask Unit) first)
      ((do
        let value ← reader
        save output (next value) : FileTask Unit) second) := by
  have kept := reads first
  have keptToo := reads second
  rw [task_bind, task_bind]
  generalize reader first = one, reader second = two at same kept keptToo ⊢
  obtain ⟨result, one⟩ := one
  obtain ⟨resultToo, two⟩ := two
  obtain rfl : result = resultToo := same
  obtain rfl : one = first := kept
  obtain rfl : two = second := keptToo
  cases result with
  | error fault => exact ⟨rfl, nofun⟩
  | ok value => exact sameEnd_after_room provide (sameEnd_update _ (provide.write _ (next value)))

theorem launcher_apply (program : Path) (call : Invocation) (disk : Disk) :
    launcher program call disk =
      if call.hasNul then .error .nulInCommand
      else disk.executable program >>= fun mark =>
        if call.isTooLong program then .error .argumentTooLong
        else .ok (Plain.program mark call disk) := by
  unfold launcher Launcher.ofFiles
  by_cases nul : call.hasNul = true
  · rw [if_pos nul, if_pos nul]
    rfl
  · rw [if_neg nul, if_neg nul]
    cases disk.executable program with
    | error error => rfl
    | ok mark =>
        by_cases long : call.isTooLong program = true
        · simp only [long, if_true]
          rfl
        · simp only [long, if_false, Bool.false_eq_true]
          rfl

/-- A program is started on both disks, or on neither. -/
theorem launcher_alike {program : Path} (call : Invocation)
    (same : first.executable program = second.executable program) :
    (∃ error, launcher program call first = .error error ∧
        launcher program call second = .error error) ∨
      ∃ mark, launcher program call first = .ok (Plain.program mark call first) ∧
        launcher program call second = .ok (Plain.program mark call second) := by
  rw [launcher_apply, launcher_apply, ← same]
  by_cases nul : call.hasNul = true
  · rw [if_pos nul, if_pos nul]
    exact Or.inl ⟨_, rfl, rfl⟩
  · rw [if_neg nul, if_neg nul]
    cases first.executable program with
    | error error => exact Or.inl ⟨error, rfl, rfl⟩
    | ok mark =>
        simp only [bind, Except.bind]
        by_cases long : call.isTooLong program = true
        · rw [if_pos long, if_pos long]
          exact Or.inl ⟨_, rfl, rfl⟩
        · rw [if_neg long, if_neg long]
          exact Or.inr ⟨mark, rfl, rfl⟩

theorem respond_alike (mark : ByteArray) (heard : Except OsError ByteArray)
    (provide : Provide home base inputs output first second) :
    (respond mark output heard first).1 = (respond mark output heard second).1 ∧
      ((respond mark output heard first).1.status.succeeded = true →
        Disk.entry? (respond mark output heard first).2 (first.place output) =
          Disk.entry? (respond mark output heard second).2 (first.place output)) := by
  cases heard with
  | error error => exact ⟨rfl, nofun⟩
  | ok content =>
      have updated : SameEnd (first.place output) _
          (FileTask.update (Host.write {} output (mark ++ content)) _ first)
          (FileTask.update (Host.write {} output (mark ++ content)) _ second) :=
        sameEnd_update (.audio <| .reported <| OsError.message ·)
          (provide.write {} (mark ++ content))
      unfold respond
      dsimp only
      generalize FileTask.update _ _ first = one, FileTask.update _ _ second = two at updated ⊢
      obtain ⟨result, one⟩ := one
      obtain ⟨resultToo, two⟩ := two
      obtain ⟨rfl, written⟩ := updated
      refine ⟨rfl, ?_⟩
      cases result with
      | ok value => exact fun _ => written rfl
      | error fault => exact nofun

/-- A filter program does the same wherever it is the same and has the same input. -/
theorem runFilter_alike {program : Path} (same : first.executable program = second.executable program)
    (provide : Provide home base [input] output first second) :
    SameEnd (first.place output) (· = .ok .success) (runFilter launcher program input output first)
      (runFilter launcher program input output second) := by
  refine sameEnd_after_room provide ?_
  rcases launcher_alike { arguments := [input.text, output.text] } same with
    ⟨error, failed, failedToo⟩ | ⟨mark, started, startedToo⟩
  · rw [failed, failedToo]
    cases error <;> exact ⟨rfl, nofun⟩
  · have heard := Disk.read_congr (provide.opened input List.mem_cons_self)
    have alike := respond_alike mark (first.read input) provide
    have program := congrFun (program_apply mark input output)
    rw [started, startedToo, program first, program second, ← heard]
    dsimp only
    generalize respond mark output (first.read input) first = one,
      respond mark output (first.read input) second = two at alike ⊢
    obtain ⟨result, one⟩ := one
    obtain ⟨resultToo, two⟩ := two
    obtain ⟨rfl, written⟩ := alike
    dsimp only at written ⊢
    by_cases succeeded : result.status.succeeded = true
    · rw [if_pos succeeded, if_pos succeeded]
      exact ⟨rfl, fun _ => written succeeded⟩
    · rw [if_neg succeeded, if_neg succeeded]
      exact ⟨rfl, nofun⟩

theorem impartial (soundsApart : IsOutside home base sounds)
    (filtersApart : IsOutside home base filters) : (equipment sounds filters).Impartial home base where
  finds id first second beside := (assets_congr (soundsApart.openFile beside) id).symm
  plays id seen asset first second found beside := by
    obtain ⟨name, plain, path⟩ := asset_path found
    have sees := soundsApart name plain first beside.home
    rw [path]
    exact ⟨sees.locate beside.agree, sees.openFile beside.agree⟩
  offers id first second beside := (programFor?_congr (filtersApart.openFile beside) id).symm
  activates speaker engine first second beside := ⟨rfl, rfl⟩
  utters text engine first second beside := ⟨rfl, rfl⟩
  joins inputs output first second provide :=
    sameEnd_after_load (fun _ => (loadAll_congr inputs fun _ _ => rfl).2)
      (loadAll_congr inputs provide.opened).1 joined provide
  applies preset input output first second provide :=
    sameEnd_after_load (load_kept input) (load_congr (provide.opened input List.mem_cons_self))
      (marked preset.name) provide
  converts input output first second provide :=
    sameEnd_after_load (load_kept input) (load_congr (provide.opened input List.mem_cons_self))
      (marked "wav") provide
  runs id seen program input output first second offered provide := by
    rw [programFor?_eq] at offered
    split at offered
    · rename_i found
      obtain ⟨plain, -⟩ := (Bool.and_eq_true _ _).mp found
      obtain rfl := Option.some.inj offered
      have same := filtersApart.openFile provide.toBeside id plain
      exact runFilter_alike (Disk.executable_congr same.symm) provide
    · cases offered

theorem shuns_of_trail {disk : Disk} {path : Path}
    (off : ∀ location ∈ disk.place path :: disk.way path, ¬(base <:+ location ∧ location ≠ base)) :
    Shuns disk.home base path := by
  intro other home
  unfold Disk.Sees
  rw [Disk.trail_congr home.symm]
  obtain ⟨ends, passes⟩ := List.forall_mem_cons.mp off
  rintro location (led | rfl)
  · exact passes location led
  · exact ends

theorem isOutside_of_place {disk : Disk} (shuns : Shuns disk.home base sounds)
    (apart : ¬base <:+ disk.place sounds) : IsOutside disk.home base sounds := by
  intro name plain other home
  obtain ⟨nonempty, notDot, notDots, noSlash, -, -⟩ := (Path.isPlainName_iff name).mp plain
  refine (shuns other home).join ⟨nonempty, notDot, notDots⟩ noSlash ?_
  rw [Disk.place_congr home.symm]
  rintro ⟨inside, proper⟩
  rcases List.suffix_cons_iff.mp inside with same | inside
  · exact proper same.symm
  · exact apart inside

def buffer : Location := [".buffer", "work"]

def littered (leftovers : List (Location × Entry)) : Studio (Option String) :=
  { stage with
    disk := { house with entries := leftovers ++ (buffer, .directory) :: house.entries } }

theorem littered_entry (leftovers : List (Location × Entry)) {location : Location}
    (proper : location ≠ []) :
    (littered leftovers).disk.entry? location =
      (leftovers.lookup location).or
        (((buffer, Entry.directory) :: house.entries).lookup location) := by
  unfold Disk.entry?
  rw [if_neg proper]
  exact List.lookup_append

theorem littered_agree {leftovers : List (Location × Entry)}
    (inside : ∀ pair ∈ leftovers, pair.1 ∈ Disk.below buffer) :
    (littered []).disk.AgreeOff (Disk.below buffer) (littered leftovers).disk := by
  refine ⟨rfl, ?_⟩
  intro location outside
  by_cases root : location = []
  · rw [root]
    rfl
  · rw [littered_entry leftovers root, littered_entry [] root]
    have nothing : leftovers.lookup location = none := by
      rw [List.lookup_eq_none_iff]
      intro pair member
      rw [bne_iff_ne]
      rintro rfl
      exact outside (inside pair member)
    rw [nothing]
    rfl

theorem littered_spare {leftovers : List (Location × Entry)}
    (spare : ∀ pair ∈ leftovers, Disk.Spare buffer pair.1 (some pair.2)) {location : Location}
    (inside : location ∈ Disk.below buffer) :
    Disk.Spare buffer location ((littered leftovers).disk.entry? location) := by
  have clear : ∀ pair ∈ (buffer, Entry.directory) :: house.entries,
      ¬(buffer <:+ pair.1 ∧ pair.1 ≠ buffer) := by decide
  have nothing : ((buffer, Entry.directory) :: house.entries).lookup location = none := by
    rw [List.lookup_eq_none_iff]
    intro pair member
    rw [bne_iff_ne]
    rintro rfl
    exact clear pair member inside
  rw [littered_entry leftovers (Disk.ne_nil_of_mem_below inside), nothing, Option.or_none]
  cases held : leftovers.lookup location with
  | none =>
      unfold Disk.Spare
      split
      · exact Or.inl rfl
      · exact Or.inl rfl
  | some entry =>
      obtain ⟨front, rest, rfl, -⟩ := List.lookup_eq_some_iff.mp held
      exact spare (location, entry) (List.mem_append_right _ List.mem_cons_self)

theorem littered_twins {session : Session (Option String)} {leftovers : List (Location × Entry)}
    (inside : ∀ pair ∈ leftovers, pair.1 ∈ Disk.below buffer)
    (spare : ∀ pair ∈ leftovers, Disk.Spare buffer pair.1 (some pair.2)) :
    Twins house.home buffer 0 (Disk.below buffer) (session.places buffer 0) (littered [])
      (littered leftovers) := by
  refine ⟨rfl, rfl, rfl, rfl, rfl, littered_agree inside, subset_refl _,
    session.places_subset_below buffer 0, ?_⟩
  intro location place
  have below := session.places_subset_below buffer 0 place
  exact ⟨littered_spare (fun _ none => absurd none List.not_mem_nil) below, littered_spare spare below⟩

def oldRoom : List (Location × Entry) :=
  [("render-1-0000" :: buffer, .directory),
    (["001.wav", "render-1-0000"] ++ buffer, .file "old".toUTF8 false)]

def blockedRoom : List (Location × Entry) :=
  [("render-1-0000" :: buffer, .directory),
    (["000.wav", "render-1-0000"] ++ buffer, .directory)]

theorem rooms_inside : ∀ leftovers ∈ [oldRoom, blockedRoom], ∀ pair ∈ leftovers,
    pair.1 ∈ Disk.below buffer := by
  change ∀ leftovers ∈ [oldRoom, blockedRoom], ∀ pair ∈ leftovers,
    buffer <:+ Prod.fst pair ∧ Prod.fst pair ≠ buffer
  decide

theorem oldRoom_spare : ∀ pair ∈ oldRoom, Disk.Spare buffer pair.1 (some pair.2) := by
  intro pair member
  rcases List.mem_pair.mp member with rfl | rfl
  · exact Or.inr rfl
  · exact Or.inr ⟨_, rfl⟩

end Plain

/-- What a killed process left makes no difference to the calls of another one. -/
theorem leftovers_make_no_difference_in_house :
    let session : Session (Option String) := ⟨{}, Plain.kit, 1⟩
    let request : Request := ⟨"a:hi{loud}yo{.}", some ⟨"/new/o.wav"⟩⟩
    let ending := (request.answer session).run (Plain.littered [])
    ending.1.toOption.map (·.map (·.1)) = some (some ⟨"/new/o.wav"⟩) ∧
      session.Answers (Plain.littered Plain.oldRoom) [request] [ending.1] := by
  have shuns : Shuns Plain.house.home Plain.buffer ⟨".buffer"⟩ :=
    Plain.shuns_of_trail (by decide +kernel)
  have target : Shuns Plain.house.home Plain.buffer ⟨"/new/o.wav"⟩ :=
    Plain.shuns_of_trail (by decide +kernel)
  have scratches : Scratches (⟨{}, Plain.kit, 1⟩ : Session (Option String)) Plain.house.home
      Plain.buffer := by
    refine ⟨fun disk home => ?_, shuns⟩
    rw [Disk.place_congr home.symm]
    decide +kernel
  have impartial : Plain.kit.Impartial Plain.house.home Plain.buffer :=
    Plain.impartial
      (Plain.isOutside_of_place (Plain.shuns_of_trail (by decide +kernel)) (by decide +kernel))
      (Plain.isOutside_of_place (Plain.shuns_of_trail (by decide +kernel)) (by decide +kernel))
  have twins : Twins Plain.house.home Plain.buffer 0 (Disk.below Plain.buffer)
      (Session.places ⟨{}, Plain.kit, 1⟩ Plain.buffer 0) (Plain.littered [])
      (Plain.littered Plain.oldRoom) :=
    Plain.littered_twins (Plain.rooms_inside _ List.mem_cons_self) Plain.oldRoom_spare
  have ended : ((Request.answer ⟨{}, Plain.kit, 1⟩ ⟨"a:hi{loud}yo{.}", some ⟨"/new/o.wav"⟩⟩).run
      (Plain.littered [])).1.toOption.map (·.map (·.1)) = some (some ⟨"/new/o.wav"⟩) := by
    decide +kernel
  refine ⟨ended, ?_⟩
  refine (leftovers_make_no_difference scratches (Plain.writesOutputs _ _) impartial ?_ twins).mp
    (.cons (Job.steps_iff_amid.mpr (Job.amid_run _ _)) (.nil _))
  intro request listed path named
  obtain rfl := List.mem_singleton.mp listed
  obtain rfl := Option.some.inj named
  exact target

/-- Disks that differ below the scratch directory only, and different answers: a directory in the
place of the audio makes a render silent, and a mute program makes audio of an old file. -/
theorem leftovers_make_a_difference :
    let session : Session (Option String) := ⟨{}, Plain.kit, 1⟩
    let muted : Session (Option String) := ⟨{}, Plain.mute, 1⟩
    let answer := fun (session : Session (Option String)) markup leftovers =>
      (((Request.mk markup none).answer session).run (Plain.littered leftovers)).1.toOption.map
        (·.map fun named => (named.1, named.2.toOption))
    (∀ leftovers ∈ [Plain.oldRoom, Plain.blockedRoom],
      (Plain.littered []).disk.AgreeOff (Disk.below Plain.buffer)
        (Plain.littered leftovers).disk) ∧
      answer session "hi" [] =
        some (some (⟨".buffer/render-1-0000/000.wav"⟩, some "<udisen:hi>".toUTF8)) ∧
      answer session "hi" Plain.blockedRoom = some none ∧
      answer muted "{loud}hi{.}" [] = some none ∧
      answer muted "{loud}hi{.}" Plain.oldRoom =
        some (some (⟨".buffer/render-1-0000/000.wav"⟩, some "old".toUTF8)) := by
  refine ⟨?_, by decide +kernel, by decide +kernel, by decide +kernel, by decide +kernel⟩
  exact fun leftovers listed => Plain.littered_agree (Plain.rooms_inside leftovers listed)

end SpokenMarkup
