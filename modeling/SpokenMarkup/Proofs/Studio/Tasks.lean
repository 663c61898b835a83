import SpokenMarkup.Proofs.Disk.Growth
import SpokenMarkup.Proofs.Studio.Acoustics
import SpokenMarkup.Proofs.Studio.Perform

set_option autoImplicit false

namespace SpokenMarkup

theorem task_bind {σ α β : Type} (task : ExceptT Fault (StateM σ) α)
    (next : α → ExceptT Fault (StateM σ) β) (state : σ) :
    (task >>= next) state = match task state with
      | (.ok value, after) => next value after
      | (.error fault, after) => (.error fault, after) := by
  change (ExceptT.bindCont next (task state).1) (task state).2 = _
  cases ended : task state with
  | mk result after =>
      cases result with
      | ok value => rfl
      | error fault => rfl

theorem task_bind_ok {σ α β : Type} {task : ExceptT Fault (StateM σ) α} {state after : σ}
    {value : α} (next : α → ExceptT Fault (StateM σ) β) (ended : task state = (.ok value, after)) :
    (task >>= next) state = next value after := by
  rw [task_bind, ended]

theorem task_bind_kept {σ α β : Type} {task : ExceptT Fault (StateM σ) α} {state : σ}
    (next : α → ExceptT Fault (StateM σ) β) (kept : (task state).2 = state) :
    (task >>= next) state = match (task state).1 with
      | .ok value => next value state
      | .error fault => (.error fault, state) := by
  rw [task_bind]
  generalize task state = ending at kept ⊢
  obtain ⟨result, after⟩ := ending
  obtain rfl : after = state := kept
  cases result <;> rfl

variable {disk : Disk} {output : Path} {location : Location}

theorem update_apply (operation : Disk → Except OsError Unit × Disk) (fault : OsError → Fault)
    (disk : Disk) :
    FileTask.update operation fault disk =
      ((operation disk).1.mapError fault, (operation disk).2) := rfl

theorem update_ok {operation : Disk → Except OsError Unit × Disk} {fault : OsError → Fault}
    {changed : Disk} (done : FileTask.update operation fault disk = (.ok (), changed)) :
    operation disk = (.ok (), changed) := by
  rw [update_apply] at done
  generalize operation disk = ending at done ⊢
  obtain ⟨result, after⟩ := ending
  cases result with
  | error error => cases done
  | ok value =>
      obtain ⟨-, rfl⟩ := Prod.mk.inj done
      rfl

namespace Disk.Vacant

theorem proper (vacant : disk.Vacant output location) : location ≠ [] := by
  intro root
  subst root
  have free := vacant.free
  unfold Disk.entry? at free
  rw [if_pos rfl] at free
  cases free

theorem openForWriting_eq (vacant : disk.Vacant output location) (executable : Bool) :
    disk.openForWriting output executable = .ok (location, executable) := by
  simp [openForWriting, vacant.bare, vacant.located, vacant.free, bind, Except.bind]

theorem write_eq (vacant : disk.Vacant output location) {host : Host} {content : ByteArray}
    (carried : host.writing output content = none) :
    host.write output content disk = (.ok (), disk.put location (.file content false)) := by
  simp [Host.write, Host.filled, vacant.openForWriting_eq, carried]

theorem openForCopying_eq (vacant : disk.Vacant output location) {input : Path}
    {content : ByteArray} {executable : Bool}
    (opened : disk.openFile input = .ok (some (content, executable))) :
    disk.openForCopying input output = .ok ⟨location, content, executable, executable⟩ := by
  cases located : disk.locate input with
  | error error => simp [openFile, located, bind, Except.bind] at opened
  | ok source =>
      have apart : location ≠ source := by
        intro same
        subst same
        simp [openFile, located, vacant.free, bind, Except.bind] at opened
      simp [openForCopying, located, opened, vacant.openForWriting_eq, apart, bind, Except.bind]

theorem copy_eq (vacant : disk.Vacant output location) {host : Host} {input : Path}
    {content : ByteArray} {executable : Bool}
    (opened : disk.openFile input = .ok (some (content, executable)))
    (carried : host.copying input output content = none) :
    host.copy input output disk = (.ok (), disk.put location (.file content executable)) := by
  simp [Host.copy, Host.copied, vacant.openForCopying_eq opened, carried]

end Disk.Vacant

/-- A task that only puts a file at a location yields what it puts there. -/
theorem yields_put (disk : Disk) (location : Location) (proper : location ≠ [])
    (content : ByteArray) (executable : Bool) :
    Yields (some content) location disk
      (.ok (), disk.put location (.file content executable)) := by
  refine ⟨Disk.agreeOff_put disk location _, ?_, nofun⟩
  intro bytes equal
  cases equal
  exact ⟨rfl, executable, Disk.lookup_put_self disk location _ proper⟩

theorem yields_none (disk : Disk) (location : Location) (fault : Fault) :
    Yields none location disk (.error fault, disk) :=
  ⟨Disk.AgreeOff.refl _ disk, nofun, fun _ => ⟨fault, rfl⟩⟩

theorem Yields.after {audio : Option ByteArray} {before middle : Disk}
    {ending : Except Fault Unit × Disk} (agree : before.AgreeOff {location} middle)
    (yields : Yields audio location middle ending) : Yields audio location before ending :=
  ⟨agree.trans yields.frame, yields.made, yields.failed⟩

theorem write_yields (vacant : disk.Vacant output location) {host : Host} {content : ByteArray}
    (carried : host.writing output content = none) (fault : OsError → Fault) :
    Yields (some content) location disk ((do
      FileTask.makeRoom output
      FileTask.update (host.write output content) fault : FileTask Unit) disk) := by
  rw [task_bind_ok _ vacant.room, update_apply, vacant.write_eq carried]
  exact yields_put disk location vacant.proper content false

theorem read_eq_ok_iff (disk : Disk) (path : Path) (content : ByteArray) :
    disk.read path = .ok content ↔
      ∃ executable, disk.openFile path = .ok (some (content, executable)) := by
  unfold Disk.read
  cases opened : disk.openFile path with
  | error error => simp [bind, Except.bind]
  | ok held =>
      cases held with
      | none => simp [bind, Except.bind]
      | some pair => simp [bind, Except.bind, Prod.ext_iff]

/-- A copy of what cannot be read fails. -/
theorem copy_yields (vacant : disk.Vacant output location) {host : Host} (input : Path)
    (carried : ∀ content, host.copying input output content = none) :
    Yields (disk.read input).toOption location disk (FileTask.copy host input output disk) := by
  rw [FileTask.copy, task_bind_ok _ vacant.room, update_apply]
  cases opened : disk.read input with
  | ok content =>
      obtain ⟨executable, held⟩ := (read_eq_ok_iff disk input content).mp opened
      rw [vacant.copy_eq held (carried content)]
      exact yields_put disk location vacant.proper content executable
  | error error =>
      rcases Disk.copy_wrote host input output disk with ⟨error, refused⟩ | ⟨content, mode, held, -⟩
      · rw [refused]
        exact yields_none disk location _
      · rw [(read_eq_ok_iff disk input content).mpr ⟨mode, held⟩] at opened
        cases opened

@[simp] theorem Studio.noting_disk {V : Type} (studio : Studio V) (event : Event) :
    (studio.noting event).disk = studio.disk := rfl

theorem Disk.vacant_numberedFile {dir : Path} {folder : Location} {number : Nat}
    (located : disk.locate dir = .ok folder) (standing : disk.entry? folder = some .directory)
    (fits : Disk.Fits dir number) (free : disk.entry? (Disk.numbered folder number) = none) :
    disk.Vacant (numberedFile dir number) (Disk.numbered folder number) :=
  ⟨(Disk.locate_numberedFile located standing number).trans (if_pos fits), free,
    Disk.endsWithSlash_numberedFile located number,
    Disk.makeRoom_numberedFile located standing number⟩

theorem Disk.IsEmptyFolder.vacant {start : Disk} {dir : Path} {folder : Location} {number : Nat}
    (fresh : start.IsEmptyFolder dir folder) (agree : start.AgreeOff (Disk.below folder) disk)
    (fits : Disk.Fits dir number) (free : disk.entry? (Disk.numbered folder number) = none) :
    disk.Vacant (numberedFile dir number) (Disk.numbered folder number) :=
  Disk.vacant_numberedFile (fresh.located_later agree) (fresh.standing_later agree) fits free

/-- Work on a node that ended with this audio at a location, or failed without audio, and the booth
that it left. -/
structure Works {V : Type} (audio : Option ByteArray × Booth V) (location : Location)
    (before : Studio V) (ending : Except Fault Unit × Studio V) : Prop where
  yields : Yields audio.1 location before.disk (ending.1, ending.2.disk)
  booth : ending.2.booth = audio.2

section Work

variable {V : Type} {equipment : Equipment V} {acoustics : Acoustics} {start : Disk} {dir : Path}
  {folder : Location} {number : Nat} {studio : Studio V}

theorem attemptOnDisk_works {audio : Option ByteArray} (before after : Studio V)
    (disks : after.disk = before.disk) (booths : after.booth = before.booth) (task : FileTask Unit)
    (yields : Yields audio location before.disk (task before.disk)) :
    Works (audio, before.booth) location before
      (StudioJob.perform (Equipment.attemptOnDisk task) after) := by
  rw [StudioJob.perform_attemptOnDisk, disks]
  exact ⟨yields, booths⟩

def Reply.result {α : Type} : Reply α → Except Fault α
  | done value => .ok value
  | failed fault => .error fault
  | crashed => .error (.voice .crashed)

def Reply.isCrash {α : Type} : Reply α → Bool
  | crashed => true
  | _ => false

theorem Reply.result_eq_ok_iff {α : Type} {reply : Reply α} {value : α} :
    reply.result = .ok value ↔ reply = .done value := by
  cases reply <;> simp [result]

theorem Studio.call_apply {α : Type} (request : V → Disk → Reply α × V × Disk)
    (studio : Studio V) :
    Studio.call request studio =
      ((request studio.engine studio.disk).1.result,
        { studio with
          engine := (request studio.engine studio.disk).2.1
          disk := (request studio.engine studio.disk).2.2
          poisoned := studio.poisoned || (request studio.engine studio.disk).1.isCrash }) := by
  unfold Studio.call
  rcases request studio.engine studio.disk with ⟨_ | _ | _, engine, disk⟩
  · simp [Reply.result, Reply.isCrash]
  · simp [Reply.result, Reply.isCrash]
  · simp [Reply.result, Reply.isCrash]

/-- Two endings of one task, on disks that it left alone. -/
structure Alike {α : Type} (left right : Studio V) (ending other : Except Fault α × Studio V) :
    Prop where
  result : ending.1 = other.1
  booth : ending.2.booth = other.2.booth
  kept : left.disk.AgreeOff ∅ ending.2.disk
  keptOther : right.disk.AgreeOff ∅ other.2.disk

/-- A call that minds no scratch file ends alike on all disks that differ in such files only. -/
theorem call_alike {α : Type} {request : V → Disk → Reply α × V × Disk} {left right : Studio V}
    (steady : ∀ other, start.AgreeOff (Disk.below folder) other → ∀ engine,
      Aside other (request engine start) (request engine other))
    (agree : start.AgreeOff (Disk.below folder) left.disk)
    (agreeOther : start.AgreeOff (Disk.below folder) right.disk)
    (booths : left.booth = right.booth) :
    Alike left right (Studio.call request left) (Studio.call request right) := by
  have engines : left.engine = right.engine := congrArg Booth.engine booths
  have poisoned : left.poisoned = right.poisoned := congrArg Booth.poisoned booths
  obtain ⟨reply, engine, kept⟩ := steady left.disk agree left.engine
  obtain ⟨replyOther, engineOther, keptOther⟩ := steady right.disk agreeOther left.engine
  rw [Studio.call_apply, Studio.call_apply, ← engines, reply, engine, replyOther, engineOther]
  exact ⟨rfl, by simp [Studio.booth, poisoned], kept, keptOther⟩

theorem call_ok {α : Type} {request : V → Disk → Reply α × V × Disk} {studio after : Studio V}
    {value : α} (done : Studio.call request studio = (.ok value, after)) :
    (request studio.engine studio.disk).1 = .done value ∧
      after.disk = (request studio.engine studio.disk).2.2 := by
  rw [Studio.call_apply] at done
  obtain ⟨value, rfl⟩ := Prod.mk.inj done
  exact ⟨Reply.result_eq_ok_iff.mp value, rfl⟩

/-- A call leaves the engine as the engine leaves itself, however it ends. -/
theorem call_engine {α : Type} (request : V → Disk → Reply α × V × Disk) (studio : Studio V) :
    (Studio.call request studio).2.engine = (request studio.engine studio.disk).2.1 := by
  rw [Studio.call_apply]

theorem speakAs_apply (voice : Voice V) (speaker text : String) (studio : Studio V) :
    voice.speakAs speaker text studio =
      if studio.poisoned then (.error (.voice .poisoned), studio)
      else if voice.active studio.engine = some speaker then Studio.call (voice.utter text) studio
      else
        match Studio.call (voice.activate speaker) (studio.noting (.speakerSwitched speaker)) with
        | (.ok _, after) => Studio.call (voice.utter text) after
        | (.error fault, after) => (.error fault, after) := by
  rw [Voice.speakAs, task_bind]
  change (if studio.poisoned = true then _ else _ : StudioTask V ByteArray) studio = _
  cases studio.poisoned with
  | true => rfl
  | false =>
      by_cases active : voice.active studio.engine = some speaker
      · simp [active]
      · simp only [active, if_false, Bool.false_eq_true]
        change (Studio.call (voice.activate speaker) >>= fun _ => Studio.call (voice.utter text) :
          StudioTask V ByteArray) (studio.noting (.speakerSwitched speaker)) = _
        rw [task_bind]
        rcases Studio.call (voice.activate speaker) (studio.noting (.speakerSwitched speaker))
          with ⟨result, after⟩
        cases result <;> rfl

theorem speakAs_invariant (voice : Voice V) (keeps : Studio V → Prop) {speaker text : String}
    (noted : ∀ studio event, keeps studio → keeps (studio.noting event))
    (activated : ∀ studio, keeps studio → keeps (Studio.call (voice.activate speaker) studio).2)
    (uttered : ∀ studio, keeps studio → keeps (Studio.call (voice.utter text) studio).2)
    {studio : Studio V} (kept : keeps studio) : keeps (voice.speakAs speaker text studio).2 := by
  rw [speakAs_apply]
  split
  · exact kept
  · split
    · exact uttered studio kept
    · have loaded := activated _ (noted studio (.speakerSwitched speaker) kept)
      generalize Studio.call (voice.activate speaker) (studio.noting (.speakerSwitched speaker)) =
        ending at loaded ⊢
      obtain ⟨fault | value, after⟩ := ending
      · exact loaded
      · exact uttered after loaded

/-- Speaking does with the disk what its two calls do. -/
theorem speakAs_disk (voice : Voice V) {relates : Disk → Disk → Prop}
    (idle : ∀ disk, relates disk disk)
    (trans : ∀ first second third, relates first second → relates second third →
      relates first third)
    (activates : ∀ speaker engine disk, relates disk (voice.activate speaker engine disk).2.2)
    (utters : ∀ text engine disk, relates disk (voice.utter text engine disk).2.2)
    (speaker text : String) (studio : Studio V) :
    relates studio.disk (voice.speakAs speaker text studio).2.disk := by
  refine speakAs_invariant voice (fun after => relates studio.disk after.disk) ?_ ?_ ?_ (idle _)
  · exact fun _ _ kept => kept
  · intro after kept
    rw [Studio.call_apply]
    exact trans _ _ _ kept (activates speaker after.engine after.disk)
  · intro after kept
    rw [Studio.call_apply]
    exact trans _ _ _ kept (utters text after.engine after.disk)

theorem speakAs_alike (describes : acoustics.Describes equipment start folder)
    {left right : Studio V} (agree : start.AgreeOff (Disk.below folder) left.disk)
    (agreeOther : start.AgreeOff (Disk.below folder) right.disk)
    (booths : left.booth = right.booth) (speaker text : String) :
    Alike left right (equipment.voice.speakAs speaker text left)
      (equipment.voice.speakAs speaker text right) := by
  have activate :
      Alike left right
        (Studio.call (equipment.voice.activate speaker) (left.noting (.speakerSwitched speaker)))
        (Studio.call (equipment.voice.activate speaker)
          (right.noting (.speakerSwitched speaker))) := by
    have activated := @call_alike _ start folder _ _ (left.noting (.speakerSwitched speaker))
      (right.noting (.speakerSwitched speaker))
      (fun other agree => describes.activates other agree speaker) agree agreeOther booths
    exact ⟨activated.result, activated.booth, activated.kept, activated.keptOther⟩
  have engines : left.engine = right.engine := congrArg Booth.engine booths
  have poisoned : left.poisoned = right.poisoned := congrArg Booth.poisoned booths
  rw [speakAs_apply, speakAs_apply, ← poisoned, ← engines]
  cases left.poisoned with
  | true => exact ⟨rfl, booths, Disk.AgreeOff.refl _ _, Disk.AgreeOff.refl _ _⟩
  | false =>
      simp only [Bool.false_eq_true, if_false]
      by_cases active : equipment.voice.active left.engine = some speaker
      · simp only [active, if_true]
        exact call_alike (fun other agree => describes.utters other agree text) agree agreeOther
          booths
      · simp only [active, if_false]
        generalize Studio.call (equipment.voice.activate speaker)
          (left.noting (.speakerSwitched speaker)) = ending at activate ⊢
        generalize Studio.call (equipment.voice.activate speaker)
          (right.noting (.speakerSwitched speaker)) = other at activate ⊢
        obtain ⟨result, after⟩ := ending
        obtain ⟨resultOther, afterOther⟩ := other
        obtain ⟨same, boothsAfter, kept, keptOther⟩ := activate
        obtain rfl : result = resultOther := same
        cases result with
        | error fault => exact ⟨rfl, boothsAfter, kept, keptOther⟩
        | ok value =>
            have inside : (∅ : Set Location) ⊆ Disk.below folder := Set.empty_subset _
            have spoken := call_alike (fun other agree => describes.utters other agree text)
              (agree.trans (kept.mono inside)) (agreeOther.trans (keptOther.mono inside))
              boothsAfter
            exact ⟨spoken.result, spoken.booth, kept.trans spoken.kept,
              keptOther.trans spoken.keptOther⟩

theorem speech_works (fresh : start.IsEmptyFolder dir folder)
    (describes : acoustics.Describes equipment start folder)
    (agree : start.AgreeOff (Disk.below folder) studio.disk) (fits : Disk.Fits dir number)
    (free : studio.disk.entry? (Disk.numbered folder number) = none) (speaker text : String) :
    Works (equipment.speechAudio start speaker text studio.booth) (Disk.numbered folder number)
      studio
      (StudioJob.perform (equipment.speech speaker text (numberedFile dir number)) studio) := by
  have spoken := @speakAs_alike _ equipment acoustics start folder describes
    (studio.noting (.speaking speaker text)) (studio.booth.studio start) agree
    (Disk.AgreeOff.refl _ start) rfl speaker text
  rw [Equipment.speech, StudioJob.perform_bind, StudioJob.perform_modify]
  simp only
  rw [StudioJob.perform_bind, StudioJob.perform_attempt]
  unfold Equipment.speechAudio
  generalize equipment.voice.speakAs speaker text (studio.noting (.speaking speaker text)) = ending
    at spoken ⊢
  generalize equipment.voice.speakAs speaker text (studio.booth.studio start) = other
    at spoken ⊢
  obtain ⟨result, after⟩ := ending
  obtain ⟨resultOther, afterOther⟩ := other
  obtain ⟨same, booths, kept, -⟩ := spoken
  obtain rfl : result = resultOther := same
  cases result with
  | error fault =>
      exact ⟨⟨kept.mono (Set.empty_subset _), nofun, fun _ => ⟨fault, rfl⟩⟩, booths⟩
  | ok content =>
      have agreeAfter := agree.trans (kept.mono (Set.empty_subset _))
      have vacant := fresh.vacant agreeAfter fits
        ((kept.entry _ (Set.notMem_empty _)).symm.trans free)
      have written := attemptOnDisk_works after after rfl rfl _
        (write_yields vacant
          (describes.writes _ agreeAfter _ _ content (Disk.numbered_mem_below _ _) vacant)
          (.voice <| .notWritten (numberedFile dir number) ·))
      simp only [Except.toOption]
      exact ⟨written.yields.after (kept.mono (Set.empty_subset _)), written.booth.trans booths⟩

theorem effect_works (fresh : start.IsEmptyFolder dir folder)
    (describes : acoustics.Describes equipment start folder)
    (agree : start.AgreeOff (Disk.below folder) studio.disk) (fits : Disk.Fits dir number)
    (free : studio.disk.entry? (Disk.numbered folder number) = none) (id : String) :
    Works (equipment.effectAudio acoustics start id, studio.booth) (Disk.numbered folder number)
      studio (StudioJob.perform (equipment.effect id (numberedFile dir number)) studio) := by
  have vacant := fresh.vacant agree fits free
  rw [Equipment.effect, StudioJob.perform_bind, StudioJob.perform_modify]
  simp only
  rw [StudioJob.perform_bind, StudioJob.perform_get]
  simp only [Studio.noting_disk]
  rw [describes.finds _ agree id]
  unfold Equipment.effectAudio
  cases found : equipment.assets id start with
  | none => exact ⟨yields_none _ _ (.effectNotFound id), rfl⟩
  | some asset =>
      have reads := Disk.read_congr (describes.opens _ agree id asset found)
      simp only [← reads]
      refine attemptOnDisk_works studio (studio.noting (.insertingEffect id)) rfl rfl _ ?_
      rw [Mixer.place]
      by_cases wave : asset.isWave = true
      · rw [if_pos wave, if_pos wave]
        exact copy_yields vacant asset.path fun content =>
          describes.copies _ agree _ _ _ content (Disk.numbered_mem_below _ _) vacant
      · rw [if_neg wave, if_neg wave]
        exact describes.converts _ agree _ _ _ vacant

theorem runFilter_apply (vacant : disk.Vacant output location) (launcher : Launcher)
    (program input : Path) :
    runFilter launcher program input output disk =
      match launcher program { arguments := [input.text, output.text] } disk with
      | .error .notFound => (.ok (.unavailable .notFound), disk)
      | .error .permissionDenied => (.ok (.unavailable .permissionDenied), disk)
      | .error error => (.error (.audio (.filterNotStarted program error)), disk)
      | .ok (outcome, changed) =>
        if outcome.status.succeeded then (.ok .success, changed)
        else (.ok (.failed (outcome.status.message ++ ": " ++ outcome.complaint)), changed) := by
  exact task_bind_ok _ vacant.room

/-- Every way in which a filter program may end leaves what the acoustics say. -/
theorem programFilter_works (describes : acoustics.Describes equipment start folder)
    (agree : start.AgreeOff (Disk.below folder) studio.disk)
    (inside : location ∈ Disk.below folder) (vacant : studio.disk.Vacant output location)
    {id : String} {program input : Path} {part : ByteArray}
    (offered : equipment.programFor? id start = some program)
    (heard : studio.disk.read input = .ok part) :
    Works (acoustics.passed program part, studio.booth) location studio
      (StudioJob.perform (equipment.programFilter program input output)
        (studio.noting (.applyingFilter id))) := by
  have copied := copy_yields vacant input fun content =>
    describes.copies _ agree _ _ _ content inside vacant
  rw [heard] at copied
  rw [Equipment.programFilter, StudioJob.perform_bind, StudioJob.perform_attemptOnDisk,
    Studio.noting_disk, runFilter_apply vacant]
  unfold Acoustics.passed
  cases ended : acoustics.program program part with
  | error error =>
      rw [describes.refuses _ agree id program input output location part error offered heard
        vacant ended]
      cases error with
      | notFound =>
          simp only
          rw [StudioJob.perform_bind, StudioJob.perform_modify]
          exact attemptOnDisk_works studio
            ((studio.noting (.applyingFilter id)).noting
              (.filterUnavailable program OsError.notFound.message)) rfl rfl _ copied
      | permissionDenied =>
          simp only
          rw [StudioJob.perform_bind, StudioJob.perform_modify]
          exact attemptOnDisk_works studio
            ((studio.noting (.applyingFilter id)).noting
              (.filterUnavailable program OsError.permissionDenied.message)) rfl rfl _ copied
      | _ => exact ⟨yields_none _ _ _, rfl⟩
  | ok ending =>
      obtain ⟨status, made⟩ := ending
      obtain ⟨outcome, after, launched, rfl, frame, wrote⟩ :=
        describes.runs _ agree id program input output location part status made offered heard
          vacant ended
      rw [launched]
      cases succeeded : outcome.status.succeeded with
      | true =>
          simp only [succeeded, if_true]
          refine ⟨⟨frame, ?_, nofun⟩, rfl⟩
          intro bytes equal
          cases equal
          exact ⟨rfl, wrote succeeded⟩
      | false =>
          simp only [succeeded, Bool.false_eq_true, if_false]
          exact ⟨⟨frame, nofun, fun _ => ⟨_, rfl⟩⟩, rfl⟩

theorem filtered_works (fresh : start.IsEmptyFolder dir folder)
    (describes : acoustics.Describes equipment start folder)
    (agree : start.AgreeOff (Disk.below folder) studio.disk) (fits : Disk.Fits dir number)
    (free : studio.disk.entry? (Disk.numbered folder number) = none) (id : String) (input : Path)
    (part : ByteArray) (heard : studio.disk.read input = .ok part) :
    Works (equipment.filteredAudio acoustics start id part, studio.booth)
      (Disk.numbered folder number) studio
      (StudioJob.perform (equipment.filtered id input (numberedFile dir number)) studio) := by
  have vacant := fresh.vacant agree fits free
  have copied := copy_yields vacant input fun content =>
    describes.copies _ agree _ _ _ content (Disk.numbered_mem_below _ _) vacant
  rw [heard] at copied
  rw [Equipment.filtered, StudioJob.perform_bind, StudioJob.perform_modify]
  simp only
  rw [StudioJob.perform_bind, StudioJob.perform_get]
  simp only [Studio.noting_disk]
  rw [describes.offers _ agree id]
  unfold Equipment.filteredAudio
  cases offered : equipment.programFor? id start with
  | none =>
      simp only [Equipment.builtInFilter]
      cases Preset.find? id with
      | none =>
          simp only
          rw [StudioJob.perform_bind, StudioJob.perform_modify]
          exact attemptOnDisk_works studio
            ((studio.noting (.applyingFilter id)).noting (.filterUnknown id)) rfl rfl _ copied
      | some preset =>
          exact attemptOnDisk_works studio (studio.noting (.applyingFilter id)) rfl rfl _
            (describes.applies _ agree preset _ _ _ part heard vacant)
  | some program =>
      exact programFilter_works describes agree (Disk.numbered_mem_below folder number) vacant offered
        heard

end Work

end SpokenMarkup
