import SpokenMarkup.Proofs.Speech.Loading
import SpokenMarkup.Proofs.Studio.Provenance
import SpokenMarkup.Proofs.Studio.Reach

set_option autoImplicit false

namespace SpokenMarkup

section Programs

variable {launcher : Launcher} {output : Path} {disk after : Disk}

theorem Ffmpeg.produce_writes {ffmpeg : Ffmpeg} {work : List String}
    (writes : ∀ before outcome later,
      launcher ffmpeg.program { arguments := ffmpeg.arguments work output } before =
        .ok (outcome, later) → Disk.Writes output before later) (disk : Disk) :
    Disk.Writes output disk (ffmpeg.produce launcher work output disk).2 := by
  have room := (disk.makeRoom_grows_way output).writes
  rw [produce, task_bind]
  generalize FileTask.makeRoom output disk = ending at room ⊢
  obtain ⟨_ | _, between⟩ := ending
  · exact room
  · dsimp only
    cases started :
        launcher ffmpeg.program { arguments := ffmpeg.arguments work output } between with
    | error error => exact room
    | ok run =>
        obtain ⟨outcome, later⟩ := run
        have changed := room.trans (writes _ _ _ started)
        dsimp only
        split
        · exact changed
        · exact changed

theorem Ffmpeg.produce_ok {ffmpeg : Ffmpeg} {work : List String}
    (room : FileTask.makeRoom output disk = (.ok (), disk))
    (done : ffmpeg.produce launcher work output disk = (.ok (), after)) :
    ∃ outcome, launcher ffmpeg.program { arguments := ffmpeg.arguments work output } disk =
      .ok (outcome, after) ∧ outcome.status.succeeded = true := by
  rw [produce, task_bind_ok _ room] at done
  cases started : launcher ffmpeg.program { arguments := ffmpeg.arguments work output } disk with
  | error error =>
      rw [started] at done
      cases done
  | ok run =>
      obtain ⟨outcome, later⟩ := run
      rw [started] at done
      dsimp only at done
      split at done
      · rename_i well
        obtain ⟨-, rfl⟩ := Prod.mk.inj done
        exact ⟨outcome, rfl, well⟩
      · cases done

namespace Settings

variable {settings : Settings} {host : Host} {content : ByteArray}
  {happened : Studio LoadedVoice → Studio LoadedVoice → Prop}

/-- The programs do what they are run for: that for the voice prints and leaves all files alone, and
`ffmpeg` writes the file that is the last of its arguments. -/
structure Tidy (settings : Settings) (launcher : Launcher) : Prop where
  speaks : ∀ call disk outcome after,
    launcher settings.voiceProgram call disk = .ok (outcome, after) → Disk.AgreeOff ∅ disk after
  mixes : ∀ (work : List String) (output : Path) disk outcome after,
    launcher settings.ffmpeg { arguments := work ++ [output.text] } disk = .ok (outcome, after) →
      Disk.Writes output disk after

/-- Audio that `ffmpeg` left at its output in a run that ended well, told to make it mono and of the
sample rate that is set. -/
def Conforms (settings : Settings) (launcher : Launcher)
    (happened : Studio LoadedVoice → Studio LoadedVoice → Prop)
    (content : ByteArray) : Prop :=
  ∃ (work : List String) (output : Path) (outcome : Outcome)
    (before after : Studio LoadedVoice), happened before after ∧
    launcher settings.ffmpeg { arguments := work ++ ["-ar", toString settings.sampleRate,
      "-ac", "1", "-c:a", "pcm_s16le", output.text] } before.disk = .ok (outcome, after.disk) ∧
    outcome.status.succeeded = true ∧ after.disk.read output = .ok content

/-- Audio that the voice program printed for a text in a run that ended well. -/
def Printed (settings : Settings) (launcher : Launcher)
    (happened : Studio LoadedVoice → Studio LoadedVoice → Prop)
    (text : String) (content : ByteArray) : Prop :=
  ∃ (model : Path) (outcome : Outcome) (before after : Studio LoadedVoice),
    happened before after ∧
    launcher settings.voiceProgram ⟨[model.text], text.toUTF8⟩ before.disk =
      .ok (outcome, after.disk) ∧
    outcome.status.succeeded = true ∧ outcome.output = content

theorem Tidy.produces (tidy : settings.Tidy launcher) (work : List String) (output : Path)
    (disk : Disk) : Disk.Writes output disk
      (Ffmpeg.produce ⟨settings.ffmpeg, settings.sampleRate⟩ launcher work output disk).2 := by
  refine Ffmpeg.produce_writes ?_ disk
  intro before outcome later started
  refine tidy.mixes (["-y", "-loglevel", "error"] ++ work ++ ["-ar", toString settings.sampleRate,
    "-ac", "1", "-c:a", "pcm_s16le"]) output before outcome later ?_
  rw [← started]
  simp [Ffmpeg.arguments]

theorem activate_disk (speaker : String) (loaded : LoadedVoice) (disk : Disk) :
    ((settings.equipment launcher host).voice.activate speaker loaded disk).2.2 = disk := by
  simp only [equipment, SpeechProgram.voice]
  split <;> rfl

theorem Tidy.writesOutputs (tidy : settings.Tidy launcher) :
    (settings.equipment launcher host).withoutPrograms.WritesOutputs where
  activates speaker loaded disk := by
    change Disk.AgreeOff ∅ disk
      ((settings.equipment launcher host).voice.activate speaker loaded disk).2.2
    rw [activate_disk]
    exact Disk.AgreeOff.refl _ _
  utters text loaded disk := by
    change Disk.AgreeOff ∅ disk
      ((settings.equipment launcher host).voice.utter text loaded disk).2.2
    obtain ⟨speaker, _ | model⟩ := loaded
    · exact Disk.AgreeOff.refl _ _
    · simp only [equipment, SpeechProgram.voice, SpeechProgram.speakWith]
      cases started : launcher settings.voiceProgram ⟨[model.text], text.toUTF8⟩ disk with
      | error error => exact Disk.AgreeOff.refl _ _
      | ok run => exact tidy.speaks _ _ _ _ started
  joins inputs output disk := by
    change Disk.Writes output disk (Ffmpeg.join _ launcher host inputs output disk).2
    rcases inputs with _ | ⟨only, _ | ⟨second, rest⟩⟩
    · exact Disk.Writes.refl _ _
    · exact writes_after_room (Disk.saves_copy host only output) disk
    · exact tidy.produces _ _ _
  applies preset input output disk := tidy.produces _ _ _
  converts input output disk := tidy.produces _ _ _
  runs program input output disk outcome after impossible := by cases impossible

theorem conforms_of_mixed (mixed : (settings.equipment launcher host).Mixed happened content) :
    settings.Conforms launcher happened content := by
  obtain ⟨output, task, before, after, makes, occurred, room, done, read⟩ := mixed
  have produced : ∃ work, task =
      Ffmpeg.produce ⟨settings.ffmpeg, settings.sampleRate⟩ launcher work output := by
    cases makes with
    | @join inputs several =>
        match inputs, several with
        | first :: second :: rest, _ => exact ⟨_, rfl⟩
    | preset preset input => exact ⟨_, rfl⟩
    | convert input => exact ⟨_, rfl⟩
  obtain ⟨work, rfl⟩ := produced
  obtain ⟨outcome, started, well⟩ := Ffmpeg.produce_ok room done
  exact ⟨_, output, outcome, before, after, occurred, started, well, read⟩

theorem utter_ok {text : String} {loaded : LoadedVoice}
    (heard : ((settings.equipment launcher host).voice.utter text loaded disk).1 = .done content) :
    ∃ (model : Path) (outcome : Outcome),
      launcher settings.voiceProgram ⟨[model.text], text.toUTF8⟩ disk =
        .ok (outcome, ((settings.equipment launcher host).voice.utter text loaded disk).2.2) ∧
      outcome.status.succeeded = true ∧ outcome.output = content := by
  obtain ⟨speaker, _ | model⟩ := loaded
  · cases heard
  · simp only [equipment, SpeechProgram.voice] at heard ⊢
    rcases run : SpeechProgram.speakWith ⟨settings.voiceProgram, settings.modelsDir⟩ launcher
      model text disk with ⟨fault | printed, later⟩
    · rw [run] at heard
      cases heard
    · rw [run] at heard
      cases heard
      obtain ⟨outcome, started, well, -, same, -⟩ :=
        (SpeechProgram.speakWith_eq_ok_iff model disk).mp (congrArg Prod.fst run)
      rw [run] at started
      exact ⟨model, outcome, started, decide_eq_true well, same⟩

theorem printed_of_spoken {speaker text : String}
    (spoken : (settings.equipment launcher host).Spoken happened speaker text content) :
    settings.Printed launcher happened text content := by
  obtain ⟨before, after, occurred, said⟩ := spoken
  suffices uttered : ∃ studio : Studio LoadedVoice, studio.disk = before.disk ∧
      Studio.call ((settings.equipment launcher host).voice.utter text) studio = (.ok content, after) by
    obtain ⟨studio, same, heard⟩ := uttered
    obtain ⟨done, changed⟩ := call_ok heard
    obtain ⟨model, outcome, started, well, printed⟩ := utter_ok done
    rw [← changed, same] at started
    exact ⟨model, outcome, before, after, occurred, started, well, printed⟩
  rw [speakAs_apply] at said
  split at said
  · cases said
  · split at said
    · exact ⟨before, rfl, said⟩
    · cases loaded : Studio.call ((settings.equipment launcher host).voice.activate speaker)
          (before.noting (.speakerSwitched speaker)) with
      | mk result between =>
          rw [loaded] at said
          cases result with
          | error fault => cases said
          | ok value => exact ⟨between, (call_ok loaded).2.trans (activate_disk _ _ _), said⟩

end Settings

end Programs

section Quiet

variable {V : Type} {session : Session V} {before after : Disk}

/-- No file in the folder for filter programs, which is not where a render makes its files. -/
structure Session.Unprogrammed (session : Session V) (disk : Disk) : Prop where
  bare : ∀ name content mode,
    disk.entry? (name :: disk.place session.equipment.filtersDir) ≠ some (.file content mode)
  apart : ∀ number,
    disk.place (session.scratchDir number) ≠ disk.place session.equipment.filtersDir

theorem Session.Unprogrammed.programFor?_eq_none (unprogrammed : session.Unprogrammed before)
    (id : String) : session.equipment.programFor? id before = none := by
  unfold Equipment.programFor?
  dsimp only
  split
  · rename_i found
    obtain ⟨plain, file⟩ := Bool.and_eq_true _ _ ▸ found
    obtain ⟨nonempty, notDot, notDots, noSlash, -, -⟩ := (Path.isPlainName_iff _).mp plain
    obtain ⟨⟨content, mode⟩, opened⟩ := (Disk.isFile_iff _ _).mp file
    obtain ⟨-, -, held⟩ := Disk.openFile_eq_some.mp opened
    rw [Disk.place_join before _ nonempty noSlash notDot notDots] at held
    exact absurd held (unprogrammed.bare id content mode)
  · rfl

theorem Session.Unprogrammed.later (unprogrammed : session.Unprogrammed before)
    (home : before.home = after.home)
    (grown : ∀ name, after.entry? (name :: before.place session.equipment.filtersDir) =
        before.entry? (name :: before.place session.equipment.filtersDir) ∨
      after.entry? (name :: before.place session.equipment.filtersDir) = some .directory) :
    session.Unprogrammed after := by
  refine ⟨?_, ?_⟩
  · intro name content mode held
    rw [Disk.place_congr home] at held
    rcases grown name with same | made
    · exact unprogrammed.bare name content mode (same ▸ held)
    · rw [made] at held
      cases held
  · intro number
    rw [Disk.place_congr home, Disk.place_congr home]
    exact unprogrammed.apart number

theorem act_unprogrammed (writes : session.equipment.WritesOutputs) {number : Nat} {β : Type}
    {act : Studio V → β × Studio V} {alike : β → β → Prop}
    (listed : session.equipment.Act (session.scratchDir number) β act alike) (studio : Studio V)
    (unprogrammed : session.Unprogrammed studio.disk) :
    session.Unprogrammed (act studio).2.disk := by
  refine act_keeps writes session.Unprogrammed ?_ ?_ listed studio unprogrammed
  · intro before after agree unprogrammed
    exact unprogrammed.later agree.home fun _ => Or.inl (agree.entry _ (Set.notMem_empty _)).symm
  · intro file α task listed disk unprogrammed
    have written := task_writes writes listed disk
    refine unprogrammed.later written.home fun name => ?_
    have elsewhere : name :: disk.place session.equipment.filtersDir ≠
        disk.place (numberedFile (session.scratchDir number) file) := by
      rw [place_numberedFile]
      exact fun same => unprogrammed.apart number (List.cons.inj same).2.symm
    exact (written.elsewhere _ elsewhere).imp_right fun grown => grown.2.2

theorem makeScratch_unprogrammed (number : Nat) (studio : Studio V)
    (unprogrammed : session.Unprogrammed studio.disk) :
    session.Unprogrammed (session.makeScratch number studio).2.disk := by
  have grows := (session.makesRoom number studio.disk).grows
  rw [Session.makeScratch_apply]
  dsimp only
  exact unprogrammed.later grows.home fun name => (grows.entry _).imp_right fun grown => grown.2.2

/-- Where there are no filter programs when a render starts, it finds none. -/
theorem record_unprogrammed (writes : session.equipment.WritesOutputs) {markup : String}
    {start whole : Studio V} {later : Job (Studio V) (Except Fault Take)}
    (unprogrammed : session.Unprogrammed start.disk)
    (steps : Job.Steps (session.record markup).run start later whole) :
    session.Unprogrammed whole.disk := by
  have made : Job.MadeOf (fun β (act : Studio V → β × Studio V) _ => ∀ studio : Studio V,
      session.Unprogrammed studio.disk → session.Unprogrammed (act studio).2.disk)
      (session.record markup).run fun _ => True := by
    refine record_made session markup (fun event studio holds => holds) (fun studio holds => holds)
      ?_ ?_
    · exact fun number studio holds => makeScratch_unprogrammed number studio holds
    · intro number β act alike listed
      exact ⟨alike, act_unprogrammed writes listed, fun _ _ same => same⟩
  exact made.holds (fun _ _ impossible => impossible.elim) (fun β act alike listed => listed)
    unprogrammed (Job.steps_iff_amid.mp steps)

end Quiet

/--
What the artifact of a render holds, whatever the markup and the format of what the voice program
prints and of the sound effects. With the programs that the settings name, and no filter programs,
`ffmpeg` made it in a run for mono audio of the sample rate that is set; or else it was passed on as
the voice program printed it for one text, or as it was found in one wave file, and all that was
done on the way from there was to leave out parts that have no audio and filters that are unknown.
-/
theorem artifact_conforms_or_is_unaltered (settings : Settings) (launcher : Launcher)
    (host : Host) (process : Nat) (markup : String) (tidy : settings.Tidy launcher)
    (start after : Studio LoadedVoice) (take : Take) (artifact : Path)
    (content : ByteArray) :
    let session : Session LoadedVoice := ⟨settings, settings.equipment launcher host, process⟩
    (∀ later whole, Job.Steps (session.record markup).run start later whole →
      ∀ id, session.equipment.programFor? id whole.disk = none) →
    Job.Steps (session.record markup).run start (.done (.ok take)) after →
    take.artifact = some artifact → after.disk.read artifact = .ok content →
    ∃ before rendition rendered,
      Job.Steps (session.rendering take.scratch markup) before (.done rendition) rendered ∧
      rendition.audio = some artifact ∧ rendered.disk = after.disk ∧
      (∀ later middle, Job.Steps (session.rendering take.scratch markup) before later middle →
        ∃ whole, Job.Steps (session.record markup).run start whole middle) ∧
      let happened := Job.Occurs (session.rendering take.scratch markup) before rendition rendered
      settings.Conforms launcher happened content ∨
        Unaltered (fun _ text => settings.Printed launcher happened text)
          (session.equipment.Recorded happened) (session.tree markup) rendition content := by
  intro session quiet steps audible read
  obtain ⟨before, rendition, rendered, folder, housed, renders, same, disk, follows⟩ :=
    record_renders steps
  rw [audible] at same
  refine ⟨before, rendition, rendered, renders, same.symm, disk.symm, follows, ?_⟩
  intro happened
  have unprogrammed : ∀ seen, happened seen seen →
      ∀ id, session.equipment.programFor? id seen.disk = none := by
    rintro seen ⟨earlier, -, reached, -, -⟩
    obtain ⟨whole, reachedToo⟩ := follows earlier seen reached
    exact quiet whole seen reachedToo
  have vouched : Vouched take.scratch folder Set.univ
      (vouchersIn 0 (0 + (session.tree markup).size)) before before :=
    ⟨rfl, housed, fun voucher lost => absurd (Set.mem_univ voucher) lost, Set.subset_univ _⟩
  obtain ⟨lost, free, other, -, twins, names, earned, -, -⟩ :=
    (rendering_vouched tidy.writesOutputs unprogrammed).steps renders (fun _ _ occurred => occurred)
      (fun _ impossible => absurd impossible (Set.notMem_empty _)) (subset_refl _) vouched
  obtain rfl := names artifact same.symm
  have known : ⟨0, session.equipment.Sounds happened (session.tree markup) rendition⟩ ∉ lost :=
    earned _ ⟨by rw [← same]; exact nofun, rfl⟩
  rw [disk] at read
  rcases twins.holds _ known content read with mixed | unaltered
  · exact Or.inl (Settings.conforms_of_mixed mixed)
  · exact Or.inr (unaltered.mono (fun _ _ _ spoken => Settings.printed_of_spoken spoken)
      fun _ _ recorded => recorded)

namespace Plain

/-- A voice program that prints the text it is given, and an `ffmpeg` that writes the same audio to
its output whatever it is given. -/
def desk : Launcher := fun program call disk =>
  if program = ⟨"ffmpeg"⟩ then
    match Host.write {} ⟨call.arguments.getLastD ""⟩ "mixed".toUTF8 disk with
    | (.ok (), changed) => .ok ({ status := .exited 0 }, changed)
    | (.error _, changed) => .ok ({ status := .exited 1 }, changed)
  else .ok ({ status := .exited 0, output := call.input }, disk)

theorem desk_writes (program : Path) (work : List String) (output : Path) {disk after : Disk}
    {outcome : Outcome}
    (started : desk program { arguments := work ++ [output.text] } disk = .ok (outcome, after)) :
    Disk.Writes output disk after := by
  have saves := Disk.saves_write {} output "mixed".toUTF8 disk
  unfold desk at started
  simp only [List.getLastD_concat] at started
  split at started
  · split at started
    all_goals
      rename_i written
      rw [written] at saves
      cases started
      rcases saves with ⟨error, refused⟩ | saved
      · cases refused <;> exact Disk.Writes.refl _ _
      · exact (Disk.Writes.refl _ _).saved saved
  · cases started
    exact Disk.Writes.refl _ _

theorem desk_tidy : Settings.Tidy {} desk where
  speaks call disk outcome after started := by
    cases started
    exact Disk.AgreeOff.refl _ _
  mixes work output disk outcome after started := desk_writes _ work output started

theorem desk_writesOutputs : (Settings.equipment {} desk {}).WritesOutputs :=
  { desk_tidy.writesOutputs with
    runs := fun _ input output _ _ _ started => desk_writes _ [input.text] output started }

theorem desk_conforms
    {happened : Studio LoadedVoice → Studio LoadedVoice → Prop}
    {content : ByteArray} (conforms : Settings.Conforms {} desk happened content) :
    content = "mixed".toUTF8 := by
  obtain ⟨work, output, outcome, before, after, -, started, well, read⟩ := conforms
  rw [show work ++ ["-ar", toString (Settings.sampleRate {}), "-ac", "1", "-c:a", "pcm_s16le",
    output.text] = (work ++ ["-ar", toString (Settings.sampleRate {}), "-ac", "1", "-c:a",
    "pcm_s16le"]) ++ [output.text] by simp] at started
  unfold desk at started
  simp only [List.getLastD_concat] at started
  split at started
  · split at started
    · rename_i changed written
      obtain ⟨-, same⟩ := Prod.mk.inj (Except.ok.inj started)
      rw [same] at written
      have wrote := Disk.write_wrote {} output "mixed".toUTF8 before.disk
      rw [written] at wrote
      obtain ⟨writable, mode, stored⟩ := wrote.of_done
      rw [stored] at read
      exact Disk.read_put writable.proper read
    · obtain ⟨rfl, -⟩ := Prod.mk.inj (Except.ok.inj started)
      cases well
  · rename_i other
    exact absurd trivial other

theorem parlour_unprogrammed :
    Session.Unprogrammed ⟨{}, Settings.equipment {} desk {}, 1⟩ parlour.disk := by
  have filters : parlour.disk.place ⟨"sound-filters"⟩ = ["sound-filters", "work"] := by
    decide +kernel
  have scratch : parlour.disk.place ⟨".buffer"⟩ = [".buffer", "work"] := by decide +kernel
  refine ⟨?_, ?_⟩
  · intro name content mode
    change parlour.disk.entry? (name :: parlour.disk.place ⟨"sound-filters"⟩) ≠ _
    rw [filters]
    simp [parlour, Disk.entry?, List.lookup_cons]
  · intro number
    rw [Session.place_scratchDir]
    change _ :: parlour.disk.place ⟨".buffer"⟩ ≠ parlour.disk.place ⟨"sound-filters"⟩
    rw [filters, scratch]
    simp

end Plain

/-- A part with a filter that is known is there besides another one: `ffmpeg` made the audio. -/
theorem artifact_conforms_or_is_unaltered_in_parlour :
    let session : Session LoadedVoice := ⟨{}, Settings.equipment {} Plain.desk {}, 1⟩
    let ending := (session.record "a:hi{1}yo{.}").run.run Plain.parlour
    let artifact : Path := ⟨".buffer/render-1-0000/000.wav"⟩
    ending.1 = .ok ⟨⟨".buffer/render-1-0000"⟩, some artifact⟩ ∧
      ending.2.disk.read artifact = .ok "mixed".toUTF8 ∧
      ∃ rendition happened, Settings.Conforms {} Plain.desk happened "mixed".toUTF8 ∨
        Unaltered (fun _ text => Settings.Printed {} Plain.desk happened text)
          (session.equipment.Recorded happened) (session.tree "a:hi{1}yo{.}") rendition
          "mixed".toUTF8 := by
  have holds := artifact_conforms_or_is_unaltered {} Plain.desk {} 1 "a:hi{1}yo{.}" Plain.desk_tidy
    Plain.parlour
  have quiet := fun later whole => @record_unprogrammed _ _ Plain.desk_writesOutputs
    "a:hi{1}yo{.}" Plain.parlour whole later Plain.parlour_unprogrammed
  have told :
      let session : Session LoadedVoice := ⟨{}, Settings.equipment {} Plain.desk {}, 1⟩
      let ending := (session.record "a:hi{1}yo{.}").run.run Plain.parlour
      let artifact : Path := ⟨".buffer/render-1-0000/000.wav"⟩
      ending.1.toOption = some ⟨⟨".buffer/render-1-0000"⟩, some artifact⟩ ∧
      (ending.2.disk.read artifact).toOption = some "mixed".toUTF8 := by
    decide +kernel
  dsimp only at holds told ⊢
  -- the job stays closed from here on
  generalize ExceptT.run (Session.record _ _) = job at holds quiet told ⊢
  have steps := Job.steps_iff_amid.mpr (Job.amid_run job Plain.parlour)
  generalize job.run Plain.parlour = ending at steps told ⊢
  obtain ⟨result, after⟩ := ending
  obtain rfl := eq_ok_of_toOption told.1
  have read := eq_ok_of_toOption told.2
  obtain ⟨_, rendition, _, -, -, -, -, sounds⟩ := holds after _ _ _
    (fun later whole reached => (quiet later whole reached).programFor?_eq_none) steps rfl read
  exact ⟨rfl, read, rendition, _, sounds⟩

/-- A text that is all there is to hear is not made to conform: the audio is what the voice program
printed, which is nothing that `ffmpeg` ever leaves. -/
theorem lone_text_does_not_conform :
    let session : Session LoadedVoice := ⟨{}, Settings.equipment {} Plain.desk {}, 1⟩
    let ending := (session.record "a:hi").run.run Plain.parlour
    let artifact : Path := ⟨".buffer/render-1-0000/000.wav"⟩
    Settings.Tidy {} Plain.desk ∧
      (∀ later whole, Job.Steps (session.record "a:hi").run Plain.parlour later whole →
        ∀ id, session.equipment.programFor? id whole.disk = none) ∧
      Job.Steps (session.record "a:hi").run Plain.parlour (.done ending.1) ending.2 ∧
      ending.1 = .ok ⟨⟨".buffer/render-1-0000"⟩, some artifact⟩ ∧
      ending.2.disk.read artifact = .ok "hi".toUTF8 ∧
      ¬ Settings.Conforms {} Plain.desk (fun _ _ => True) "hi".toUTF8 := by
  have quiet := fun later whole => @record_unprogrammed _ _ Plain.desk_writesOutputs "a:hi"
    Plain.parlour whole later Plain.parlour_unprogrammed
  have told :
      let session : Session LoadedVoice := ⟨{}, Settings.equipment {} Plain.desk {}, 1⟩
      let ending := (session.record "a:hi").run.run Plain.parlour
      let artifact : Path := ⟨".buffer/render-1-0000/000.wav"⟩
      ending.1.toOption = some ⟨⟨".buffer/render-1-0000"⟩, some artifact⟩ ∧
      (ending.2.disk.read artifact).toOption = some "hi".toUTF8 := by
    decide +kernel
  have other : "hi".toUTF8 ≠ "mixed".toUTF8 := by decide
  dsimp only at told ⊢
  -- the job stays closed from here on
  generalize ExceptT.run (Session.record _ _) = job at quiet told ⊢
  refine ⟨Plain.desk_tidy,
    fun later whole reached => (quiet later whole reached).programFor?_eq_none,
    Job.steps_iff_amid.mpr (Job.amid_run job Plain.parlour), eq_ok_of_toOption told.1,
    eq_ok_of_toOption told.2, fun conforms => other (Plain.desk_conforms conforms)⟩

end SpokenMarkup
