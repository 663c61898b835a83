import SpokenMarkup.Proofs.Studio.Plain

set_option autoImplicit false

namespace SpokenMarkup

variable {V : Type} {equipment : Equipment V} {acoustics : Acoustics} {start : Disk} {dir : Path}
  {folder : Location} {number : Nat}

open Disk (numbered numberedIn)

/-- What rendering a tree with the numbers from `first` up to `last` comes to. -/
structure Rendered (dir : Path) (folder : Location) (first last : Nat)
    (audio : Option ByteArray × Booth V) (before : Studio V) (ending : Rendition × Studio V) :
    Prop where
  frame : before.disk.AgreeOff (numberedIn folder first last) ending.2.disk
  booth : ending.2.booth = audio.2
  heard : ∀ bytes, audio.1 = some bytes → ending.1.audio = some (numberedFile dir first) ∧
    ∃ executable, Disk.entry? ending.2.disk (numbered folder first) = some (.file bytes executable)
  silent : audio.1 = none → ending.1.audio = none

structure RenderedAll (dir : Path) (folder : Location) (first last : Nat)
    (audio : List ByteArray × Booth V) (before : Studio V) (ending : List Rendition × Studio V) :
    Prop where
  frame : before.disk.AgreeOff (numberedIn folder first last) ending.2.disk
  booth : ending.2.booth = audio.2
  heard : ∃ survivors : List Nat, (∀ survivor ∈ survivors, first ≤ survivor ∧ survivor < last) ∧
    ending.1.filterMap (·.audio) = survivors.map (numberedFile dir) ∧
    List.Forall₂ (fun survivor bytes => ∃ executable,
      Disk.entry? ending.2.disk (numbered folder survivor) = some (.file bytes executable))
      survivors audio.1

theorem Disk.IsEmptyFolder.read_numberedFile {disk : Disk} (fresh : start.IsEmptyFolder dir folder)
    (agree : start.AgreeOff (Disk.below folder) disk) (fits : Disk.Fits dir number)
    {bytes : ByteArray} {executable : Bool}
    (held : disk.entry? (numbered folder number) = some (.file bytes executable)) :
    disk.read (numberedFile dir number) = .ok bytes := by
  simp [Disk.read, Disk.openFile, fresh.locate_of_fits agree fits, held,
    fresh.endsWithSlash_numberedFile, bind, Except.bind]

theorem Disk.IsEmptyFolder.read_numberedFiles {disk : Disk} (fresh : start.IsEmptyFolder dir folder)
    (agree : start.AgreeOff (Disk.below folder) disk) {survivors : List Nat}
    {parts : List ByteArray} (fits : ∀ survivor ∈ survivors, Disk.Fits dir survivor)
    (contents : List.Forall₂ (fun survivor bytes => ∃ executable,
      disk.entry? (numbered folder survivor) = some (.file bytes executable)) survivors parts) :
    (survivors.map (numberedFile dir)).map disk.read = parts.map .ok := by
  induction contents with
  | nil => rfl
  | cons held rest ih =>
      obtain ⟨executable, held⟩ := held
      rw [List.map_cons, List.map_cons, List.map_cons,
        fresh.read_numberedFile agree (fits _ List.mem_cons_self) held,
        ih fun survivor member => fits survivor (List.mem_cons_of_mem _ member)]

theorem conclude_run (target : Path) (parts : List Rendition) (work : StudioJob V Bool)
    (studio : Studio V) :
    (Equipment.conclude target parts work).run studio =
      match StudioJob.perform work studio with
      | (.ok true, after) => (⟨some target, parts⟩, after)
      | (.ok false, after) => (⟨none, parts⟩, after)
      | (.error fault, after) => (⟨none, parts⟩, after.noting (.nodeDropped target fault)) := by
  rw [Equipment.conclude, Job.run_bind]
  unfold StudioJob.perform
  rcases Job.run (ExceptT.run work) studio with ⟨result, after⟩
  cases result with
  | error fault => rfl
  | ok audible => cases audible <;> rfl

theorem conclude_rendered (dir : Path) {audio : Option ByteArray × Booth V} {studio : Studio V}
    {work : StudioJob V Unit} (parts : List Rendition)
    (works : Works audio (numbered folder number) studio (StudioJob.perform work studio)) :
    Rendered dir folder number (number + 1) audio studio
      ((Equipment.conclude (numberedFile dir number) parts (do work; pure true)).run studio) := by
  have inside : {numbered folder number} ⊆ numberedIn folder number (number + 1) := by
    intro location single
    rw [single]
    exact Disk.numbered_mem_numberedIn_iff.mpr ⟨Nat.le_refl _, Nat.lt_succ_self _⟩
  rw [conclude_run, StudioJob.perform_bind]
  generalize StudioJob.perform work studio = ending at works ⊢
  obtain ⟨result, after⟩ := ending
  obtain ⟨⟨frame, made, failed⟩, booth⟩ := works
  cases result with
  | ok value =>
      refine ⟨frame.mono inside, booth, ?_, ?_⟩
      · intro bytes heard
        exact ⟨rfl, (made bytes heard).2⟩
      · intro silent
        obtain ⟨fault, impossible⟩ := failed silent
        cases impossible
  | error fault =>
      refine ⟨frame.mono inside, booth, ?_, fun _ => rfl⟩
      intro bytes heard
      cases (made bytes heard).1

theorem Rendered.after {first last middle : Nat} {audio : Option ByteArray × Booth V}
    {before between : Studio V} {ending : Rendition × Studio V} (above : middle ≤ last)
    (frame : before.disk.AgreeOff (numberedIn folder first last) between.disk)
    (rendered : Rendered dir folder first middle audio between ending) :
    Rendered dir folder first last audio before ending :=
  ⟨frame.trans (rendered.frame.mono (Disk.numberedIn_mono (Nat.le_refl _) above)), rendered.booth,
    rendered.heard, rendered.silent⟩

theorem joined_rendered (fresh : start.IsEmptyFolder dir folder)
    (describes : acoustics.Describes equipment start folder) {studio : Studio V}
    (agree : start.AgreeOff (Disk.below folder) studio.disk) (fits : Disk.Fits dir number)
    (free : studio.disk.entry? (numbered folder number) = none) (renditions : List Rendition)
    (files : List Path) (parts : List ByteArray)
    (heard : files.map studio.disk.read = parts.map .ok) :
    Rendered dir folder number (number + 1) (acoustics.joined parts, studio.booth) studio
      ((Equipment.conclude (numberedFile dir number) renditions
        (equipment.joined files (numberedFile dir number))).run studio) := by
  have vacant := fresh.vacant agree fits free
  cases files with
  | nil =>
      cases parts with
      | cons part rest => cases heard
      | nil =>
          rw [conclude_run]
          exact ⟨Disk.AgreeOff.refl _ _, rfl, nofun, fun _ => rfl⟩
  | cons first others =>
      cases parts with
      | nil => cases heard
      | cons part rest =>
          obtain ⟨read, readOthers⟩ := List.cons.inj heard
          cases others with
          | nil =>
              cases rest with
              | cons second rest => cases readOthers
              | nil =>
                  have copied := copy_yields vacant first fun content =>
                    describes.copies _ agree _ _ _ content (Disk.numbered_mem_below _ _) vacant
                  rw [read] at copied
                  exact conclude_rendered dir renditions
                    (attemptOnDisk_works studio studio rfl rfl _ copied)
          | cons second others =>
              cases rest with
              | nil => cases readOthers
              | cons two rest =>
                  have joined := describes.joins _ agree (first :: second :: others) _ _
                    (part :: two :: rest) (by simp) heard vacant
                  exact conclude_rendered dir renditions
                    (attemptOnDisk_works studio studio rfl rfl _ joined)

theorem outside_of_lt {first last : Nat} (early : number < first) :
    numbered folder number ∉ numberedIn folder first last := by
  rw [Disk.numbered_mem_numberedIn_iff]
  omega

/-- A group is rendered once its children are. -/
theorem group_rendered (fresh : start.IsEmptyFolder dir folder)
    (describes : acoustics.Describes equipment start folder) {last : Nat} {studio : Studio V}
    (agree : start.AgreeOff (Disk.below folder) studio.disk) (own : number < last)
    (fits : ∀ later, number ≤ later → later < last → Disk.Fits dir later)
    (free : studio.disk.entry? (numbered folder number) = none)
    {parts : List ByteArray × Booth V} {ending : List Rendition × Studio V}
    (inner : RenderedAll dir folder (number + 1) last parts studio ending) :
    Rendered dir folder number last (acoustics.joined parts.1, parts.2) studio
      ((Equipment.conclude (numberedFile dir number) ending.1
        (equipment.joined (ending.1.filterMap (·.audio)) (numberedFile dir number))).run
          ending.2) := by
  obtain ⟨frame, booth, survivors, ranged, files, contents⟩ := inner
  have agreeAfter := agree.trans (frame.mono (Disk.numberedIn_subset_below _ _ _))
  have freeAfter := (frame.entry _ (outside_of_lt (Nat.lt_succ_self number))).symm.trans free
  have readable : (survivors.map (numberedFile dir)).map ending.2.disk.read = parts.1.map .ok := by
    refine fresh.read_numberedFiles agreeAfter ?_ contents
    intro survivor member
    obtain ⟨lower, upper⟩ := ranged survivor member
    exact fits survivor (by omega) upper
  rw [← files] at readable
  have joined := joined_rendered fresh describes agreeAfter (fits number (Nat.le_refl _) own)
    freeAfter ending.1 _ _ readable
  rw [booth] at joined
  exact joined.after own (frame.mono (Disk.numberedIn_mono (Nat.le_succ _) (Nat.le_refl _)))

theorem filter_rendered (fresh : start.IsEmptyFolder dir folder)
    (describes : acoustics.Describes equipment start folder) {last : Nat} {studio : Studio V}
    (agree : start.AgreeOff (Disk.below folder) studio.disk) (proper : number + 1 < last)
    (fits : ∀ later, number ≤ later → later < last → Disk.Fits dir later)
    (free : studio.disk.entry? (numbered folder number) = none) (id : String)
    {part : Option ByteArray × Booth V} {ending : Rendition × Studio V}
    (inner : Rendered dir folder (number + 1) last part studio ending) :
    Rendered dir folder number last
      (part.1.bind (equipment.filteredAudio acoustics start id), part.2) studio
      (Job.run (match ending.1.audio with
        | none => pure ⟨none, [ending.1]⟩
        | some input => Equipment.conclude (numberedFile dir number) [ending.1] do
          equipment.filtered id input (numberedFile dir number)
          pure true) ending.2) := by
  obtain ⟨frame, booth, heard, silent⟩ := inner
  have wide := frame.mono (Disk.numberedIn_mono (Nat.le_succ number) (Nat.le_refl last))
  cases audible : part.1 with
  | none =>
      rw [silent audible]
      exact ⟨wide, booth, nofun, fun _ => rfl⟩
  | some bytes =>
      obtain ⟨file, executable, held⟩ := heard bytes audible
      have agreeAfter := agree.trans (frame.mono (Disk.numberedIn_subset_below _ _ _))
      have freeAfter := (frame.entry _ (outside_of_lt (Nat.lt_succ_self number))).symm.trans free
      have readable := fresh.read_numberedFile agreeAfter (fits _ (Nat.le_succ _) proper) held
      have works := filtered_works fresh describes agreeAfter
        (fits number (Nat.le_refl _) (by omega)) freeAfter id _ bytes readable
      have filtered := conclude_rendered dir [ending.1] works
      rw [booth] at filtered
      rw [file]
      exact filtered.after (by omega) wide

theorem cons_rendered {first middle last : Nat} {part : Option ByteArray × Booth V}
    {parts : List ByteArray × Booth V} {studio : Studio V} {ending : Rendition × Studio V}
    {endings : List Rendition × Studio V} (early : first < middle) (late : middle ≤ last)
    (one : Rendered dir folder first middle part studio ending)
    (rest : RenderedAll dir folder middle last parts ending.2 endings) :
    RenderedAll dir folder first last (part.1.toList ++ parts.1, parts.2) studio
      (ending.1 :: endings.1, endings.2) := by
  obtain ⟨frame, -, heard, silent⟩ := one
  obtain ⟨frameRest, booth, survivors, ranged, files, contents⟩ := rest
  have framed : studio.disk.AgreeOff (numberedIn folder first last) endings.2.disk :=
    (frame.mono (Disk.numberedIn_mono (Nat.le_refl _) late)).trans
      (frameRest.mono (Disk.numberedIn_mono (Nat.le_of_lt early) (Nat.le_refl _)))
  have rangedAll : ∀ survivor ∈ survivors, first ≤ survivor ∧ survivor < last := by
    intro survivor member
    obtain ⟨lower, upper⟩ := ranged survivor member
    exact ⟨by omega, upper⟩
  cases audible : part.1 with
  | none =>
      refine ⟨framed, booth, survivors, rangedAll, ?_, contents⟩
      rw [List.filterMap_cons_none (silent audible)]
      exact files
  | some bytes =>
      obtain ⟨file, executable, held⟩ := heard bytes audible
      refine ⟨framed, booth, first :: survivors, ?_, ?_, .cons ⟨executable, ?_⟩ contents⟩
      · intro survivor member
        rcases List.mem_cons.mp member with rfl | later
        · exact ⟨Nat.le_refl _, Nat.lt_of_lt_of_le early late⟩
        · exact rangedAll survivor later
      · rw [List.filterMap_cons_some file, List.map_cons, files]
      · rw [← frameRest.entry _ (outside_of_lt early)]
        exact held

mutual

/-- Any tree, rendered into files that are not there yet, on a disk that differs from the first one
in scratch files only. -/
theorem job_rendered (fresh : start.IsEmptyFolder dir folder)
    (describes : acoustics.Describes equipment start folder) (sideBySide : Bool) (node : Node)
    (number : Nat) (studio : Studio V) (agree : start.AgreeOff (Disk.below folder) studio.disk)
    (fits : ∀ later, number ≤ later → later < number + node.size → Disk.Fits dir later)
    (free : ∀ later, number ≤ later → later < number + node.size →
      studio.disk.entry? (numbered folder later) = none) :
    Rendered dir folder number (number + node.size)
      (node.audio equipment acoustics start studio.booth) studio
      ((equipment.job sideBySide (node.numberFrom dir number).1).run studio) := by
  have own : number < number + node.size := Nat.lt_add_of_pos_right node.size_pos
  have ownFits := fits number (Nat.le_refl _) own
  have ownFree := free number (Nat.le_refl _) own
  cases node with
  | speech speaker text target =>
      exact conclude_rendered dir []
        (speech_works fresh describes agree ownFits ownFree speaker text)
  | effect id target =>
      exact conclude_rendered dir [] (effect_works fresh describes agree ownFits ownFree id)
  | group children target =>
      have inner := jobs_rendered fresh describes sideBySide children (number + 1) studio agree
        (fun later lower upper => fits later (by omega) (by simp only [Node.size]; omega))
        (fun later lower upper => free later (by omega) (by simp only [Node.size]; omega))
      rw [Nat.add_assoc] at inner
      simp only [Node.numberFrom, Equipment.job, Job.run_bind]
      exact group_rendered fresh describes agree own fits ownFree inner
  | filter id child target =>
      have inner := job_rendered fresh describes sideBySide child (number + 1) studio agree
        (fun later lower upper => fits later (by omega) (by simp only [Node.size]; omega))
        (fun later lower upper => free later (by omega) (by simp only [Node.size]; omega))
      rw [Nat.add_assoc] at inner
      have proper : number + 1 < number + (1 + child.size) := by
        have positive := child.size_pos
        omega
      simp only [Node.numberFrom, Equipment.job, Job.run_bind]
      exact filter_rendered fresh describes agree proper fits ownFree id inner

theorem jobs_rendered (fresh : start.IsEmptyFolder dir folder)
    (describes : acoustics.Describes equipment start folder) (sideBySide : Bool) (nodes : List Node)
    (number : Nat) (studio : Studio V) (agree : start.AgreeOff (Disk.below folder) studio.disk)
    (fits : ∀ later, number ≤ later → later < number + Node.sizeAll nodes → Disk.Fits dir later)
    (free : ∀ later, number ≤ later → later < number + Node.sizeAll nodes →
      studio.disk.entry? (numbered folder later) = none) :
    RenderedAll dir folder number (number + Node.sizeAll nodes)
      (Node.audioAll equipment acoustics start nodes studio.booth) studio
      ((equipment.jobs sideBySide (Node.numberAllFrom dir number nodes).1).run studio) := by
  cases nodes with
  | nil => exact ⟨Disk.AgreeOff.refl _ _, rfl, [], nofun, rfl, .nil⟩
  | cons node rest =>
      simp only [Node.sizeAll, ← Nat.add_assoc] at fits free ⊢
      have one := job_rendered fresh describes sideBySide node number studio agree
        (fun later lower upper => fits later lower (by omega))
        (fun later lower upper => free later lower (by omega))
      simp only [Node.numberAllFrom, Equipment.jobs, Node.audioAll, Node.numberFrom_snd]
      rw [← one.booth]
      have others := jobs_rendered fresh describes sideBySide rest (number + node.size) _
        (agree.trans (one.frame.mono (Disk.numberedIn_subset_below _ _ _)))
        (fun later lower upper => fits later (by omega) upper) (by
          intro later lower upper
          rw [← one.frame.entry (numbered folder later)]
          · exact free later (by omega) upper
          · rw [Disk.numbered_mem_numberedIn_iff]
            omega)
      exact cons_rendered (Nat.lt_add_of_pos_right node.size_pos) (Nat.le_add_right _ _) one others

end

/-- A tree is rendered into a scratch folder in which nothing is yet. -/
theorem root_rendered (sideBySide : Bool) (tree : Node) (first : Nat) (studio : Studio V)
    (fresh : studio.disk.IsEmptyFolder dir folder)
    (describes : acoustics.Describes equipment studio.disk folder)
    (fits : ∀ number, first ≤ number → number < first + tree.size → Disk.Fits dir number) :
    Rendered dir folder first (first + tree.size)
      (tree.audio equipment acoustics studio.disk studio.booth) studio
      ((equipment.job sideBySide (tree.number dir first)).run studio) := by
  rw [Node.number_eq_numberFrom]
  apply job_rendered fresh describes sideBySide tree first studio (Disk.AgreeOff.refl _ _) fits
  intro number _ _
  exact fresh.empty _ (Disk.numbered_mem_below folder number)

theorem Rendered.read_audio {first last : Nat} {audio : Option ByteArray × Booth V}
    {before : Studio V} {ending : Rendition × Studio V}
    (rendered : Rendered dir folder first last audio before ending)
    (fresh : before.disk.IsEmptyFolder dir folder) (fits : Disk.Fits dir first) :
    ending.1.audio.map ending.2.disk.read = audio.1.map .ok := by
  cases audible : audio.1 with
  | none =>
      rw [rendered.silent audible]
      rfl
  | some bytes =>
      have heard := rendered.heard bytes audible
      rcases heard with ⟨file, executable, held⟩
      have agree := rendered.frame.mono (Disk.numberedIn_subset_below folder first last)
      rw [file, Option.map_some, fresh.read_numberedFile agree fits held]
      rfl

/--
Rendering a tree whose files are numbered into an empty scratch folder comes to the audio of the
tree: the file of the root holds it, without audio there is no such file among the results, the
voice engine is left as after all of the speech in order, and no file but the numbered ones is
touched.
-/
theorem render_eq_audio (equipment : Equipment V) (acoustics : Acoustics) (sideBySide : Bool)
    (tree : Node) (dir : Path) (folder : Location) (first : Nat) (studio : Studio V)
    (fresh : studio.disk.IsEmptyFolder dir folder)
    (describes : acoustics.Describes equipment studio.disk folder)
    (fits : ∀ number, first ≤ number → number < first + tree.size → Disk.Fits dir number) :
    let ending := (equipment.job sideBySide (tree.number dir first)).run studio
    let heard := tree.audio equipment acoustics studio.disk studio.booth
    ending.2.booth = heard.2 ∧
      studio.disk.AgreeOff (numberedIn folder first (first + tree.size)) ending.2.disk ∧
      match heard.1 with
      | some bytes =>
        ending.1.audio = some (numberedFile dir first) ∧
          ending.2.disk.read (numberedFile dir first) = .ok bytes
      | none => ending.1.audio = none := by
  intro ending heard
  have rendered := root_rendered sideBySide tree first studio fresh describes fits
  refine ⟨rendered.booth, rendered.frame, ?_⟩
  have own := fits first (Nat.le_refl _) (Nat.lt_add_of_pos_right tree.size_pos)
  have read := rendered.read_audio fresh own
  cases audible : heard.1 with
  | none => exact rendered.silent audible
  | some bytes =>
      have file := (rendered.heard bytes audible).1
      rw [file, show (tree.audio equipment acoustics studio.disk studio.booth).1 = some bytes from
        audible] at read
      exact ⟨file, Option.some.inj read⟩

theorem render_eq_audio_in_house :
    let ending := (Plain.kit.job true (Plain.tune.number ⟨"/work"⟩ 0)).run Plain.stage
    ending.1.audio = some ⟨"/work/000.wav"⟩ ∧
      ending.2.disk.read ⟨"/work/000.wav"⟩ = .ok "<a:hi>dingloud:<b:yo>".toUTF8 ∧
      ending.2.engine = some "b" := by
  have fits : ∀ number, number < 0 + Plain.tune.size → Disk.Fits ⟨"/work"⟩ number := by
    have six : 0 + Plain.tune.size = 6 := rfl
    rw [six]
    decide
  have rendered := render_eq_audio Plain.kit (Plain.acoustics Plain.house) true Plain.tune
    ⟨"/work"⟩ ["work"] 0 Plain.stage Plain.work_isEmptyFolder Plain.kit_describes
    (fun number _ => fits number)
  have file : numberedFile ⟨"/work"⟩ 0 = ⟨"/work/000.wav"⟩ := by decide
  have audio : Plain.tune.audio Plain.kit (Plain.acoustics Plain.house) Plain.stage.disk
      Plain.stage.booth = (some "<a:hi>dingloud:<b:yo>".toUTF8, ⟨some "b", false⟩) := by rfl
  intro ending
  -- the run stays closed from here on: only its description is used
  have same : (Plain.kit.job true (Plain.tune.number ⟨"/work"⟩ 0)).run Plain.stage = ending := rfl
  clear_value ending
  simp only [audio, file, same] at rendered
  obtain ⟨booth, -, heard, read⟩ := rendered
  exact ⟨heard, read, congrArg Booth.engine booth⟩

theorem speech_dropped (fresh : start.IsEmptyFolder dir folder)
    (describes : acoustics.Describes equipment start folder) (sideBySide : Bool)
    (speaker text : String) (studio : Studio V)
    (agree : start.AgreeOff (Disk.below folder) studio.disk) (long : ¬Disk.Fits dir number) :
    ((equipment.job sideBySide (.speech speaker text (numberedFile dir number))).run
      studio).1.audio = none := by
  have spoken := @speakAs_alike _ equipment acoustics start folder describes
    (studio.noting (.speaking speaker text)) studio agree agree rfl speaker text
  simp only [Equipment.job]
  rw [conclude_run, StudioJob.perform_bind, Equipment.speech, StudioJob.perform_bind,
    StudioJob.perform_modify]
  simp only
  rw [StudioJob.perform_bind, StudioJob.perform_attempt]
  generalize equipment.voice.speakAs speaker text (studio.noting (.speaking speaker text)) = ending
    at spoken ⊢
  obtain ⟨result, after⟩ := ending
  cases result with
  | error fault => rfl
  | ok content =>
      have agreeAfter := agree.trans (spoken.kept.mono (Set.empty_subset _))
      have refused : equipment.host.write (numberedFile dir number) content after.disk =
          (.error .nameTooLong, after.disk) := by
        simp [Host.write, Disk.openForWriting, fresh.endsWithSlash_numberedFile,
          fresh.locate_numberedFile agreeAfter, long, bind, Except.bind]
      simp only [StudioJob.perform_attemptOnDisk]
      rw [task_bind, fresh.makeRoom_numberedFile agreeAfter]
      simp only [FileTask.update, refused]
      rfl

/-- There is audio for an utterance in a folder whose path is too long for a file, and where the
file takes no bytes, but no file. -/
theorem render_ne_audio_of_long_path :
    let dir := Disk.dotted 2045
    let tree := Node.speech "a" "hi"
    let kit := { Plain.kit with host := Plain.fullAt ⟨"/work/000.wav"⟩ }
    (Plain.house.IsEmptyFolder dir ["work"] ∧
      (Plain.acoustics Plain.house).Describes Plain.kit Plain.house ["work"] ∧
      (tree.audio Plain.kit (Plain.acoustics Plain.house) Plain.house Plain.stage.booth).1 =
        some "<a:hi>".toUTF8 ∧
      ((Plain.kit.job false (tree.number dir 0)).run Plain.stage).1.audio = none) ∧
    Plain.house.IsEmptyFolder ⟨"/work"⟩ ["work"] ∧ Disk.Fits ⟨"/work"⟩ 0 ∧
      (tree.audio kit (Plain.acoustics Plain.house) Plain.house Plain.stage.booth).1 =
        some "<a:hi>".toUTF8 ∧
      ((kit.job false (tree.number ⟨"/work"⟩ 0)).run Plain.stage).1.audio = none := by
  intro dir tree kit
  have fresh : Plain.house.IsEmptyFolder dir ["work"] :=
    Disk.isEmptyFolder_dotted Plain.house 2045 (by decide) (by decide) rfl Plain.work_empty
  have size : (numberedFile dir 0).text.utf8ByteSize = 2 * 2045 + (numberedName 0).utf8ByteSize :=
    Disk.utf8ByteSize_numberedFile_dotted 2045 0 (by decide)
  have long : ¬Disk.Fits dir 0 := by
    intro fits
    have name : (numberedName 0).utf8ByteSize = 7 := by decide
    have limit := fits.1
    rw [size, name] at limit
    exact absurd limit (by decide)
  clear_value dir
  have numbered : tree.number dir 0 = .speech "a" "hi" (numberedFile dir 0) := by
    simp only [tree, Node.number_eq_numberFrom, Node.numberFrom]
  have dropped := speech_dropped fresh Plain.kit_describes false "a" "hi" Plain.stage
    (Disk.AgreeOff.refl _ _) long
  rw [← numbered] at dropped
  refine ⟨⟨fresh, Plain.kit_describes, rfl, dropped⟩, Plain.work_isEmptyFolder, by decide, rfl, ?_⟩
  decide +kernel

end SpokenMarkup
