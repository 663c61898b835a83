import SpokenMarkup.Proofs.Studio.Acts

set_option autoImplicit false

namespace SpokenMarkup

namespace Path

/-- A name that is one normal component of a path. -/
structure IsNormal (name : String) : Prop where
  nonempty : name ≠ ""
  notDot : name ≠ "."
  notDots : name ≠ ".."
  noSlash : '/' ∉ name.toList
  noBackslash : '\\' ∉ name.toList

/-- A path that is a folder extended by exactly one normal component. -/
def IsChild (folder path : Path) : Prop :=
  ∃ name, IsNormal name ∧ path = folder.join name

variable {folder path : Path}

theorem IsChild.place (child : folder.IsChild path) (disk : Disk) :
    ∃ name, IsNormal name ∧ path.names = folder.names ++ [name] ∧
      disk.place path = name :: disk.place folder := by
  obtain ⟨name, normal, rfl⟩ := child
  exact ⟨name, normal, (Disk.names_join folder normal.nonempty normal.noSlash).1,
    Disk.place_join disk folder normal.nonempty normal.noSlash normal.notDot normal.notDots⟩

theorem isNormal_of_isPlainName {name : String} (plain : isPlainName name = true) :
    IsNormal name := by
  obtain ⟨nonempty, notDot, notDots, noSlash, noBackslash, -⟩ := (isPlainName_iff name).mp plain
  exact ⟨nonempty, notDot, notDots, noSlash, noBackslash⟩

theorem not_isPlainName {name : String}
    (leads : name = "" ∨ name = "." ∨ name = ".." ∨ '/' ∈ name.toList ∨ '\\' ∈ name.toList ∨
      '\x00' ∈ name.toList) : isPlainName name = false := by
  rw [Bool.eq_false_iff, Ne, isPlainName_iff]
  rintro ⟨nonempty, notDot, notDots, noSlash, noBackslash, noNul⟩
  rcases leads with same | same | same | inside | inside | inside
  · exact nonempty same
  · exact notDot same
  · exact notDots same
  · exact noSlash inside
  · exact noBackslash inside
  · exact noNul inside

theorem isChild_numberedFile (dir : Path) (number : Nat) : dir.IsChild (numberedFile dir number) :=
  ⟨numberedName number, isNormal_of_isPlainName (isPlainName_numberedName number), rfl⟩

end Path

theorem Char.eq_of_toLower {c low : Char} (lowered : c.toLower = low)
    (other : low.toNat < 'a'.toNat ∨ 'z'.toNat < low.toNat) : c = low := by
  unfold Char.toLower at lowered
  split at lowered
  · rename_i upper
    have first : 65 ≤ c.val.toNat := by simpa using UInt32.le_iff_toNat_le.mp upper.1
    have last : c.val.toNat ≤ 90 := by simpa using UInt32.le_iff_toNat_le.mp upper.2
    have moved : low.toNat = c.val.toNat + 32 := by
      rw [← lowered]
      change (c.val + 32).toNat = _
      rw [UInt32.toNat_add]
      change (c.val.toNat + 32) % 2 ^ 32 = _
      omega
    have a : 'a'.toNat = 97 := rfl
    have z : 'z'.toNat = 122 := rfl
    omega
  · exact lowered

theorem not_mem_toLower {text : String} {c : Char} (absent : c ∉ text.toList)
    (other : c.toNat < 'a'.toNat ∨ 'z'.toNat < c.toNat) : c ∉ text.toLower.toList := by
  unfold String.toLower
  rw [String.toList_map]
  intro member
  obtain ⟨first, inside, lowered⟩ := List.mem_map.mp member
  rw [Char.eq_of_toLower lowered other] at inside
  exact absent inside

theorem isNormal_candidate {id format : String} (plain : Path.isPlainName id = true)
    (bare : Settings.isBareFormat format = true) : Path.IsNormal (id ++ "." ++ format.toLower) := by
  obtain ⟨nonempty, -, -, noSlash, noBackslash, -⟩ := (Path.isPlainName_iff id).mp plain
  simp only [Settings.isBareFormat, Bool.and_eq_true, decide_eq_true_eq, List.all_eq_true] at bare
  obtain ⟨filled, separators⟩ := bare
  have slash : '/' ∉ format.toList := fun member => (separators _ member).1.1 rfl
  have backslash : '\\' ∉ format.toList := fun member => (separators _ member).1.2 rfl
  have dot : ".".toList = ['.'] := rfl
  have chars : (id ++ "." ++ format.toLower).toList =
      id.toList ++ ['.'] ++ format.toLower.toList := by
    rw [String.toList_append, String.toList_append, dot]
  have length : 2 < (id ++ "." ++ format.toLower).toList.length := by
    have front : 0 < id.toList.length := by
      rw [List.length_pos_iff, Ne, String.toList_eq_nil_iff]
      exact nonempty
    have back : 0 < format.toLower.toList.length := by
      unfold String.toLower
      rw [String.toList_map, List.length_map, List.length_pos_iff, Ne, String.toList_eq_nil_iff]
      exact filled
    rw [chars, List.length_append, List.length_append, List.length_singleton]
    omega
  have apart : ∀ c : Char, c ∉ id.toList → c ≠ '.' → c ∉ format.toLower.toList →
      c ∉ (id ++ "." ++ format.toLower).toList := by
    intro c front middle back
    rw [chars, List.mem_append, List.mem_append, List.mem_singleton]
    rintro ((inside | inside) | inside)
    · exact front inside
    · exact middle inside
    · exact back inside
  refine ⟨?_, ?_, ?_, ?_, ?_⟩
  · intro same
    rw [same] at length
    exact absurd length (by decide)
  · intro same
    rw [same] at length
    exact absurd length (by decide)
  · intro same
    rw [same] at length
    exact absurd length (by decide)
  · exact apart '/' noSlash (by decide) (not_mem_toLower slash (by decide))
  · exact apart '\\' noBackslash (by decide) (not_mem_toLower backslash (by decide))

namespace Settings

theorem isBareFormat_of_check {settings : Settings} (accepted : settings.check = .ok ())
    {format : String} (listed : format ∈ settings.assetFormats) : isBareFormat format = true := by
  have sound : settings.fault? = none := by
    unfold check at accepted
    cases fault : settings.fault? with
    | none => rfl
    | some fault => rw [fault] at accepted; cases accepted
  have bare : settings.assetFormats.all isBareFormat = true := by
    unfold fault? at sound
    split at sound
    · cases sound
    · split at sound
      · cases sound
      · split at sound
        · cases sound
        · split at sound
          · cases sound
          · rename_i all
            simpa using all
  exact List.all_eq_true.mp bare format listed

variable {settings : Settings} {launcher : Launcher} {host : Host}

theorem isChild_candidate (accepted : settings.check = .ok ()) {id : String}
    (plain : Path.isPlainName id = true) {asset : Asset}
    (listed : asset ∈ (AssetFolder.ofFormats settings.soundEffectsDir settings.assetFormats).formats.map
      (AssetFolder.candidate (.ofFormats settings.soundEffectsDir settings.assetFormats) id)) :
    settings.soundEffectsDir.IsChild asset.path := by
  obtain ⟨lowered, inside, rfl⟩ := List.mem_map.mp listed
  obtain ⟨format, given, rfl⟩ := List.mem_map.mp inside
  exact ⟨_, isNormal_candidate plain (isBareFormat_of_check accepted given), rfl⟩

theorem isChild_asset (accepted : settings.check = .ok ()) {id : String} {disk : Disk}
    {asset : Asset} (found : (settings.equipment launcher host).assets id disk = some asset) :
    settings.soundEffectsDir.IsChild asset.path := by
  change AssetFolder.find? _ id disk = some asset at found
  unfold AssetFolder.find? at found
  split at found
  · rename_i plain
    exact isChild_candidate accepted plain (List.mem_of_find?_eq_some found)
  · cases found

theorem isChild_program {id : String} {disk : Disk} {program : Path}
    (offered : (settings.equipment launcher host).programFor? id disk = some program) :
    settings.filtersDir.IsChild program := by
  unfold Equipment.programFor? at offered
  dsimp only at offered
  split at offered
  · rename_i found
    rw [Bool.and_eq_true] at found
    cases offered
    exact ⟨id, Path.isNormal_of_isPlainName found.1, rfl⟩
  · cases offered

/-- The voice that is loaded, if any, has its model in the folder of the models. -/
def Loads (settings : Settings) (engine : LoadedVoice) : Prop :=
  ∀ model ∈ engine.model, settings.modelsDir.IsChild model

/-- Whether there are files is asked about children of two folders only. -/
def ProbesSame (settings : Settings) (first second : Studio LoadedVoice) : Prop :=
  ∀ path, settings.soundEffectsDir.IsChild path ∨ settings.filtersDir.IsChild path →
    first.disk.isFile path = second.disk.isFile path

theorem seesSame_of_probesSame (accepted : settings.check = .ok ())
    {first second : Studio LoadedVoice} (same : settings.ProbesSame first second) :
    (settings.equipment launcher host).SeesSame first second := by
  intro id
  refine ⟨?_, ?_⟩
  · change AssetFolder.find? _ id first.disk = AssetFolder.find? _ id second.disk
    unfold AssetFolder.find?
    split
    · rename_i plain
      refine List.find?_congr ?_
      intro asset listed
      exact same asset.path (Or.inl (isChild_candidate accepted plain listed))
    · rfl
  · unfold Equipment.programFor?
    cases plain : Path.isPlainName id with
    | false => rfl
    | true =>
        have child :
            settings.filtersDir.IsChild ((settings.equipment launcher host).filtersDir.join id) :=
          ⟨id, Path.isNormal_of_isPlainName plain, rfl⟩
        simp only [same _ (Or.inr child)]

/-- Launchers that do the same with the voice program and a model in the folder of the models. -/
def SpeaksSame (settings : Settings) (launcher other : Launcher) : Prop :=
  ∀ (model : Path) (text : String) (disk : Disk), settings.modelsDir.IsChild model →
    other settings.voiceProgram ⟨[model.text], text.toUTF8⟩ disk =
      launcher settings.voiceProgram ⟨[model.text], text.toUTF8⟩ disk

section Voice

variable {other : Launcher} {studio : Studio LoadedVoice}

theorem utter_same (same : settings.SpeaksSame launcher other) (text : String)
    {engine : LoadedVoice} (loads : settings.Loads engine) (disk : Disk) :
    (settings.equipment other host).voice.utter text engine disk =
      (settings.equipment launcher host).voice.utter text engine disk := by
  simp only [equipment, SpeechProgram.voice]
  cases loaded : engine.model with
  | none => rfl
  | some model =>
      have started := same model text disk (loads model loaded)
      simp only [SpeechProgram.speakWith, started]

theorem utter_engine (text : String) (engine : LoadedVoice) (disk : Disk) :
    ((settings.equipment launcher host).voice.utter text engine disk).2.1 = engine := by
  simp only [equipment, SpeechProgram.voice]
  cases engine.model <;> rfl

theorem activate_loads (speaker : String) {engine : LoadedVoice}
    (loads : settings.Loads engine) (disk : Disk) :
    settings.Loads ((settings.equipment launcher host).voice.activate speaker engine disk).2.1 := by
  simp only [equipment, SpeechProgram.voice]
  cases result : SpeechProgram.modelFor ⟨settings.voiceProgram, settings.modelsDir⟩ speaker disk with
  | error fault => exact loads
  | ok model =>
      unfold SpeechProgram.modelFor SpeechProgram.modelFile? at result
      cases plain : Path.isPlainName speaker with
      | false => simp [plain] at result
      | true =>
          simp only [plain, if_true] at result
          split at result
          · cases result
            rintro model same
            cases same
            exact ⟨speaker, Path.isNormal_of_isPlainName plain, rfl⟩
          · cases result

theorem speakAs_loads (speaker text : String) (loads : settings.Loads studio.engine) :
    settings.Loads ((settings.equipment launcher host).voice.speakAs speaker text studio).2.engine := by
  refine speakAs_invariant _ (settings.Loads ·.engine) ?_ ?_ ?_ loads
  · exact fun _ _ kept => kept
  · intro after kept
    rw [call_engine]
    exact activate_loads speaker kept after.disk
  · intro after kept
    rw [call_engine, utter_engine]
    exact kept

theorem speakAs_same (same : settings.SpeaksSame launcher other) (speaker text : String)
    (loads : settings.Loads studio.engine) :
    (settings.equipment other host).voice.speakAs speaker text studio =
      (settings.equipment launcher host).voice.speakAs speaker text studio := by
  have uttered : ∀ studio : Studio LoadedVoice, settings.Loads studio.engine →
      Studio.call ((settings.equipment other host).voice.utter text) studio =
        Studio.call ((settings.equipment launcher host).voice.utter text) studio := by
    intro studio loads
    unfold Studio.call
    rw [utter_same same text loads]
  have activates : (settings.equipment other host).voice.activate speaker =
      (settings.equipment launcher host).voice.activate speaker := rfl
  have actives : (settings.equipment other host).voice.active =
      (settings.equipment launcher host).voice.active := rfl
  have activated := call_engine ((settings.equipment launcher host).voice.activate speaker)
    (studio.noting (.speakerSwitched speaker))
  have loaded : settings.Loads ((settings.equipment launcher host).voice.activate speaker
      studio.engine studio.disk).2.1 := activate_loads speaker loads studio.disk
  rw [speakAs_apply, speakAs_apply, uttered studio loads, activates, actives]
  generalize Studio.call ((settings.equipment launcher host).voice.activate speaker)
    (studio.noting (.speakerSwitched speaker)) = ending at activated ⊢
  obtain ⟨result, after⟩ := ending
  have stays : settings.Loads after.engine := by
    rw [show after.engine = _ from activated]
    exact loaded
  cases result with
  | error fault => rfl
  | ok value => simp only [uttered after stays]

end Voice

/-- What a render may do on the disk, each with the paths that it is given. -/
inductive ReachesOnDisk (settings : Settings) (launcher : Launcher) (host : Host) (scratch : Path) :
    {α : Type} → FileTask α → Prop
  | write {output : Path} (inside : scratch.IsChild output) (audio : ByteArray) :
    ReachesOnDisk settings launcher host scratch (do
      FileTask.makeRoom output
      FileTask.update (host.write output audio) fun error => .voice (.notWritten output error))
  | copySound {sound output : Path} (given : settings.soundEffectsDir.IsChild sound)
    (inside : scratch.IsChild output) :
    ReachesOnDisk settings launcher host scratch (FileTask.copy host sound output)
  | convertSound {sound output : Path} (given : settings.soundEffectsDir.IsChild sound)
    (inside : scratch.IsChild output) :
    ReachesOnDisk settings launcher host scratch
      ((Ffmpeg.mixer ⟨settings.ffmpeg, settings.sampleRate⟩ launcher host).convert sound output)
  | copy {input output : Path} (given : scratch.IsChild input) (inside : scratch.IsChild output) :
    ReachesOnDisk settings launcher host scratch (FileTask.copy host input output)
  | join {inputs : List Path} {output : Path} (given : ∀ input ∈ inputs, scratch.IsChild input)
    (inside : scratch.IsChild output) :
    ReachesOnDisk settings launcher host scratch
      ((Ffmpeg.mixer ⟨settings.ffmpeg, settings.sampleRate⟩ launcher host).join inputs output)
  | preset (preset : Preset) {input output : Path} (given : scratch.IsChild input)
    (inside : scratch.IsChild output) :
    ReachesOnDisk settings launcher host scratch
      ((Ffmpeg.mixer ⟨settings.ffmpeg, settings.sampleRate⟩ launcher host).applyPreset preset input
        output)
  | filter {program input output : Path} (offered : settings.filtersDir.IsChild program)
    (given : scratch.IsChild input) (inside : scratch.IsChild output) :
    ReachesOnDisk settings launcher host scratch (runFilter launcher program input output)

/-- What a render may do, and what it may learn of the disk. -/
inductive Reach (settings : Settings) (launcher : Launcher) (host : Host) (scratch : Path) :
    Job.Repertoire (Studio LoadedVoice)
  | note (change : Studio LoadedVoice → Studio LoadedVoice)
    (idle : ∀ studio, ∃ journal, change studio = { studio with journal }) :
    Reach settings launcher host scratch PUnit (fun studio => (⟨⟩, change studio)) Eq
  | openScratch : Reach settings launcher host scratch (Except Fault Unit)
      (fun studio =>
        ((studio.disk.makeDirectories scratch).1.mapError (Fault.scratchDirectory scratch),
          { studio with disk := (studio.disk.makeDirectories scratch).2 })) Eq
  | probe : Reach settings launcher host scratch (Studio LoadedVoice)
      (fun studio => (studio, studio)) settings.ProbesSame
  /-- Speaking; of all starts of programs only those with a model in its folder matter for it. -/
  | speak (speaker text : String) (task : StudioTask LoadedVoice ByteArray)
    (reaches : ∀ other, settings.SpeaksSame launcher other → ∀ studio, settings.Loads studio.engine →
      task studio = (settings.equipment other host).voice.speakAs speaker text studio) :
    Reach settings launcher host scratch (Except Fault ByteArray) task Eq
  | onDisk {α : Type} {task : FileTask α} (listed : settings.ReachesOnDisk launcher host scratch task) :
    Reach settings launcher host scratch (Except Fault α) (Studio.onDisk task) Eq

section Reach

variable {scratch : Path}

theorem reachesOnDisk_of_task (accepted : settings.check = .ok ()) {α : Type} {task : FileTask α}
    {number : Nat} (listed : (settings.equipment launcher host).Task scratch number task) :
    settings.ReachesOnDisk launcher host scratch task := by
  have numbered := Path.isChild_numberedFile scratch
  cases listed with
  | write audio => exact .write (numbered number) audio
  | place id disk asset found =>
      have sound := isChild_asset accepted found
      unfold Mixer.place
      by_cases wave : asset.isWave = true
      · rw [if_pos wave]
        exact .copySound sound (numbered number)
      · rw [if_neg wave]
        exact .convertSound sound (numbered number)
  | copy source => exact .copy (numbered source) (numbered number)
  | join sources =>
      refine .join ?_ (numbered number)
      intro input member
      obtain ⟨source, -, rfl⟩ := List.mem_map.mp member
      exact numbered source
  | preset preset source => exact .preset preset (numbered source) (numbered number)
  | filter id disk program offered source =>
      exact .filter (isChild_program offered) (numbered source) (numbered number)

theorem reach_of_act (accepted : settings.check = .ok ()) {β : Type}
    {act : Studio LoadedVoice → β × Studio LoadedVoice} {alike : β → β → Prop}
    (listed : (settings.equipment launcher host).Act scratch β act alike) :
    ∃ coarser, settings.Reach launcher host scratch β act coarser ∧
      ∀ first second, coarser first second → alike first second := by
  cases listed with
  | note change idle => exact ⟨_, .note change idle, fun _ _ same => same⟩
  | look => exact ⟨_, .probe, fun _ _ same => seesSame_of_probesSame accepted same⟩
  | speak speaker text =>
      refine ⟨_, .speak speaker text _ ?_, fun _ _ same => same⟩
      intro other same studio loads
      exact (speakAs_same same speaker text loads).symm
  | onDisk number listed =>
      exact ⟨_, .onDisk (reachesOnDisk_of_task accepted listed), fun _ _ same => same⟩

end Reach

/-- Acts that load no voice from elsewhere. -/
def KeepsVoice (settings : Settings) : Job.Repertoire (Studio LoadedVoice) :=
  fun _ act _ => ∀ studio, settings.Loads studio.engine → settings.Loads (act studio).2.engine

theorem act_keepsVoice {scratch : Path} {β : Type}
    {act : Studio LoadedVoice → β × Studio LoadedVoice} {alike : β → β → Prop}
    (listed : (settings.equipment launcher host).Act scratch β act alike) :
    settings.KeepsVoice β act alike := by
  intro studio loads
  cases listed with
  | note change idle =>
      obtain ⟨journal, same⟩ := idle studio
      dsimp only
      rw [same]
      exact loads
  | look => exact loads
  | speak speaker text => exact speakAs_loads speaker text loads
  | onDisk number listed => exact loads

section Session

variable {session : Session LoadedVoice}
  (equips : session.equipment = settings.equipment launcher host)
include equips

theorem recordAs_reach (accepted : settings.check = .ok ()) (markup : String) (number : Nat) :
    Job.MadeOf (settings.Reach launcher host (session.scratchDir number))
      (session.recordAs markup number).run fun result => ∀ take, result = .ok take →
        ∀ artifact ∈ take.artifact, (session.scratchDir number).IsChild artifact := by
  have made : Job.MadeOf (settings.Reach launcher host (session.scratchDir number)) _ _ :=
    recordAs_made session markup number .openScratch (by
      intro β act alike listed
      rw [equips] at listed
      exact reach_of_act accepted listed)
  refine made.mono (fun β act alike listed => ⟨alike, listed, fun _ _ same => same⟩) ?_
  intro result own take same artifact audible
  rw [(own take same).2 artifact audible]
  exact Path.isChild_numberedFile _ 0

theorem record_keepsVoice (markup : String) :
    Job.MadeOf settings.KeepsVoice (session.record markup).run fun _ => True := by
  refine record_made session markup (fun event studio loads => loads) (fun studio loads => loads)
    ?_ ?_
  · intro number studio loads
    rw [Session.makeScratch_apply]
    exact loads
  · intro number β act alike listed
    rw [equips] at listed
    exact ⟨alike, act_keepsVoice listed, fun _ _ same => same⟩

end Session

end Settings

/--
A markup cannot reach outside of the folders that accepted settings give. Whatever is named in it:
once a render has its number, all that it does is what `Settings.Reach` lists, where every sound
effect, filter program and model is a child of its folder, and everything written is a child of the
scratch directory with that number; the voice that is loaded stays one from the folder of the
models, whatever goes on beside the render; and names that could lead elsewhere lead nowhere.
-/
theorem record_stays_inside (settings : Settings) (accepted : settings.check = .ok ())
    (launcher : Launcher) (host : Host) (process : Nat) (markup : String) :
    let session : Session LoadedVoice := ⟨settings, settings.equipment launcher host, process⟩
    (∃ rest : Nat → Job (Studio LoadedVoice) (Except Fault Take),
      (session.record markup).run =
        .step (fun studio => ((), studio.noting (.renderStarted markup.length))) (fun _ =>
          .step Studio.takeNumber rest) ∧
      ∀ number, Job.MadeOf (settings.Reach launcher host (session.scratchDir number)) (rest number)
        fun result => ∀ take, result = .ok take → ∀ artifact ∈ take.artifact,
          (session.scratchDir number).IsChild artifact) ∧
    (∀ (rely : Studio LoadedVoice → Studio LoadedVoice → Prop)
      (studio after : Studio LoadedVoice)
      (later : Job (Studio LoadedVoice) (Except Fault Take)),
      Job.Stable rely (fun studio => settings.Loads studio.engine) → settings.Loads studio.engine →
      Job.Amid rely (session.record markup).run studio later after → settings.Loads after.engine) ∧
    ∀ name : String, (name = "" ∨ name = "." ∨ name = ".." ∨ '/' ∈ name.toList ∨
        '\\' ∈ name.toList ∨ '\x00' ∈ name.toList) →
      (∀ (assets : AssetFolder) (disk : Disk), assets.find? name disk = none) ∧
      (∀ speech : SpeechProgram, speech.modelFile? name = none) ∧
      ∀ disk, (settings.equipment launcher host).programFor? name disk = none := by
  intro session
  refine ⟨⟨_, session.record_run markup, Settings.recordAs_reach rfl accepted markup⟩, ?_, ?_⟩
  · intro rely studio after later stable loads amid
    exact (Settings.record_keepsVoice rfl markup).holds stable (fun β act alike listed => listed) loads
      amid
  · intro name leads
    have plain := Path.not_isPlainName leads
    refine ⟨?_, ?_, ?_⟩
    · intro assets disk
      simp [AssetFolder.find?, plain]
    · intro speech
      simp [SpeechProgram.modelFile?, plain]
    · intro disk
      simp [Equipment.programFor?, plain]

namespace Plain

def parlour : Studio LoadedVoice where
  disk :=
    { home := ["work"]
      entries :=
        [(["work"], .directory), (["models", "work"], .directory),
          (["a", "models", "work"], .file "model".toUTF8 false),
          (["sound-filters", "work"], .directory)] }
  engine := {}

def echo : Launcher :=
  fun _ call disk => .ok ({ status := .exited 0, output := (call.arguments.headD "").toUTF8 }, disk)

end Plain

/-- A voice is loaded and heard; a filter whose id leads out of its folder is not looked for. -/
theorem record_stays_inside_parlour :
    let settings : Settings := {}
    let session : Session LoadedVoice := ⟨settings, settings.equipment Plain.echo {}, 1⟩
    let ending := (session.record "a:hi{../loud}yo{.}").run.run Plain.parlour
    ending.2.engine = ⟨some "a", some ⟨"models/a"⟩⟩ ∧ settings.Loads ending.2.engine ∧
      ∃ take artifact, ending.1 = .ok take ∧ take.artifact = some artifact ∧
        (session.scratchDir 0).IsChild artifact := by
  have stays := record_stays_inside {} rfl Plain.echo {} 1 "a:hi{../loud}yo{.}"
  have told :
      let settings : Settings := {}
      let session : Session LoadedVoice := ⟨settings, settings.equipment Plain.echo {}, 1⟩
      let ending := (session.record "a:hi{../loud}yo{.}").run.run Plain.parlour
      ending.1.toOption = some ⟨⟨".buffer/render-1-0000"⟩,
        some ⟨".buffer/render-1-0000/000.wav"⟩⟩ ∧ ending.2.engine = ⟨some "a", some ⟨"models/a"⟩⟩ := by
    decide +kernel
  dsimp only at stays told ⊢
  -- the job stays closed from here on
  generalize ExceptT.run (Session.record _ _) = job at stays told ⊢
  obtain ⟨⟨rest, rfl, made⟩, voices, -⟩ := stays
  have loads := voices (fun _ _ => False) Plain.parlour _ _ (fun _ _ impossible => impossible.elim)
    nofun (Job.amid_run _ _)
  let counted := (Plain.parlour.noting (.renderStarted "a:hi{../loud}yo{.}".length)).takeNumber.2
  have inside := (made 0).run counted
  have artifact : ((rest 0).run counted).1.toOption = some ⟨⟨".buffer/render-1-0000"⟩,
    some ⟨".buffer/render-1-0000/000.wav"⟩⟩ := told.1
  refine ⟨told.2, loads, ?_⟩
  change ∃ take artifact, ((rest 0).run counted).1 = .ok take ∧ _
  cases ended : ((rest 0).run counted).1 with
  | error fault =>
      rw [ended] at artifact
      cases artifact
  | ok take =>
      rw [ended] at artifact inside
      obtain rfl := Option.some.inj artifact
      exact ⟨_, _, rfl, rfl, inside _ rfl _ rfl⟩

end SpokenMarkup
