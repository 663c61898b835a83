import SpokenMarkup.Proofs.Studio.Tasks
import SpokenMarkup.Speech.SpeechProgram

set_option autoImplicit false

namespace SpokenMarkup.SpeechProgram

variable {speech : SpeechProgram} {launcher : Launcher} {start studio : Studio LoadedVoice}
  {speaker text : String} {bytes : ByteArray}

/-- What a history of calls passes through. Between two calls others may change anything but the
engine; models come and go with the files of the disk. -/
inductive Reaches (speech : SpeechProgram) (launcher : Launcher)
    (start : Studio LoadedVoice) : Studio LoadedVoice → Prop
  | start : Reaches speech launcher start start
  | spoken {studio : Studio LoadedVoice} (reached : Reaches speech launcher start studio)
    (speaker text : String) :
    Reaches speech launcher start ((speech.voice launcher).speakAs speaker text studio).2
  | elsewhere {studio after : Studio LoadedVoice}
    (reached : Reaches speech launcher start studio) (engine : after.engine = studio.engine)
    (poisoned : after.poisoned = studio.poisoned) : Reaches speech launcher start after

/-- Nothing is loaded, or the model of a speaker whose name stays in the folder of the models. -/
inductive InStep (speech : SpeechProgram) : LoadedVoice → Prop
  | unset : InStep speech { speaker := none, model := none }
  | set {speaker : String} (plain : Path.isPlainName speaker = true) :
    InStep speech { speaker := some speaker, model := some (speech.modelsDir.join speaker) }

def HasModel (speech : SpeechProgram) (disk : Disk) (speaker : String) : Prop :=
  Path.isPlainName speaker = true ∧ disk.isFile (speech.modelsDir.join speaker) = true

theorem modelFor_eq (speech : SpeechProgram) (speaker : String) (disk : Disk) :
    speech.modelFor speaker disk =
      if Path.isPlainName speaker then
        if disk.isFile (speech.modelsDir.join speaker) then
          .ok (speech.modelsDir.join speaker)
        else .error (.noModel speaker (speech.modelsDir.join speaker))
      else .error (.invalidSpeaker speaker) := by
  rw [modelFor, modelFile?]
  cases Path.isPlainName speaker <;> rfl

theorem modelFor_of_hasModel {disk : Disk} (hasModel : speech.HasModel disk speaker) :
    speech.modelFor speaker disk = .ok (speech.modelsDir.join speaker) := by
  rw [modelFor_eq, if_pos hasModel.1, if_pos hasModel.2]

theorem modelFor_of_not_hasModel {disk : Disk} (missing : ¬speech.HasModel disk speaker) :
    ∃ fault, speech.modelFor speaker disk = .error fault := by
  rw [modelFor_eq]
  by_cases plain : Path.isPlainName speaker = true
  · rw [if_pos plain, if_neg fun file => missing ⟨plain, file⟩]
    exact ⟨_, rfl⟩
  · rw [if_neg plain]
    exact ⟨_, rfl⟩

/-- A switch changes nothing but what is loaded, and that only if there is a model to load: then it
sets the speaker as well as the model. -/
theorem call_activate (speaker : String) (studio : Studio LoadedVoice) :
    Studio.call ((speech.voice launcher).activate speaker) studio =
      match speech.modelFor speaker studio.disk with
      | .ok model =>
        (.ok (), { studio with engine := { speaker := some speaker, model := some model } })
      | .error fault => (.error (.voice fault), studio) := by
  simp only [Studio.call, voice]
  cases speech.modelFor speaker studio.disk <;> rfl

theorem call_utter {model : Path} (loaded : studio.engine.model = some model) (text : String) :
    Studio.call ((speech.voice launcher).utter text) studio =
      ((speech.speakWith launcher model text studio.disk).1.mapError .voice,
        { studio with disk := (speech.speakWith launcher model text studio.disk).2 }) := by
  simp only [Studio.call, voice, loaded]
  generalize speech.speakWith launcher model text studio.disk = run
  obtain ⟨audio, changed⟩ := run
  cases audio <;> rfl

theorem audioOf_eq_ok_iff (outcome : Outcome) :
    audioOf outcome = .ok bytes ↔ outcome.status = .exited 0 ∧ outcome.unfed = none ∧
      outcome.output = bytes ∧ bytes.isEmpty = false := by
  have succeeded : outcome.status.succeeded = true ↔ outcome.status = .exited 0 :=
    decide_eq_true_iff
  unfold audioOf
  rw [← succeeded]
  cases well : outcome.status.succeeded with
  | false => simp
  | true =>
      cases fed : outcome.unfed with
      | some error => simp
      | none =>
          cases silent : outcome.output.isEmpty with
          | true =>
              simp only [Bool.not_true, Bool.false_eq_true, if_false, if_true, reduceCtorEq,
                false_iff, not_and]
              rintro - - rfl loud
              rw [silent] at loud
              cases loud
          | false =>
              simp only [Bool.not_true, Bool.false_eq_true, if_false, Except.ok.injEq, true_and]
              constructor
              · rintro rfl
                exact ⟨rfl, silent⟩
              · exact And.left

/-- There is audio just when the program ran to a good end, took all of the text and said
something. -/
theorem speakWith_eq_ok_iff (model : Path) (disk : Disk) :
    (speech.speakWith launcher model text disk).1 = .ok bytes ↔
      ∃ outcome, launcher speech.program ⟨[model.text], text.toUTF8⟩ disk =
          .ok (outcome, (speech.speakWith launcher model text disk).2) ∧
        outcome.status = .exited 0 ∧ outcome.unfed = none ∧ outcome.output = bytes ∧
        bytes.isEmpty = false := by
  rw [speakWith]
  cases started : launcher speech.program ⟨[model.text], text.toUTF8⟩ disk with
  | error error => simp
  | ok run =>
      obtain ⟨outcome, changed⟩ := run
      simp only [audioOf_eq_ok_iff, Except.ok.injEq, Prod.mk.injEq, and_true, exists_eq_left']

theorem InStep.of_active {loaded : LoadedVoice} (inStep : speech.InStep loaded)
    (active : (speech.voice launcher).active loaded = some speaker) :
    Path.isPlainName speaker = true ∧
      loaded = ⟨some speaker, some (speech.modelsDir.join speaker)⟩ := by
  cases inStep with
  | unset => cases active
  | set plain =>
      cases active
      exact ⟨plain, rfl⟩

theorem speakAs_of_active (sound : studio.poisoned = false)
    (active : (speech.voice launcher).active studio.engine = some speaker) (text : String) :
    (speech.voice launcher).speakAs speaker text studio =
      Studio.call ((speech.voice launcher).utter text) studio := by
  rw [speakAs_apply, sound, if_neg Bool.false_ne_true, if_pos active]

theorem speakAs_of_refused (sound : studio.poisoned = false)
    (other : (speech.voice launcher).active studio.engine ≠ some speaker) {fault : VoiceFault}
    (refused : speech.modelFor speaker studio.disk = .error fault) (text : String) :
    (speech.voice launcher).speakAs speaker text studio =
      (.error (.voice fault), studio.noting (.speakerSwitched speaker)) := by
  have called : Studio.call ((speech.voice launcher).activate speaker)
      (studio.noting (.speakerSwitched speaker)) =
        (.error (.voice fault), studio.noting (.speakerSwitched speaker)) := by
    rw [call_activate, Studio.noting_disk, refused]
  rw [speakAs_apply, sound, if_neg Bool.false_ne_true, if_neg other, called]

theorem speakAs_of_loaded (sound : studio.poisoned = false)
    (other : (speech.voice launcher).active studio.engine ≠ some speaker) {model : Path}
    (loads : speech.modelFor speaker studio.disk = .ok model) (text : String) :
    (speech.voice launcher).speakAs speaker text studio =
      Studio.call ((speech.voice launcher).utter text)
        { studio.noting (.speakerSwitched speaker) with engine := ⟨some speaker, some model⟩ } := by
  have called : Studio.call ((speech.voice launcher).activate speaker)
      (studio.noting (.speakerSwitched speaker)) = (.ok (),
        { studio.noting (.speakerSwitched speaker) with engine := ⟨some speaker, some model⟩ }) := by
    rw [call_activate, Studio.noting_disk, loads]
    rfl
  rw [speakAs_apply, sound, if_neg Bool.false_ne_true, if_neg other, called]

/-- With a speaker who is loaded, or can be, a call runs the program with the speaker's model, and
leaves that loaded. -/
theorem speakAs_of_usable (sound : studio.poisoned = false) (inStep : speech.InStep studio.engine)
    (usable : (speech.voice launcher).active studio.engine = some speaker ∨
      speech.HasModel studio.disk speaker) (text : String) :
    ∃ journal, (speech.voice launcher).speakAs speaker text studio =
      ((speech.speakWith launcher (speech.modelsDir.join speaker) text studio.disk).1.mapError
          .voice,
        { studio with
          disk := (speech.speakWith launcher (speech.modelsDir.join speaker) text studio.disk).2
          engine := ⟨some speaker, some (speech.modelsDir.join speaker)⟩
          journal }) := by
  by_cases active : (speech.voice launcher).active studio.engine = some speaker
  · obtain ⟨-, engine⟩ := inStep.of_active active
    refine ⟨studio.journal, ?_⟩
    rw [speakAs_of_active sound active, call_utter (by rw [engine]), ← engine]
  · have loads := modelFor_of_hasModel (usable.resolve_left active)
    refine ⟨(studio.noting (.speakerSwitched speaker)).journal, ?_⟩
    rw [speakAs_of_loaded sound active loads, call_utter rfl]
    rfl

/-- What a call keeps: nothing breaks the engine, and its speaker and model stay in step. -/
theorem speakAs_inStep (sound : studio.poisoned = false) (inStep : speech.InStep studio.engine)
    (speaker text : String) :
    ((speech.voice launcher).speakAs speaker text studio).2.poisoned = false ∧
      speech.InStep ((speech.voice launcher).speakAs speaker text studio).2.engine := by
  by_cases usable : (speech.voice launcher).active studio.engine = some speaker ∨
      speech.HasModel studio.disk speaker
  · have plain : Path.isPlainName speaker = true := by
      rcases usable with active | hasModel
      · exact (inStep.of_active active).1
      · exact hasModel.1
    obtain ⟨journal, said⟩ := speakAs_of_usable sound inStep usable text
    rw [said]
    exact ⟨sound, .set plain⟩
  · obtain ⟨inactive, missing⟩ := not_or.mp usable
    obtain ⟨fault, refused⟩ := modelFor_of_not_hasModel missing
    rw [speakAs_of_refused sound inactive refused]
    exact ⟨sound, inStep⟩

theorem Reaches.inStep (reached : Reaches speech launcher start studio)
    (unloaded : start.engine = {}) (sound : start.poisoned = false) :
    studio.poisoned = false ∧ speech.InStep studio.engine := by
  induction reached with
  | start =>
      rw [unloaded]
      exact ⟨sound, .unset⟩
  | spoken _ speaker text ih => exact speakAs_inStep ih.1 ih.2 speaker text
  | elsewhere _ engine poisoned ih =>
      rw [engine, poisoned]
      exact ih

/--
After any history of calls, while files come and go, speaker and model are in step: both are unset,
or the speaker is a plain name and the model is the file of that name in the folder of the models. A
speaker who is active speaks without a switch. A name that is not plain, or without a model, is
refused as such: nothing changes but that the attempt is noted, and the speaker who was active stays
so on any disk. Any other call leaves its speaker and model loaded, whatever comes of its text. And
a call gives audio just when the program, run with the model of the speaker who was asked for, took
all of the text and ended with status 0: the audio is all that it printed, which is not nothing.
-/
theorem speaker_and_model_in_step (speech : SpeechProgram) (launcher : Launcher)
    {start studio : Studio LoadedVoice} (unloaded : start.engine = {})
    (sound : start.poisoned = false) (reached : Reaches speech launcher start studio) :
    let voice := speech.voice launcher
    (studio.engine.speaker = none ∧ studio.engine.model = none ∨
        ∃ speaker, Path.isPlainName speaker = true ∧ studio.engine.speaker = some speaker ∧
          studio.engine.model = some (speech.modelsDir.join speaker)) ∧
      ∀ speaker text,
        let model := speech.modelsDir.join speaker
        let active := voice.active studio.engine = some speaker
        let ending := voice.speakAs speaker text studio
        (active → ending = Studio.call (voice.utter text) studio ∧
          ending.2.engine = studio.engine) ∧
        (¬active → Path.isPlainName speaker = false →
          ending.1 = .error (.voice (.invalidSpeaker speaker))) ∧
        (¬active → Path.isPlainName speaker = true → studio.disk.isFile model = false →
          ending.1 = .error (.voice (.noModel speaker model))) ∧
        (¬active → ¬speech.HasModel studio.disk speaker →
          ending.2 = studio.noting (.speakerSwitched speaker) ∧
          ∀ earlier again disk, voice.active studio.engine = some earlier →
            voice.speakAs earlier again { ending.2 with disk } =
              Studio.call (voice.utter again) { ending.2 with disk }) ∧
        (¬active → speech.HasModel studio.disk speaker →
          ending.2.engine = ⟨some speaker, some model⟩) ∧
        ∀ bytes, ending.1 = .ok bytes ↔
          (active ∨ speech.HasModel studio.disk speaker) ∧
          ∃ outcome, launcher speech.program ⟨[model.text], text.toUTF8⟩ studio.disk =
              .ok (outcome, ending.2.disk) ∧
            outcome.status = .exited 0 ∧ outcome.unfed = none ∧ outcome.output = bytes ∧
            bytes.isEmpty = false := by
  intro voice
  obtain ⟨sound, inStep⟩ := reached.inStep unloaded sound
  refine ⟨?_, ?_⟩
  · generalize studio.engine = loaded at inStep
    cases inStep with
    | unset => exact Or.inl ⟨rfl, rfl⟩
    | @set speaker plain => exact Or.inr ⟨speaker, plain, rfl, rfl⟩
  intro speaker text model active ending
  have refusedWith (inactive : ¬active) (fault : VoiceFault)
      (refused : speech.modelFor speaker studio.disk = .error fault) :
      ending = (.error (.voice fault), studio.noting (.speakerSwitched speaker)) :=
    speakAs_of_refused sound inactive refused text
  refine ⟨?_, ?_, ?_, ?_, ?_, ?_⟩
  · intro isActive
    obtain ⟨-, engine⟩ := inStep.of_active isActive
    have said : ending = Studio.call (voice.utter text) studio :=
      speakAs_of_active sound isActive text
    refine ⟨said, ?_⟩
    rw [said, call_utter (by rw [engine])]
  · intro inactive crooked
    rw [refusedWith inactive (.invalidSpeaker speaker) (by rw [modelFor_eq, crooked]; rfl)]
  · intro inactive plain missing
    rw [refusedWith inactive (.noModel speaker model) (by rw [modelFor_eq, plain, missing]; rfl)]
  · intro inactive missing
    obtain ⟨fault, refused⟩ := modelFor_of_not_hasModel missing
    have ended := refusedWith inactive fault refused
    refine ⟨by rw [ended], ?_⟩
    intro earlier again disk isActive
    rw [ended]
    apply speakAs_of_active
    · exact sound
    · exact isActive
  · intro inactive hasModel
    have usable : active ∨ speech.HasModel studio.disk speaker := Or.inr hasModel
    obtain ⟨journal, said⟩ := speakAs_of_usable sound inStep usable text
    exact congrArg (fun ending => ending.2.engine) said
  · intro bytes
    by_cases usable : active ∨ speech.HasModel studio.disk speaker
    · obtain ⟨journal, said⟩ := speakAs_of_usable sound inStep usable text
      have result : ending.1 = (speech.speakWith launcher model text studio.disk).1.mapError
          .voice := congrArg Prod.fst said
      have changed : ending.2.disk = (speech.speakWith launcher model text studio.disk).2 :=
        congrArg (fun ending => ending.2.disk) said
      rw [result, changed, ← speakWith_eq_ok_iff, and_iff_right usable]
      cases (speech.speakWith launcher model text studio.disk).1 <;> simp [Except.mapError]
    · obtain ⟨inactive, missing⟩ := not_or.mp usable
      obtain ⟨fault, refused⟩ := modelFor_of_not_hasModel missing
      rw [refusedWith inactive fault refused]
      simp [usable]

def echo : Launcher := fun _ call disk =>
  .ok ({ status := .exited 0, output := call.input }, disk)

/-- A speaker who is loaded speaks on when the model is gone, and nobody else does. -/
theorem speaker_and_model_in_step_without_models :
    let speech : SpeechProgram := ⟨⟨"/tts"⟩, ⟨"/models"⟩⟩
    let voice := speech.voice echo
    let furnished : Disk :=
      ⟨[], [(["models"], .directory), (["ann", "models"], .file .empty false)]⟩
    let start : Studio LoadedVoice := { disk := furnished, engine := {} }
    let bare := { (voice.speakAs "ann" "hi" start).2 with disk := ⟨[], []⟩ }
    start.engine = {} ∧ start.poisoned = false ∧ Reaches speech echo start bare ∧
      bare.engine = ⟨some "ann", some ⟨"/models/ann"⟩⟩ ∧
      (voice.speakAs "ann" "yo" bare).1 = .ok "yo".toUTF8 ∧
      (voice.speakAs "bob" "yo" bare).1 = .error (.voice (.noModel "bob" ⟨"/models/bob"⟩)) ∧
      (voice.speakAs "../ann" "yo" bare).1 = .error (.voice (.invalidSpeaker "../ann")) := by
  intro speech voice furnished start bare
  have bared (studio : Studio LoadedVoice) (reached : Reaches speech echo start studio) :
      Reaches speech echo start { studio with disk := ⟨[], []⟩ } := .elsewhere reached rfl rfl
  have reached : Reaches speech echo start bare :=
    bared (voice.speakAs "ann" "hi" start).2 (.spoken .start "ann" "hi")
  have hasModel : speech.HasModel furnished "ann" := by
    constructor <;> decide
  have fresh : Reaches speech echo start start := .start
  obtain ⟨-, first⟩ := speaker_and_model_in_step speech echo rfl rfl fresh
  obtain ⟨-, -, -, -, loads, -⟩ := first "ann" "hi"
  have placed : speech.modelsDir.join "ann" = ⟨"/models/ann"⟩ := by decide
  have engine : bare.engine = ⟨some "ann", some ⟨"/models/ann"⟩⟩ := by
    rw [← placed]
    exact loads nofun hasModel
  obtain ⟨-, later⟩ := speaker_and_model_in_step speech echo rfl rfl reached
  have active : voice.active bare.engine = some "ann" := by
    rw [engine]
    rfl
  have other (name : String) (apart : name ≠ "ann") : voice.active bare.engine ≠ some name := by
    rw [active]
    exact fun same => apart (Option.some.inj same).symm
  refine ⟨rfl, rfl, reached, engine, ?_, ?_, ?_⟩
  · obtain ⟨said, -, -, -, -, heard⟩ := later "ann" "yo"
    have quiet : (voice.speakAs "ann" "yo" bare).2.disk = bare.disk := by
      rw [(said active).1, call_utter (congrArg LoadedVoice.model engine)]
      rfl
    refine (heard _).mpr ⟨Or.inl active, { status := .exited 0, output := "yo".toUTF8 }, ?_⟩
    rw [quiet]
    exact ⟨rfl, rfl, rfl, rfl, by decide⟩
  · have placed : speech.modelsDir.join "bob" = ⟨"/models/bob"⟩ := by decide
    rw [← placed]
    exact (later "bob" "yo").2.2.1 (other "bob" (by decide)) (by decide) (by decide)
  · exact (later "../ann" "yo").2.1 (other "../ann" (by decide)) (by decide)

end SpokenMarkup.SpeechProgram
