import SpokenMarkup.Proofs.Composition.NormalForm
import SpokenMarkup.Proofs.Studio.Rendering

set_option autoImplicit false

namespace SpokenMarkup

namespace Node

mutual

/-- The tree with its speech trimmed. For a blank text there is a group of nothing, which fails
without a word. -/
def trimmed : Node → Node
  | group children target => group (trimmedAll children) target
  | speech speaker text target =>
    if Text.trim text = "" then group [] target else speech speaker (Text.trim text) target
  | effect id target => effect id target
  | filter id child target => filter id (trimmed child) target

def trimmedAll : List Node → List Node
  | [] => []
  | node :: rest => trimmed node :: trimmedAll rest

end

variable {V : Type} (equipment : Equipment V) (acoustics : Acoustics) (disk : Disk)

def audioLeft : Option Node → Booth V → Option ByteArray × Booth V
  | none, booth => (none, booth)
  | some node, booth => node.audio equipment acoustics disk booth

theorem audioAll_append (front back : List Node) (booth : Booth V) :
    audioAll equipment acoustics disk (front ++ back) booth =
      ((audioAll equipment acoustics disk front booth).1 ++
        (audioAll equipment acoustics disk back
          (audioAll equipment acoustics disk front booth).2).1,
        (audioAll equipment acoustics disk back
          (audioAll equipment acoustics disk front booth).2).2) := by
  induction front generalizing booth with
  | nil => rfl
  | cons node rest ih =>
      simp only [List.cons_append, audioAll]
      rw [ih]
      simp only [List.append_assoc]

theorem audioAll_toList (left : Option Node) (booth : Booth V) :
    audioAll equipment acoustics disk left.toList booth =
      ((audioLeft equipment acoustics disk left booth).1.toList,
        (audioLeft equipment acoustics disk left booth).2) := by
  cases left with
  | none => rfl
  | some node => simp only [Option.toList, audioAll, audioLeft, List.append_nil]

/-- A group of one sounds like the one, whether or not that has audio. -/
theorem joined_toList (part : Option ByteArray) : acoustics.joined part.toList = part := by
  cases part <;> rfl

/-- Regrouping drops groups that change nothing. -/
theorem audioLeft_regroup (isRoot : Bool) (kept : List Node) (booth : Booth V) :
    audioLeft equipment acoustics disk (Normalizer.regroup isRoot kept) booth =
      (acoustics.joined (audioAll equipment acoustics disk kept booth).1,
        (audioAll equipment acoustics disk kept booth).2) := by
  cases kept with
  | nil => rfl
  | cons first rest =>
      cases rest with
      | cons second rest => rfl
      | nil =>
          cases isRoot with
          | true => rfl
          | false =>
              change audioLeft equipment acoustics disk (some first) booth =
                (acoustics.joined (audioAll equipment acoustics disk (some first).toList booth).1,
                  (audioAll equipment acoustics disk (some first).toList booth).2)
              rw [audioAll_toList, joined_toList]

mutual

theorem audio_trimmed (node : Node) (isRoot : Bool) (booth : Booth V) :
    node.trimmed.audio equipment acoustics disk booth =
      audioLeft equipment acoustics disk (node.settle isRoot) booth := by
  cases node with
  | speech speaker text target =>
      simp only [trimmed, settle]
      by_cases blank : Text.trim text = ""
      · rw [if_pos blank, if_pos blank]
        rfl
      · rw [if_neg blank, if_neg blank]
        rfl
  | effect id target => rfl
  | group children target =>
      simp only [trimmed, settle, audio]
      rw [audioLeft_regroup, audioAll_trimmed children booth]
  | filter id child target =>
      simp only [trimmed, settle, audio]
      rw [audio_trimmed child false booth]
      cases child.settle false with
      | none => rfl
      | some kept => rfl

theorem audioAll_trimmed (nodes : List Node) (booth : Booth V) :
    audioAll equipment acoustics disk (trimmedAll nodes) booth =
      audioAll equipment acoustics disk (settleAll nodes) booth := by
  cases nodes with
  | nil => rfl
  | cons node rest =>
      simp only [trimmedAll, settleAll, audioAll]
      rw [audioAll_append, audioAll_toList, audio_trimmed node false booth,
        audioAll_trimmed rest]

end

/-- A root may be wrapped into a group of its own. -/
theorem audio_asRoot (left : Option Node) (booth : Booth V) :
    (asRoot left).audio equipment acoustics disk booth =
      audioLeft equipment acoustics disk left booth := by
  have wrapped := audioLeft_regroup equipment acoustics disk true left.toList booth
  rw [audioAll_toList, joined_toList] at wrapped
  cases left with
  | none => rfl
  | some node =>
      cases node with
      | group children target => rfl
      | speech speaker text target => exact wrapped
      | effect id target => exact wrapped
      | filter id child target => exact wrapped

theorem audio_normalizeRoot (root : Node) (booth : Booth V) :
    root.normalizeRoot.audio equipment acoustics disk booth =
      root.trimmed.audio equipment acoustics disk booth := by
  rw [normalizeRoot_eq_asRoot, audio_asRoot, ← audio_trimmed]

end Node

/-- A call of the voice engine. -/
inductive VoiceCall where
  | activate (speaker : String)
  | utter (text : String)
deriving DecidableEq, Repr

def Voice.recording {V : Type} (voice : Voice V) : Voice (V × List VoiceCall) where
  active state := voice.active state.1
  activate speaker state disk :=
    let (reply, engine, changed) := voice.activate speaker state.1 disk
    (reply, (engine, state.2 ++ [.activate speaker]), changed)
  utter text state disk :=
    let (reply, engine, changed) := voice.utter text state.1 disk
    (reply, (engine, state.2 ++ [.utter text]), changed)

def Equipment.recording {V : Type} (equipment : Equipment V) :
    Equipment (V × List VoiceCall) where
  voice := equipment.voice.recording
  assets := equipment.assets
  mixer := equipment.mixer
  launcher := equipment.launcher
  filtersDir := equipment.filtersDir
  host := equipment.host

def Studio.recording {V : Type} (studio : Studio V) : Studio (V × List VoiceCall) where
  disk := studio.disk
  engine := (studio.engine, [])
  poisoned := studio.poisoned
  renders := studio.renders
  journal := studio.journal

variable {V : Type}

theorem Acoustics.Describes.recording {acoustics : Acoustics} {equipment : Equipment V}
    {disk : Disk} {folder : Location} (describes : acoustics.Describes equipment disk folder) :
    acoustics.Describes equipment.recording disk folder where
  finds := describes.finds
  opens := describes.opens
  offers := describes.offers
  writes := describes.writes
  copies := describes.copies
  activates other agree speaker state := by
    have aside := describes.activates other agree speaker state.1
    exact ⟨aside.1, congrArg (·, state.2 ++ [.activate speaker]) aside.2.1, aside.2.2⟩
  utters other agree text state := by
    have aside := describes.utters other agree text state.1
    exact ⟨aside.1, congrArg (·, state.2 ++ [.utter text]) aside.2.1, aside.2.2⟩
  joins := describes.joins
  applies := describes.applies
  converts := describes.converts
  refuses := describes.refuses
  runs := describes.runs

variable {acoustics : Acoustics} {dir dirOther : Path} {folder folderOther : Location}

/-- The two trees of a normalization are rendered to the same audio, and leave the same booth. -/
theorem rendered_alike {equipment : Equipment V} (sideBySide : Bool) (tree : Node)
    (first firstOther : Nat) (studio : Studio V)
    (fresh : studio.disk.IsEmptyFolder dir folder)
    (freshOther : studio.disk.IsEmptyFolder dirOther folderOther)
    (describes : acoustics.Describes equipment studio.disk folder)
    (describesOther : acoustics.Describes equipment studio.disk folderOther)
    (fits : ∀ number, first ≤ number → number < first + tree.normalizeRoot.size →
      Disk.Fits dir number)
    (fitsOther : ∀ number, firstOther ≤ number → number < firstOther + tree.trimmed.size →
      Disk.Fits dirOther number) :
    let normal := (equipment.job sideBySide (tree.normalizeRoot.number dir first)).run studio
    let whole := (equipment.job sideBySide (tree.trimmed.number dirOther firstOther)).run studio
    normal.2.booth = whole.2.booth ∧
      ∃ audio : Option ByteArray, normal.1.audio.map normal.2.disk.read = audio.map .ok ∧
        whole.1.audio.map whole.2.disk.read = audio.map .ok := by
  intro normal whole
  have left := root_rendered sideBySide tree.normalizeRoot first studio fresh describes fits
  have right := root_rendered sideBySide tree.trimmed firstOther studio freshOther describesOther
    fitsOther
  have own := fits first (Nat.le_refl _) (Nat.lt_add_of_pos_right tree.normalizeRoot.size_pos)
  have ownOther := fitsOther firstOther (Nat.le_refl _)
    (Nat.lt_add_of_pos_right tree.trimmed.size_pos)
  rw [Node.audio_normalizeRoot] at left
  exact ⟨left.booth.trans right.booth.symm, _, left.read_audio fresh own,
    right.read_audio freshOther ownOther⟩

/--
Normalization preserves what is heard. The normal form of a tree and the tree itself, with its
speech trimmed and its blank speech muted, are rendered to the same audio or to none, with the same
calls of the voice engine in the same order.
-/
theorem normalize_keeps_audio (equipment : Equipment V) (acoustics : Acoustics)
    (sideBySide : Bool) (tree : Node) (dir dirOther : Path) (folder folderOther : Location)
    (first firstOther : Nat) (studio : Studio V)
    (fresh : studio.disk.IsEmptyFolder dir folder)
    (freshOther : studio.disk.IsEmptyFolder dirOther folderOther)
    (describes : acoustics.Describes equipment studio.disk folder)
    (describesOther : acoustics.Describes equipment studio.disk folderOther)
    (fits : ∀ number, first ≤ number → number < first + tree.normalizeRoot.size →
      Disk.Fits dir number)
    (fitsOther : ∀ number, firstOther ≤ number → number < firstOther + tree.trimmed.size →
      Disk.Fits dirOther number) :
    let normal := (equipment.job sideBySide (tree.normalizeRoot.number dir first)).run studio
    let whole := (equipment.job sideBySide (tree.trimmed.number dirOther firstOther)).run studio
    let normalRecorded := (equipment.recording.job sideBySide
      (tree.normalizeRoot.number dir first)).run studio.recording
    let wholeRecorded := (equipment.recording.job sideBySide
      (tree.trimmed.number dirOther firstOther)).run studio.recording
    (∃ audio : Option ByteArray, normal.1.audio.map normal.2.disk.read = audio.map .ok ∧
      whole.1.audio.map whole.2.disk.read = audio.map .ok) ∧
      normalRecorded.2.engine.2 = wholeRecorded.2.engine.2 := by
  intro normal whole normalRecorded wholeRecorded
  have heard := rendered_alike sideBySide tree first firstOther studio fresh freshOther describes
    describesOther fits fitsOther
  have recorded := rendered_alike sideBySide tree first firstOther studio.recording fresh freshOther
    describes.recording describesOther.recording fits fitsOther
  have engines : normalRecorded.2.engine = wholeRecorded.2.engine :=
    congrArg Booth.engine recorded.1
  exact ⟨heard.2, congrArg Prod.snd engines⟩

theorem ragged_normalizeRoot :
    Plain.ragged.normalizeRoot = .group [.speech "a" "hi", .filter "loud" (.effect "ding")] := by
  rw [Node.normalizeRoot_eq_asRoot]
  decide

theorem normalize_keeps_audio_of_ragged :
    let normal := (Plain.kit.job false (Plain.ragged.normalizeRoot.number ⟨"/work"⟩ 0)).run
      Plain.stage
    let whole := (Plain.kit.job false (Plain.ragged.trimmed.number ⟨"/work"⟩ 0)).run Plain.stage
    let normalRecorded := (Plain.kit.recording.job false
      (Plain.ragged.normalizeRoot.number ⟨"/work"⟩ 0)).run Plain.stage.recording
    let wholeRecorded := (Plain.kit.recording.job false
      (Plain.ragged.trimmed.number ⟨"/work"⟩ 0)).run Plain.stage.recording
    normal.1.audio.map normal.2.disk.read = whole.1.audio.map whole.2.disk.read ∧
      normalRecorded.2.engine.2 = wholeRecorded.2.engine.2 := by
  have fits : ∀ number, number < 9 → Disk.Fits ⟨"/work"⟩ number := by decide
  have small : 0 + Plain.ragged.normalizeRoot.size ≤ 9 := by
    rw [ragged_normalizeRoot]
    decide
  have smallOther : 0 + Plain.ragged.trimmed.size ≤ 9 := by decide
  have kept := normalize_keeps_audio Plain.kit (Plain.acoustics Plain.house) false Plain.ragged
    ⟨"/work"⟩ ⟨"/work"⟩ ["work"] ["work"] 0 0 Plain.stage Plain.work_isEmptyFolder
    Plain.work_isEmptyFolder Plain.kit_describes Plain.kit_describes
    (fun number _ under => fits number (Nat.lt_of_lt_of_le under small))
    (fun number _ under => fits number (Nat.lt_of_lt_of_le under smallOther))
  dsimp only at kept ⊢
  rcases kept with ⟨⟨audio, left, right⟩, calls⟩
  exact ⟨left.trans right.symm, calls⟩

theorem emptyGroup_run (equipment : Equipment V) (sideBySide : Bool) (target : Path)
    (studio : Studio V) :
    (equipment.job sideBySide (.group [] target)).run studio = (⟨none, []⟩, studio) := by
  simp only [Equipment.job, Equipment.jobs, Job.run_bind, Job.run_pure]
  rw [conclude_run]
  rfl

theorem group_silent (equipment : Equipment V) (sideBySide : Bool) (inner outer : Path)
    (child : Node) (studio : Studio V)
    (silent : ((equipment.job sideBySide child).run studio).1.audio = none) :
    ((equipment.job sideBySide (.group [.group [] inner, child] outer)).run studio).1.audio =
      none := by
  rw [Equipment.job, Job.run_bind, Equipment.jobs, Equipment.jobs, Equipment.jobs]
  simp only [Job.run]
  rw [emptyGroup_run]
  generalize (equipment.job sideBySide child).run studio = ending at silent ⊢
  rcases ending with ⟨rendition, after⟩
  simp only at silent
  have survivors : [(⟨none, []⟩ : Rendition), rendition].filterMap (·.audio) = [] := by
    simp [silent]
  simp only [Job.run_pure]
  rw [survivors, conclude_run]
  rfl

/-- A number more for a group that the normal form leaves out, and a path is too long, or there is no
space for the file. -/
theorem normalize_changes_audio_of_long_path :
    let dir := Disk.dotted 2044
    let tree := Node.group [.group [], .speech "a" "hi"]
    let kit := { Plain.kit with host := Plain.fullAt ⟨"/work/002.wav"⟩ }
    (Plain.house.IsEmptyFolder dir ["work"] ∧
      (Plain.acoustics Plain.house).Describes Plain.kit Plain.house ["work"] ∧
      ((Plain.kit.job false (tree.normalizeRoot.number dir 998)).run Plain.stage).1.audio =
        some (numberedFile dir 998) ∧
      ((Plain.kit.job false (tree.trimmed.number dir 998)).run Plain.stage).1.audio = none) ∧
    ((kit.job false (tree.normalizeRoot.number ⟨"/work"⟩ 0)).run Plain.stage).1.audio =
        some ⟨"/work/000.wav"⟩ ∧
      ((kit.job false (tree.trimmed.number ⟨"/work"⟩ 0)).run Plain.stage).1.audio = none := by
  intro dir tree kit
  have fresh : Plain.house.IsEmptyFolder dir ["work"] :=
    Disk.isEmptyFolder_dotted Plain.house 2044 (by decide) (by decide) rfl Plain.work_empty
  have size : ∀ number, (numberedFile dir number).text.utf8ByteSize =
      2 * 2044 + (numberedName number).utf8ByteSize :=
    fun number => Disk.utf8ByteSize_numberedFile_dotted 2044 number (by decide)
  clear_value dir
  have long : ¬Disk.Fits dir 1000 := by
    intro fits
    have name : (numberedName 1000).utf8ByteSize = 8 := by decide
    have limit := fits.1
    rw [size, name] at limit
    exact absurd limit (by decide)
  have fits : ∀ number, 998 ≤ number → number < 998 + 2 → Disk.Fits dir number := by
    intro number lower upper
    have names : ∀ small, small < 2 → (numberedName (998 + small)).utf8ByteSize = 7 := by decide
    have name := names (number - 998) (by omega)
    rw [Nat.add_sub_cancel' lower] at name
    refine ⟨?_, ?_⟩
    · rw [size, name]
      decide
    · rw [name]
      decide
  have normal : tree.normalizeRoot = .group [.speech "a" "hi"] := by
    rw [Node.normalizeRoot_eq_asRoot]
    decide
  have trimmed : tree.trimmed = tree := by decide
  have numbered : tree.number dir 998 = .group [.group [] (numberedFile dir 999),
      .speech "a" "hi" (numberedFile dir 1000)] (numberedFile dir 998) := by
    simp only [tree, Node.number_eq_numberFrom, Node.numberFrom, Node.numberAllFrom]
  refine ⟨⟨fresh, Plain.kit_describes, ?_, ?_⟩, ?_⟩
  · rw [normal]
    have rendered := root_rendered false (.group [.speech "a" "hi"]) 998 Plain.stage fresh
      Plain.kit_describes fits
    exact (rendered.heard "<a:hi>".toUTF8 rfl).1
  · have dropped := speech_dropped fresh Plain.kit_describes false "a" "hi" Plain.stage
      (Disk.AgreeOff.refl _ _) long
    rw [trimmed, numbered]
    exact group_silent Plain.kit false _ _ _ Plain.stage dropped
  · rw [normal, trimmed]
    decide +kernel

end SpokenMarkup
