import Mathlib.Data.List.Find
import SpokenMarkup.Proofs.Studio.Confined

set_option autoImplicit false

namespace SpokenMarkup

namespace Plain

def load (input : Path) : FileTask ByteArray := fun disk =>
  match disk.read input with
  | .ok content => (.ok content, disk)
  | .error error =>
    (.error (.audio (.reported ("read " ++ input.text ++ ": " ++ error.message))), disk)

def loadAll : List Path → FileTask (List ByteArray)
  | [] => pure []
  | input :: rest => do
    let content ← load input
    let contents ← loadAll rest
    pure (content :: contents)

def save (output : Path) (content : ByteArray) : FileTask Unit := do
  FileTask.makeRoom output
  FileTask.update (Host.write {} output content) fun error =>
    .audio (.reported ("write " ++ output.text ++ ": " ++ error.message))

def joined (contents : List ByteArray) : ByteArray :=
  contents.foldl (· ++ ·) ByteArray.empty

def marked (label : String) (content : ByteArray) : ByteArray :=
  (label ++ "(").toUTF8 ++ content ++ ")".toUTF8

def mixer : Mixer where
  join inputs output := do
    let contents ← loadAll inputs
    save output (joined contents)
  applyPreset preset input output := do
    let content ← load input
    save output (marked preset.name content)
  convert input output := do
    let content ← load input
    save output (marked "wav" content)

def voice : Voice (Option String) where
  active := id
  activate speaker _ disk := (.done (), some speaker, disk)
  utter text active disk :=
    (.done ("<" ++ active.getD "?" ++ ":" ++ text ++ ">").toUTF8, active, disk)

def outcome : Except Fault Unit → Outcome
  | .ok _ => { status := .exited 0 }
  | .error _ => { status := .exited 1 }

/-- Writes down what was heard, with a mark in front of it. -/
def respond (mark : ByteArray) (output : Path) (heard : Except OsError ByteArray) (disk : Disk) :
    Outcome × Disk :=
  match heard with
  | .error _ => ({ status := .exited 1 }, disk)
  | .ok content =>
    let (result, after) := FileTask.update (Host.write {} output (mark ++ content))
      (.audio <| .reported <| OsError.message ·) disk
    (outcome result, after)

/-- Puts the content of its own file in front of its input. -/
def program (content : ByteArray) : Program := fun call disk =>
  match call.arguments with
  | [input, output] => respond content ⟨output⟩ (disk.read ⟨input⟩) disk
  | _ => ({ status := .exited 2 }, disk)

def launcher : Launcher :=
  Launcher.ofFiles fun content => .ok (program content)

/-- The plain equipment with a folder of recorded sounds and one of filter programs. -/
def equipment (sounds filters : Path) : Equipment (Option String) where
  voice
  assets := AssetFolder.find? ⟨sounds, ["wav", "mp3"]⟩
  mixer
  launcher
  filtersDir := filters

/-- The filter programs are those on the disk. -/
def acoustics (disk : Disk) : Acoustics where
  join parts := some (joined parts)
  preset preset content := some (marked preset.name content)
  convert
    | .ok content => some (marked "wav" content)
    | .error _ => none
  program path content := (disk.executable path).map fun mark => (.exited 0, mark ++ content)

variable {disk : Disk} {output : Path} {location : Location}

theorem load_eq {input : Path} {content : ByteArray} (read : disk.read input = .ok content) :
    load input disk = (.ok content, disk) := by
  simp [load, read]

theorem loadAll_eq (inputs : List Path) (contents : List ByteArray)
    (read : inputs.map disk.read = contents.map .ok) :
    loadAll inputs disk = (.ok contents, disk) := by
  induction inputs generalizing contents with
  | nil =>
      cases contents with
      | nil => rfl
      | cons content rest => cases read
  | cons input inputs ih =>
      cases contents with
      | nil => cases read
      | cons content rest =>
          obtain ⟨first, others⟩ := List.cons.inj read
          rw [loadAll, task_bind_ok _ (load_eq first), task_bind_ok _ (ih rest others)]
          rfl

theorem save_yields (vacant : disk.Vacant output location) (content : ByteArray) :
    Yields (some content) location disk (save output content disk) :=
  write_yields vacant rfl _

theorem mixer_yields (vacant : disk.Vacant output location) {input : Path} {content : ByteArray}
    (read : disk.read input = .ok content) (label : String) :
    Yields (some (marked label content)) location disk
      ((do
        let content ← load input
        save output (marked label content) : FileTask Unit) disk) := by
  rw [task_bind_ok _ (load_eq read)]
  exact save_yields vacant _

/-- A path that can be handed to a program. -/
structure IsArgument (path : Path) : Prop where
  clean : path.hasNul = false
  short : path.text.utf8ByteSize ≤ 2 * Disk.maxPathBytes

theorem isArgument_of_located {path : Path} (located : disk.locate path = .ok location) :
    IsArgument path := by
  obtain ⟨clean, -, short, -⟩ := (Disk.locate_eq_ok_iff disk path location).mp located
  exact ⟨clean, by omega⟩

/-- A file of a room is handed to programs also if its path cannot be followed. -/
theorem isArgument_numberedFile {dir : Path} {number : Nat} (located : disk.locate dir = .ok location)
    (short : (numberedName number).utf8ByteSize ≤ Disk.maxNameBytes) :
    IsArgument (numberedFile dir number) := by
  obtain ⟨clean, proper, limit, -⟩ := (Disk.locate_eq_ok_iff disk dir location).mp located
  obtain ⟨-, -, -, noSlash, -, noNul⟩ :=
    (Path.isPlainName_iff _).mp (isPlainName_numberedName number)
  rw [numberedFile_eq_join]
  refine ⟨(Path.hasNul_join dir _ proper noSlash noNul).trans clean, ?_⟩
  have relative : (numberedName number).toList.head? ≠ some '/' :=
    fun first => noSlash (List.mem_of_mem_head? first)
  have slash : ("/" : String).utf8ByteSize = 1 := rfl
  simp only [Disk.maxPathBytes, Disk.maxNameBytes] at limit short ⊢
  unfold Path.join
  rw [if_neg relative]
  split <;> simp only [String.utf8ByteSize_append] <;> omega

theorem launcher_eq {program input output : Path} {place : Location}
    (programLocated : disk.locate program = .ok place) (inputs : IsArgument input)
    (outputs : IsArgument output) :
    launcher program { arguments := [input.text, output.text] } disk =
      (disk.executable program).map fun mark =>
        Plain.program mark { arguments := [input.text, output.text] } disk := by
  obtain ⟨-, -, programShort, -⟩ := (Disk.locate_eq_ok_iff disk program place).mp programLocated
  obtain ⟨inputClean, inputShort⟩ := inputs
  obtain ⟨outputClean, outputShort⟩ := outputs
  have clean : Invocation.hasNul { arguments := [input.text, output.text] } = false := by
    simp only [Path.hasNul] at inputClean outputClean
    simp only [Invocation.hasNul, List.any_cons, List.any_nil, inputClean, outputClean,
      Bool.or_self]
  have short :
      Invocation.isTooLong { arguments := [input.text, output.text] } program = false := by
    simp only [Disk.maxPathBytes] at programShort inputShort outputShort
    simp [Invocation.isTooLong, Invocation.maxArgumentBytes, Invocation.maxTotalBytes,
      Invocation.room]
    omega
  unfold launcher Launcher.ofFiles
  simp only [clean, short, bind, Except.bind, pure, Except.pure, Bool.false_eq_true, if_false]
  cases disk.executable program <;> rfl

theorem isPlainName_dotted (id : String) (plain : Path.isPlainName id = true) (format : String)
    (supported : format ∈ ["wav", "mp3"]) : Path.isPlainName (id ++ "." ++ format) = true := by
  obtain ⟨nonempty, -, -, noSlash, noBackslash, noNul⟩ := (Path.isPlainName_iff id).mp plain
  have long : 4 ≤ (id ++ "." ++ format).toList.length := by
    rcases List.mem_pair.mp supported with rfl | rfl <;> simp [String.toList_append]
  have letters : ∀ c ∈ (id ++ "." ++ format).toList,
      c ∈ id.toList ∨ c ∈ ['.', 'w', 'a', 'v', 'm', 'p', '3'] := by
    intro c member
    simp only [String.toList_append, List.mem_append] at member
    rcases List.mem_pair.mp supported with rfl | rfl <;> simp at member ⊢ <;> tauto
  apply Path.isPlainName_of_length _ (by omega)
  · intro member
    exact (letters _ member).elim noSlash (by decide)
  · intro member
    exact (letters _ member).elim noBackslash (by decide)
  · intro member
    exact (letters _ member).elim noNul (by decide)

section Describes

variable {sounds filters : Path} {soundsPlace filtersPlace folder : Location} {dir : Path}

theorem programFor?_eq (sounds filters : Path) (id : String) (disk : Disk) :
    (equipment sounds filters).programFor? id disk =
      if Path.isPlainName id && disk.isFile (filters.join id) then some (filters.join id)
      else none := rfl

/-- Recorded sounds are found by what can be opened in their folder. -/
theorem assets_congr {first second : Disk}
    (same : ∀ name, Path.isPlainName name = true →
      second.openFile (sounds.join name) = first.openFile (sounds.join name)) (id : String) :
    (equipment sounds filters).assets id second = (equipment sounds filters).assets id first := by
  change AssetFolder.find? _ id second = AssetFolder.find? _ id first
  unfold AssetFolder.find?
  cases plain : Path.isPlainName id with
  | false => rfl
  | true =>
      rw [if_pos rfl, if_pos rfl]
      apply List.find?_congr
      intro asset member
      obtain ⟨format, supported, rfl⟩ := List.mem_map.mp member
      exact Disk.isFile_congr (same _ (isPlainName_dotted id plain format supported))

theorem openFile_asset {first second : Disk}
    (same : ∀ name, Path.isPlainName name = true →
      second.openFile (sounds.join name) = first.openFile (sounds.join name)) {id : String}
    {asset : Asset} (found : (equipment sounds filters).assets id first = some asset) :
    second.openFile asset.path = first.openFile asset.path := by
  change AssetFolder.find? _ id first = some asset at found
  unfold AssetFolder.find? at found
  cases plain : Path.isPlainName id with
  | false =>
      rw [plain] at found
      cases found
  | true =>
      rw [plain, if_pos rfl] at found
      obtain ⟨format, supported, rfl⟩ := List.mem_map.mp (List.mem_of_find?_eq_some found)
      exact same _ (isPlainName_dotted id plain format supported)

theorem programFor?_congr {first second : Disk}
    (same : ∀ name, Path.isPlainName name = true →
      second.openFile (filters.join name) = first.openFile (filters.join name)) (id : String) :
    (equipment sounds filters).programFor? id second =
      (equipment sounds filters).programFor? id first := by
  rw [programFor?_eq, programFor?_eq]
  cases plain : Path.isPlainName id with
  | false => rfl
  | true => rw [Disk.isFile_congr (same id plain)]

theorem looksAside (fresh : disk.IsEmptyFolder dir folder)
    (soundsApart : disk.StandsApart sounds soundsPlace folder)
    (filtersApart : disk.StandsApart filters filtersPlace folder) :
    (equipment sounds filters).LooksAside disk folder where
  finds _ agree id :=
    assets_congr (fun _ plain => soundsApart.openFile_join fresh agree plain) id
  opens _ agree _ _ found :=
    openFile_asset (fun _ plain => soundsApart.openFile_join fresh agree plain) found
  offers _ agree id :=
    programFor?_congr (fun _ plain => filtersApart.openFile_join fresh agree plain) id

/-- A filter program stays where it is, and what it is. -/
theorem executable_offered {first second : Disk}
    (same : ∀ name, Path.isPlainName name = true →
      second.openFile (filters.join name) = first.openFile (filters.join name)) {id : String}
    {program : Path} (offered : (equipment sounds filters).programFor? id first = some program) :
    second.executable program = first.executable program ∧
      ∃ place, second.locate program = .ok place := by
  rw [programFor?_eq] at offered
  split at offered
  · rename_i found
    obtain ⟨plain, file⟩ := (Bool.and_eq_true _ _).mp found
    obtain rfl := Option.some.inj offered
    obtain ⟨held, opened⟩ := (Disk.isFile_iff _ _).mp file
    exact ⟨Disk.executable_congr (same id plain),
      Disk.located_of_openFile ((same id plain).trans opened)⟩
  · cases offered

theorem program_of_offered (fresh : disk.IsEmptyFolder dir folder)
    (filtersApart : disk.StandsApart filters filtersPlace folder) {other : Disk}
    (agree : disk.AgreeOff (Disk.below folder) other) {id : String} {program : Path}
    (offered : (equipment sounds filters).programFor? id disk = some program) :
    other.executable program = disk.executable program ∧
      ∃ place, other.locate program = .ok place :=
  executable_offered (fun _ plain => filtersApart.openFile_join fresh agree plain) offered

/-- A filter program that is offered is run on any part that can be read. -/
theorem launcher_offered (fresh : disk.IsEmptyFolder dir folder)
    (filtersApart : disk.StandsApart filters filtersPlace folder) {other : Disk}
    (agree : disk.AgreeOff (Disk.below folder) other) {id : String} {program input output : Path}
    {location : Location} {part : ByteArray}
    (offered : (equipment sounds filters).programFor? id disk = some program)
    (read : other.read input = .ok part) (vacant : other.Vacant output location) :
    launcher program { arguments := [input.text, output.text] } other =
      (disk.executable program).map fun mark =>
        Plain.program mark { arguments := [input.text, output.text] } other := by
  obtain ⟨same, place, located⟩ := program_of_offered fresh filtersApart agree offered
  obtain ⟨executable, opened⟩ := (read_eq_ok_iff other input part).mp read
  obtain ⟨source, found⟩ := Disk.located_of_openFile opened
  rw [launcher_eq located (isArgument_of_located found) (isArgument_of_located vacant.located), same]

/-- The plain equipment does what the plain acoustics say, whatever the scratch folder is, as long
as its other folders are not in there. -/
theorem describes (fresh : disk.IsEmptyFolder dir folder)
    (soundsApart : disk.StandsApart sounds soundsPlace folder)
    (filtersApart : disk.StandsApart filters filtersPlace folder) :
    (acoustics disk).Describes (equipment sounds filters) disk folder where
  toLooksAside := looksAside fresh soundsApart filtersApart
  writes _ _ _ _ _ _ _ := rfl
  copies _ _ _ _ _ _ _ _ := rfl
  activates other _ speaker engine := ⟨rfl, rfl, Disk.AgreeOff.refl _ _⟩
  utters other _ text engine := ⟨rfl, rfl, Disk.AgreeOff.refl _ _⟩
  joins := by
    intro other agree inputs output location parts several read vacant
    simp only [equipment, mixer]
    rw [task_bind_ok _ (loadAll_eq inputs parts read)]
    exact save_yields vacant _
  applies := by
    intro other agree preset input output location part read vacant
    exact mixer_yields vacant read preset.name
  converts := by
    intro other agree input output location vacant
    cases read : other.read input with
    | ok content => exact mixer_yields vacant read "wav"
    | error error =>
        simp only [equipment, mixer]
        rw [task_bind]
        simp only [load, read]
        exact yields_none other location _
  refuses := by
    intro other agree id program input output location part error offered read vacant refused
    change launcher program _ other = _
    rw [launcher_offered fresh filtersApart agree offered read vacant]
    change (disk.executable program).map _ = _ at refused
    cases held : disk.executable program with
    | ok mark =>
        rw [held] at refused
        cases refused
    | error reason =>
        rw [held] at refused
        cases refused
        rfl
  runs := by
    intro other agree id program input output location part status made offered read vacant ended
    have launched := launcher_offered fresh filtersApart agree offered read vacant
    change (disk.executable program).map _ = _ at ended
    cases held : disk.executable program with
    | error reason =>
        rw [held] at ended
        cases ended
    | ok mark =>
        rw [held] at ended launched
        cases ended
        refine ⟨{ status := .exited 0 }, other.put location (.file (mark ++ part) false), ?_, rfl,
          Disk.agreeOff_put other location _, fun _ => ⟨false, ?_⟩⟩
        · change launcher program _ other = _
          rw [launched]
          have written : Host.write {} output (mark ++ part) other =
              (.ok (), other.put location (.file (mark ++ part) false)) := vacant.write_eq rfl
          simp only [Except.map, Plain.program, respond, read, FileTask.update, written]
          rfl
        · exact Disk.lookup_put_self other location _ vacant.proper

theorem load_kept (input : Path) (disk : Disk) : (load input disk).2 = disk := by
  unfold load
  cases disk.read input <;> rfl

theorem load_congr {input : Path} {first second : Disk}
    (same : first.openFile input = second.openFile input) :
    (load input first).1 = (load input second).1 := by
  unfold load
  rw [Disk.read_congr same]
  cases second.read input <;> rfl

/-- Reading files one after the other depends on nothing but these files. -/
theorem loadAll_congr (inputs : List Path) {first second : Disk}
    (same : ∀ input ∈ inputs, first.openFile input = second.openFile input) :
    (loadAll inputs first).1 = (loadAll inputs second).1 ∧ (loadAll inputs first).2 = first := by
  induction inputs with
  | nil => exact ⟨rfl, rfl⟩
  | cons input rest ih =>
      obtain ⟨others, kept⟩ := ih fun later member => same later (List.mem_cons_of_mem _ member)
      have one := load_congr (same input List.mem_cons_self)
      rw [loadAll, task_bind_kept _ (load_kept input first),
        task_bind_kept _ (load_kept input second), one]
      cases (load input second).1 with
      | error fault => exact ⟨rfl, rfl⟩
      | ok content =>
          simp only
          rw [task_bind_kept _ kept, task_bind, others]
          obtain ⟨_ | _, _⟩ := loadAll rest second
          · exact ⟨rfl, rfl⟩
          · exact ⟨rfl, rfl⟩

theorem respond_confined (fresh : disk.IsEmptyFolder dir folder) (mark : ByteArray)
    (inputs : List Path) (number : Nat) (heard : Except OsError ByteArray) :
    Confined disk folder inputs (Disk.numbered folder number)
      (respond mark (numberedFile dir number) heard) := by
  cases heard with
  | error error => exact Confined.idle _
  | ok content =>
      have written : Confined disk folder inputs (Disk.numbered folder number) _ :=
        confined_write inputs fresh {} (mark ++ content) (.audio <| .reported <| OsError.message ·)
      -- the path is opaque here, or else its text is computed to compare the two sides
      generalize numberedFile dir number = output at written ⊢
      exact written.map outcome

theorem program_apply (mark : ByteArray) (input output : Path) :
    Plain.program mark { arguments := [input.text, output.text] } =
      fun disk => respond mark output (disk.read input) disk :=
  rfl

theorem program_confined (fresh : disk.IsEmptyFolder dir folder) (mark : ByteArray) (input : Path)
    (number : Nat) :
    Confined disk folder [input] (Disk.numbered folder number)
      (Plain.program mark { arguments := [input.text, (numberedFile dir number).text] }) := by
  rw [program_apply]
  refine Confined.reading ?_ (respond_confined fresh mark [input] number)
  intro first second _ _ same
  exact Disk.read_congr (same input List.mem_cons_self)

theorem attempt_launcher (program input output : Path) (disk : Disk) :
    launcher.attempt program input output disk =
      if Invocation.hasNul { arguments := [input.text, output.text] } then
        (.error .nulInCommand, disk)
      else match disk.executable program with
        | .error error => (.error error, disk)
        | .ok mark =>
          if Invocation.isTooLong { arguments := [input.text, output.text] } program then
            (.error .argumentTooLong, disk)
          else
            (.ok (Plain.program mark { arguments := [input.text, output.text] } disk).1,
              (Plain.program mark { arguments := [input.text, output.text] } disk).2) := by
  unfold Launcher.attempt launcher Launcher.ofFiles
  by_cases nul : Invocation.hasNul { arguments := [input.text, output.text] } = true
  · rw [if_pos nul, if_pos nul]
    rfl
  · rw [if_neg nul, if_neg nul]
    cases disk.executable program with
    | error error => rfl
    | ok mark =>
        by_cases long : Invocation.isTooLong { arguments := [input.text, output.text] } program
        · simp only [long, if_true]
          rfl
        · simp only [long, if_false, Bool.false_eq_true]
          rfl

theorem confines (fresh : disk.IsEmptyFolder dir folder)
    (soundsApart : disk.StandsApart sounds soundsPlace folder)
    (filtersApart : disk.StandsApart filters filtersPlace folder) :
    (equipment sounds filters).Confines disk dir folder where
  toLooksAside := looksAside fresh soundsApart filtersApart
  joins := by
    intro sources number
    refine Confined.bind ?_ ?_ fun contents =>
      confined_makeRoom fresh (confined_write _ fresh {} (joined contents) _)
    · intro other
      exact (loadAll_congr _ fun _ _ => rfl).2
    · intro first second _ _ same
      exact (loadAll_congr _ same).1
  applies := by
    intro preset source number
    refine Confined.bind (load_kept _) ?_ fun content =>
      confined_makeRoom fresh (confined_write _ fresh {} (marked preset.name content) _)
    intro first second _ _ same
    exact load_congr (same _ List.mem_cons_self)
  converts := by
    intro id asset number found
    refine Confined.bind (load_kept _) ?_ fun content =>
      confined_makeRoom fresh (confined_write _ fresh {} (marked "wav" content) _)
    intro first second _ _ same
    exact load_congr (same _ List.mem_cons_self)
  runs := by
    intro id program source number offered
    have same : ∀ other, disk.AgreeOff (Disk.below folder) other →
        other.executable program = disk.executable program :=
      fun other agree => (program_of_offered fresh filtersApart agree offered).1
    have equation := fun other agree =>
      (attempt_launcher program (numberedFile dir source) (numberedFile dir number) other).trans
        (by rw [same other agree])
    change Confined disk folder _ _
      (launcher.attempt program (numberedFile dir source) (numberedFile dir number))
    refine Confined.congr ?_ equation
    split
    · exact Confined.idle _
    · cases disk.executable program with
      | error error => exact Confined.idle _
      | ok mark =>
          simp only
          split
          · exact Confined.idle _
          · exact (program_confined fresh mark _ number).map Except.ok

end Describes

/-- A disk with an empty working directory, one recorded sound and one filter program. -/
def house : Disk where
  home := ["work"]
  entries :=
    [(["work"], .directory), (["sound-effects"], .directory), (["sound-filters"], .directory),
      (["ding.wav", "sound-effects"], .file "ding".toUTF8 false),
      (["loud", "sound-filters"], .file "loud:".toUTF8 true)]

def kit : Equipment (Option String) :=
  equipment ⟨"/sound-effects"⟩ ⟨"/sound-filters"⟩

/-- The system when there is no space left where one file would be. -/
def fullAt (output : Path) : Host where
  writing path _ := if path = output then some (0, .other "No space left on device" 28) else none

/-- The system when no directory may be removed. -/
def locked : Host where
  removing _ := some
    { error := .permissionDenied
      standing := nofun
      spares := fun _ => true
      closed := fun _ _ _ => rfl }

def stage : Studio (Option String) :=
  { disk := house, engine := none }

/-- Two voices, a recorded sound, a filter program and a sound that does not exist. -/
def tune : Node :=
  .group [.speech "a" "hi", .effect "ding", .filter "loud" (.speech "b" "yo"), .effect "gone"]

def duet : Node :=
  .group [.speech "a" "hi", .speech "b" "yo"]

/-- Nested, empty and lone groups, a text with blanks around it and a blank one. -/
def ragged : Node :=
  .group [.group [], .speech "a" " hi ", .speech "b" " ",
    .filter "loud" (.group [.group [.effect "ding"]])]

theorem work_empty : ∀ location ∈ Disk.below ["work"], house.entry? location = none :=
  Disk.empty_below_of_entries (by decide)

theorem work_isEmptyFolder : house.IsEmptyFolder ⟨"/work"⟩ ["work"] :=
  ⟨rfl, rfl, work_empty⟩

theorem sounds_apart : house.StandsApart ⟨"/sound-effects"⟩ ["sound-effects"] ["work"] :=
  ⟨rfl, rfl, by decide⟩

theorem filters_apart : house.StandsApart ⟨"/sound-filters"⟩ ["sound-filters"] ["work"] :=
  ⟨rfl, rfl, by decide⟩

theorem kit_describes : (acoustics house).Describes kit house ["work"] :=
  describes work_isEmptyFolder sounds_apart filters_apart

theorem kit_confines : kit.Confines house ⟨"/work"⟩ ["work"] :=
  confines work_isEmptyFolder sounds_apart filters_apart

def utterance (speaker text : String) : Except Fault ByteArray :=
  .ok ("<" ++ speaker ++ ":" ++ text ++ ">").toUTF8

theorem voice_repeats (start : Disk) (folder : Location) (speaker : Option String) :
    voice.Repeats start folder ⟨speaker, false⟩ utterance := by
  have spoken : ∀ (studio : Studio (Option String)) (speaker text : String),
      studio.poisoned = false → (voice.speakAs speaker text studio).1 = utterance speaker text ∧
        (voice.speakAs speaker text studio).2.poisoned = false ∧
        (voice.speakAs speaker text studio).2.disk = studio.disk := by
    intro studio speaker text sound
    rw [speakAs_apply, sound]
    by_cases engine : studio.engine = some speaker
    · simp [engine, Studio.call, voice, utterance, sound]
    · simp [engine, Studio.call, voice, utterance, sound, Studio.noting]
  have clean : ∀ booth, voice.Reaches start folder ⟨speaker, false⟩ booth →
      booth.poisoned = false := by
    intro booth reached
    induction reached with
    | initial => rfl
    | spoken _ _ speaker text ih => exact (spoken _ speaker text ih).2.1
  constructor
  · intro studio reached _ speaker text
    exact (spoken studio speaker text (clean _ reached)).1
  · intro studio reached _ speaker text
    rw [(spoken studio speaker text (clean _ reached)).2.2]
    exact Disk.AgreeOff.refl _ _

end Plain

end SpokenMarkup
