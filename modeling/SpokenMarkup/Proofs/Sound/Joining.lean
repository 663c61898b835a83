import SpokenMarkup.Proofs.Sound.Pads
import SpokenMarkup.Proofs.Studio.Tasks
import SpokenMarkup.Sound.FfmpegMixer

set_option autoImplicit false

namespace SpokenMarkup

/-- Whatever programs do, the task comes to one start of a program: it ends with what the start
leaves of the disk, and its result is told by how the start went. -/
def StartsOnce (task : Launcher → FileTask Unit) (disk : Disk) (program : Path)
    (call : Invocation) : Prop :=
  ∃ (before : Disk) (result : Except OsError Outcome → Except Fault Unit), ∀ launcher,
    task launcher disk = match launcher program call before with
      | .ok (outcome, after) => (result (.ok outcome), after)
      | .error error => (result (.error error), before)

/-- A task that programs make no difference to starts none. -/
theorem not_startsOnce {task : Launcher → FileTask Unit} {disk : Disk}
    {ending : Except Fault Unit × Disk} (same : ∀ launcher, task launcher disk = ending)
    (program : Path) (call : Invocation) : ¬StartsOnce task disk program call := by
  rintro ⟨before, result, started⟩
  -- a program that moves the working directory would be noticed
  let moved : Disk := { ending.2 with home := "elsewhere" :: ending.2.home }
  have ended := started fun _ _ _ => .ok ({ status := .exited 0 }, moved)
  rw [same] at ended
  have home := congrArg (fun ending => ending.2.home.length) ended
  exact absurd home (by simp [moved])

namespace Ffmpeg

/-- Options with their values, in order, and the output. -/
structure Order where
  options : List (String × String)
  output : String

namespace Order

/-- All options but one take the argument behind them for their value, whatever it is; what is left
at the end is the output. -/
def read : List String → Option Order
  | [] => none
  | [output] => some ⟨[], output⟩
  | option :: value :: rest =>
    if option = "-y" then read (value :: rest)
    else (read rest).map fun order => { order with options := (option, value) :: order.options }

def values (order : Order) (option : String) : List String :=
  (order.options.filter (·.1 = option)).map (·.2)

/-- What is heard at the output: the inputs go through the graph, of which one pad is left, which is
the one that is asked for. -/
def heard {S : Type} (order : Order) (treatment : FilterGraph.Treatment S) (hear : String → S) :
    Option S :=
  match order.values "-filter_complex", order.values "-map" with
  | [graph], [target] => do
    let statements ← FilterGraph.read graph
    let sounds := (order.values "-i").map hear
    let pads ← FilterGraph.evaluate treatment statements (.ofInputs sounds)
    match pads.waiting with
    | [(name, sound)] => if target = "[" ++ name ++ "]" then some sound else none
    | _ => none
  | _, _ => none

end Order

section Parts

variable (ffmpeg : Ffmpeg) (inputs : List Path) (output : Path)

def joinOrder : Order where
  options := ("-loglevel", "error") :: (inputs.map fun input => ("-i", input.text)) ++
    [("-filter_complex", FilterGraph.joined inputs.length ffmpeg.sampleRate), ("-map", "[out]"),
      ("-ar", toString ffmpeg.sampleRate), ("-ac", "1"), ("-c:a", "pcm_s16le")]
  output := output.text

theorem read_inputArguments (rest : List String) :
    Order.read (inputs.flatMap inputArguments ++ rest) =
      (Order.read rest).map fun order => { order with
        options := (inputs.map fun input => ("-i", input.text)) ++ order.options } := by
  induction inputs with
  | nil => simp
  | cons input inputs ih =>
      change Order.read ("-i" :: input.text :: (inputs.flatMap inputArguments ++ rest)) = _
      rw [Order.read, if_neg (by decide), ih, Option.map_map]
      rfl

theorem read_joinArguments :
    Order.read (ffmpeg.arguments (ffmpeg.joinArguments inputs) output) =
      some (ffmpeg.joinOrder inputs output) := by
  have written : ffmpeg.arguments (ffmpeg.joinArguments inputs) output =
      "-y" :: "-loglevel" :: "error" :: (inputs.flatMap inputArguments ++
        ["-filter_complex", FilterGraph.joined inputs.length ffmpeg.sampleRate, "-map", "[out]",
          "-ar", toString ffmpeg.sampleRate, "-ac", "1", "-c:a", "pcm_s16le", output.text]) := by
    simp [arguments, joinArguments]
  rw [written, Order.read, if_pos rfl, Order.read, if_neg (by decide), read_inputArguments]
  rfl

theorem getLast?_arguments (work : List String) :
    (ffmpeg.arguments work output).getLast? = some output.text := by
  rw [arguments, List.getLast?_append_of_ne_nil _ (List.cons_ne_nil _ _)]
  rfl

theorem values_joinOrder :
    (ffmpeg.joinOrder inputs output).values "-i" = inputs.map (·.text) ∧
      (ffmpeg.joinOrder inputs output).values "-filter_complex" =
        [FilterGraph.joined inputs.length ffmpeg.sampleRate] ∧
      (ffmpeg.joinOrder inputs output).values "-map" = ["[out]"] := by
  simp [Order.values, joinOrder, List.filter_map, Function.comp_def]

theorem heard_joinOrder {S : Type} (treatment : FilterGraph.Treatment S) (hear : String → S) :
    (ffmpeg.joinOrder inputs output).heard treatment hear =
      some (treatment.concat (inputs.map fun input =>
        treatment.prepare ffmpeg.sampleRate (hear input.text))) := by
  obtain ⟨named, graph, target⟩ := ffmpeg.values_joinOrder inputs output
  have made := FilterGraph.evaluate_joined treatment ffmpeg.sampleRate
    (inputs.map fun input => hear input.text)
  rw [List.length_map] at made
  obtain ⟨pads, evaluated, waiting⟩ := Option.map_eq_some_iff.mp made
  simp only [Order.heard, named, graph, target, FilterGraph.read_joined, List.map_map]
  change (FilterGraph.evaluate treatment _ (.ofInputs (inputs.map fun input => hear input.text))
    ).bind _ = _
  rw [evaluated, Option.bind_some, waiting, List.map_map]
  exact if_pos (by decide)

def report : Except OsError Outcome → Except Fault Unit
  | .ok outcome =>
    if outcome.status.succeeded then .ok ()
    else .error (.audio (.ffmpegExited outcome.status.message output outcome.complaint))
  | .error error => .error (.audio (.ffmpegNotStarted error))

/-- `ffmpeg` is started just when the directory of the output is there or could be made. -/
theorem produce_startsOnce_iff (work : List String) (disk : Disk) :
    StartsOnce (fun launcher => ffmpeg.produce launcher work output) disk ffmpeg.program
        { arguments := ffmpeg.arguments work output } ↔
      (FileTask.makeRoom output disk).1 = .ok () := by
  cases room : FileTask.makeRoom output disk with
  | mk made between =>
      cases made with
      | ok value =>
          refine iff_of_true ⟨between, report output, fun launcher => ?_⟩ rfl
          change ffmpeg.produce launcher work output disk = _
          rw [produce, task_bind_ok _ room]
          cases launcher ffmpeg.program { arguments := ffmpeg.arguments work output } between with
          | error error => rfl
          | ok run =>
              dsimp only [report]
              split
              · rfl
              · rfl
      | error fault =>
          have same (launcher : Launcher) :
              ffmpeg.produce launcher work output disk = (.error fault, between) := by
            rw [produce, task_bind, room]
          exact iff_of_false (not_startsOnce same _ _) nofun

theorem produce_of_no_room (work : List String) (disk : Disk)
    (noRoom : (FileTask.makeRoom output disk).1 ≠ .ok ()) (launcher : Launcher) :
    ffmpeg.produce launcher work output disk = FileTask.makeRoom output disk := by
  rw [produce, task_bind]
  generalize FileTask.makeRoom output disk = ending at noRoom ⊢
  obtain ⟨made, between⟩ := ending
  cases made with
  | ok value => exact absurd rfl noRoom
  | error fault => rfl

variable {inputs}

theorem join_of_several (several : 2 ≤ inputs.length) (launcher : Launcher) (host : Host) :
    (ffmpeg.mixer launcher host).join inputs output =
      ffmpeg.produce launcher (ffmpeg.joinArguments inputs) output := by
  match inputs, several with
  | _ :: _ :: _, _ => rfl

end Parts

/--
Two or more inputs are joined by one run of `ffmpeg`, which is started just when the directory of
the output is there or can be made; otherwise the fault is that it cannot. Each `-i` has the next
input for its value, and the output is the last argument. The graph has one statement for each
input, which makes the sound of the input mono at the sample rate, and a last one, which joins what
these define in the order of the inputs into the pad that is asked for. Every pad is there before
it is consumed, and consumed once. So what is heard are the inputs, one after the other.
-/
theorem inputs_joined_in_order (ffmpeg : Ffmpeg) (host : Host) (inputs : List Path) (output : Path)
    (several : 2 ≤ inputs.length) :
    let task := fun launcher => (ffmpeg.mixer launcher host).join inputs output
    let arguments := ffmpeg.arguments (ffmpeg.joinArguments inputs) output
    let graph := FilterGraph.joined inputs.length ffmpeg.sampleRate
    let numbers := List.range inputs.length
    (∀ disk, (StartsOnce task disk ffmpeg.program { arguments } ↔
        (FileTask.makeRoom output disk).1 = .ok ()) ∧
      ((FileTask.makeRoom output disk).1 ≠ .ok () →
        ∀ launcher, task launcher disk = FileTask.makeRoom output disk)) ∧
    arguments.getLast? = some output.text ∧
    (∃ order, Order.read arguments = some order ∧ order.output = output.text ∧
      order.values "-i" = inputs.map (·.text) ∧ order.values "-filter_complex" = [graph] ∧
      order.values "-map" = ["[out]"] ∧
      ∀ (S : Type) (treatment : FilterGraph.Treatment S) (hear : String → S),
        order.heard treatment hear = some (treatment.concat (inputs.map fun input =>
          treatment.mono (treatment.resample ffmpeg.sampleRate (hear input.text))))) ∧
    ∃ statements, FilterGraph.read graph = some statements ∧
      statements.length = inputs.length + 1 ∧
      (∀ k < inputs.length, statements[k]? = some ⟨[toString k ++ ":a"],
        [.resample ffmpeg.sampleRate, .mono], ["a" ++ toString k]⟩) ∧
      statements[inputs.length]? =
        some ⟨numbers.map fun k => "a" ++ toString k, [.concat inputs.length], ["out"]⟩ ∧
      FilterGraph.WellFormed (numbers.map fun k => toString k ++ ":a") ["out"] statements := by
  intro task arguments graph numbers
  have produces : task = fun launcher =>
      ffmpeg.produce launcher (ffmpeg.joinArguments inputs) output :=
    funext fun launcher => ffmpeg.join_of_several output several launcher host
  refine ⟨fun disk => ?_, ?_, ?_, ?_⟩
  · rw [produces]
    exact ⟨ffmpeg.produce_startsOnce_iff output _ disk, ffmpeg.produce_of_no_room output _ disk⟩
  · exact ffmpeg.getLast?_arguments output _
  · obtain ⟨named, described, target⟩ := ffmpeg.values_joinOrder inputs output
    exact ⟨_, ffmpeg.read_joinArguments inputs output, rfl, named, described, target,
      fun S treatment hear => ffmpeg.heard_joinOrder inputs output treatment hear⟩
  · refine ⟨_, FilterGraph.read_joined inputs.length ffmpeg.sampleRate, ?_, ?_, ?_,
      FilterGraph.wellFormed_joined inputs.length ffmpeg.sampleRate⟩
    · simp
    · intro k within
      rw [List.getElem?_append_left (by simpa using within), List.getElem?_map,
        List.getElem?_range within]
      rfl
    · rw [List.getElem?_append_right (by simp)]
      simp
      rfl

/-- Two inputs, one of which is named like an option. -/
theorem inputs_joined_in_order_of_two :
    let ffmpeg : Ffmpeg := ⟨⟨"ffmpeg"⟩, 22050⟩
    let inputs : List Path := [⟨"-i"⟩, ⟨"b.wav"⟩]
    let arguments := ["-y", "-loglevel", "error", "-i", "-i", "-i", "b.wav", "-filter_complex",
      "[0:a]aresample=22050,aformat=channel_layouts=mono[a0];" ++
        "[1:a]aresample=22050,aformat=channel_layouts=mono[a1];" ++
        "[a0][a1]concat=n=2:v=0:a=1[out]",
      "-map", "[out]", "-ar", "22050", "-ac", "1", "-c:a", "pcm_s16le", "o.wav"]
    2 ≤ inputs.length ∧
      StartsOnce (fun launcher => (ffmpeg.mixer launcher {}).join inputs ⟨"o.wav"⟩) ⟨[], []⟩
        ffmpeg.program { arguments } ∧
      ∃ order, Order.read arguments = some order ∧ order.values "-i" = ["-i", "b.wav"] ∧
        ∀ (S : Type) (treatment : FilterGraph.Treatment S) (hear : String → S),
          order.heard treatment hear = some (treatment.concat
            [treatment.mono (treatment.resample 22050 (hear "-i")),
              treatment.mono (treatment.resample 22050 (hear "b.wav"))]) := by
  intro ffmpeg inputs arguments
  have several : 2 ≤ inputs.length := by decide
  have written : ffmpeg.arguments (ffmpeg.joinArguments inputs) ⟨"o.wav"⟩ = arguments := by decide
  obtain ⟨starts, -, ⟨order, read, -, named, -, -, heard⟩, -⟩ :=
    ffmpeg.inputs_joined_in_order {} inputs ⟨"o.wav"⟩ several
  rw [written] at starts read
  exact ⟨several, (starts ⟨[], []⟩).1.mpr (by decide), order, read, named, heard⟩

/-- Where the directory of the output would be there is a file: no program is started. -/
theorem joining_starts_nothing :
    let ffmpeg : Ffmpeg := ⟨⟨"ffmpeg"⟩, 22050⟩
    let inputs : List Path := [⟨"a.wav"⟩, ⟨"b.wav"⟩]
    let output : Path := ⟨"f/o.wav"⟩
    let disk : Disk := ⟨["work"], [(["work"], .directory), (["a.wav", "work"], .file .empty false),
      (["b.wav", "work"], .file .empty false), (["f", "work"], .file .empty false)]⟩
    2 ≤ inputs.length ∧
      ¬StartsOnce (fun launcher => (ffmpeg.mixer launcher {}).join inputs output) disk ffmpeg.program
        { arguments := ffmpeg.arguments (ffmpeg.joinArguments inputs) output } ∧
      ∀ launcher, ((ffmpeg.mixer launcher {}).join inputs output disk).1 =
        .error (.outputDirectory ⟨"f"⟩ .alreadyExists) := by
  intro ffmpeg inputs output disk
  have noRoom : (FileTask.makeRoom output disk).1 =
      .error (.outputDirectory ⟨"f"⟩ .alreadyExists) := by
    decide
  have ended (launcher : Launcher) : (ffmpeg.mixer launcher {}).join inputs output disk =
      FileTask.makeRoom output disk :=
    ffmpeg.produce_of_no_room output _ disk (by rw [noRoom]; exact nofun) launcher
  refine ⟨by decide, not_startsOnce ended _ _, fun launcher => ?_⟩
  rw [ended, noRoom]

end Ffmpeg

end SpokenMarkup
