import SpokenMarkup.Proofs.Studio.Leftovers

set_option autoImplicit false

namespace SpokenMarkup

open Disk (numbered numberedIn)

def Equipment.withoutPrograms {V : Type} (equipment : Equipment V) : Equipment V :=
  { equipment with launcher := fun _ _ _ => .error .notFound }

inductive Mixer.Makes (mixer : Mixer) (output : Path) : FileTask Unit → Prop
  | join {inputs : List Path} (several : 2 ≤ inputs.length) : Makes mixer output
    (mixer.join inputs output)
  | preset (preset : Preset) (input : Path) : Makes mixer output
    (mixer.applyPreset preset input output)
  | convert (input : Path) : Makes mixer output (mixer.convert input output)

section Origins

variable {V : Type}

/-- Audio that is found at the output of a task of the mixer when the task is done. -/
def Equipment.Mixed (equipment : Equipment V) (happened : Studio V → Studio V → Prop)
    (content : ByteArray) : Prop :=
  ∃ output task before after, equipment.mixer.Makes output task ∧ happened before after ∧
    FileTask.makeRoom output before.disk = (.ok (), before.disk) ∧
    task before.disk = (.ok (), after.disk) ∧ after.disk.read output = .ok content

/-- Audio that the voice gave for a text. -/
def Equipment.Spoken (equipment : Equipment V) (happened : Studio V → Studio V → Prop)
    (speaker text : String) (content : ByteArray) : Prop :=
  ∃ before after, happened before after ∧
    equipment.voice.speakAs speaker text before = (.ok content, after)

/-- A recorded wave file as it is copied; one that is copied onto itself ends up empty. -/
def Equipment.Recorded (equipment : Equipment V) (happened : Studio V → Studio V → Prop)
    (id : String) (content : ByteArray) : Prop :=
  ∃ seen before after asset output, happened seen seen ∧
    equipment.assets id seen.disk = some asset ∧ asset.isWave = true ∧ happened before after ∧
    FileTask.copy equipment.host asset.path output before.disk = (.ok (), after.disk) ∧
    (before.disk.read asset.path = .ok content ∨
      content = .empty ∧ before.disk.place output = before.disk.place asset.path)

/--
The audio of a node is that of a leaf, as it was spoken or recorded: nothing else has audio in any
group on the way to the leaf, and no filter on the way is known.
-/
inductive Unaltered (spoken : String → String → ByteArray → Prop)
    (recorded : String → ByteArray → Prop) : Node → Rendition → ByteArray → Prop
  | speech {speaker text : String} {target : Option Path} {rendition : Rendition}
    {content : ByteArray} (origin : spoken speaker text content) :
    Unaltered spoken recorded (.speech speaker text target) rendition content
  | effect {id : String} {target : Option Path} {rendition : Rendition} {content : ByteArray}
    (origin : recorded id content) :
    Unaltered spoken recorded (.effect id target) rendition content
  | group {children : List Node} {target : Option Path} {parts : List Rendition} {child : Node}
    {part : Rendition} {content : ByteArray} {file : Path} {audio : Option Path}
    (member : (child, part) ∈ children.zip parts) (audible : part.audio = some file)
    (alone : parts.filterMap (·.audio) = [file])
    (passed : Unaltered spoken recorded child part content) :
    Unaltered spoken recorded (.group children target) ⟨audio, parts⟩ content
  | filter {id : String} {child : Node} {target : Option Path} {part : Rendition}
    {content : ByteArray} {audio : Option Path} (unknown : Preset.find? id = none)
    (passed : Unaltered spoken recorded child part content) :
    Unaltered spoken recorded (.filter id child target) ⟨audio, [part]⟩ content

theorem Unaltered.mono {spoken spokenToo : String → String → ByteArray → Prop}
    {recorded recordedToo : String → ByteArray → Prop} {node : Node} {rendition : Rendition}
    {content : ByteArray} (unaltered : Unaltered spoken recorded node rendition content)
    (speech : ∀ speaker text content, spoken speaker text content → spokenToo speaker text content)
    (effect : ∀ id content, recorded id content → recordedToo id content) :
    Unaltered spokenToo recordedToo node rendition content := by
  induction unaltered with
  | speech origin => exact .speech (speech _ _ _ origin)
  | effect origin => exact .effect (effect _ _ origin)
  | group member audible alone _ ih => exact .group member audible alone ih
  | filter unknown _ ih => exact .filter unknown ih

def Equipment.Sounds (equipment : Equipment V) (happened : Studio V → Studio V → Prop) (node : Node)
    (rendition : Rendition) (content : ByteArray) : Prop :=
  equipment.Mixed happened content ∨
    Unaltered (equipment.Spoken happened) (equipment.Recorded happened) node rendition content

end Origins

/-- Something that is attested of all that can be read of a file. -/
structure Voucher where
  number : Nat
  attests : ByteArray → Prop

def Voucher.IsTrue (voucher : Voucher) (dir : Path) (disk : Disk) : Prop :=
  ∀ content, disk.read (numberedFile dir voucher.number) = .ok content → voucher.attests content

def vouchersIn (first last : Nat) : Set Voucher :=
  {voucher | first ≤ voucher.number ∧ voucher.number < last}

theorem vouchersIn_mono {first last lower upper : Nat} (down : lower ≤ first) (up : last ≤ upper) :
    vouchersIn first last ⊆ vouchersIn lower upper :=
  fun _ ⟨low, high⟩ => ⟨Nat.le_trans down low, Nat.lt_of_lt_of_le high up⟩

theorem mem_vouchersIn_one {number : Nat} {voucher : Voucher} :
    voucher ∈ vouchersIn number (number + 1) ↔ voucher.number = number := by
  change number ≤ voucher.number ∧ voucher.number < number + 1 ↔ _
  omega

section Vouched

variable {V : Type} {equipment : Equipment V} {happened : Studio V → Studio V → Prop} {dir : Path}
  {folder : Location} {number : Nat} {lost free sure own : Set Voucher}
  {first second after : Studio V} {attested : ByteArray → Prop}

/-- A studio in which the room stands. The vouchers that are not lost are true, and there are none
for files that are free to be written. -/
structure Vouched (dir : Path) (folder : Location) (lost free : Set Voucher)
    (first second : Studio V) : Prop where
  same : first = second
  housed : Housed dir folder first.disk
  holds : ∀ voucher ∉ lost, voucher.IsTrue dir first.disk
  doubtful : free ⊆ lost

theorem Housed.read {before after : Disk} {room : Set Location} (housed : Housed dir folder before)
    (stays : before.StaysIn room after) (apart : numbered folder number ∉ room) :
    before.read (numberedFile dir number) = after.read (numberedFile dir number) :=
  Disk.read_congr (housed.file (housed.later stays) (stays.frame.entry _ apart)).2

theorem Vouched.still (vouched : Vouched dir folder lost free first first)
    (silent : first.disk.AgreeOff ∅ after.disk) : Vouched dir folder lost free after after := by
  have stays : first.disk.StaysIn ∅ after.disk := Disk.staysIn_of_agree silent
  refine ⟨rfl, vouched.housed.later stays, ?_, vouched.doubtful⟩
  intro voucher known content read
  rw [← vouched.housed.read stays (Set.notMem_empty _)] at read
  exact vouched.holds voucher known content read

/-- What is written is a file that is free, and then there may be a voucher for it. -/
theorem Vouched.written (vouched : Vouched dir folder lost free first first) {won : Set Voucher}
    (stays : first.disk.StaysIn {numbered folder number} after.disk)
    (owned : vouchersIn number (number + 1) ⊆ free)
    (earned : ∀ voucher ∈ won, voucher.number = number ∧ voucher.IsTrue dir after.disk) :
    Vouched dir folder (lost \ won) (free \ vouchersIn number (number + 1)) after after := by
  refine ⟨rfl, vouched.housed.later stays, ?_, ?_⟩
  · intro voucher known
    by_cases new : voucher ∈ won
    · exact (earned voucher new).2
    · have kept : voucher ∉ lost := fun inside => known ⟨inside, new⟩
      have apart : numbered folder voucher.number ∉ ({numbered folder number} : Set Location) :=
        fun here => kept (vouched.doubtful (owned
          (mem_vouchersIn_one.mpr (Disk.numbered_injective here))))
      intro content read
      rw [← vouched.housed.read stays apart] at read
      exact vouched.holds voucher kept content read
  · rintro voucher ⟨isFree, unused⟩
    exact ⟨vouched.doubtful isFree,
      fun new => unused (mem_vouchersIn_one.mpr (earned voucher new).1)⟩

theorem vouched_idle {change : Studio V → Studio V}
    (idle : ∀ studio, ∃ journal, change studio = { studio with journal }) :
    Locked happened (Vouched dir folder) sure own (modify change : StudioJob V PUnit)
      fun _ => ∅ := by
  refine locked_step (fun _ => True) ?_ fun _ _ => locked_pure (Set.empty_subset _)
  intro lost free first second _ vouched
  obtain rfl := vouched.same
  refine ⟨trivial, rfl, ?_⟩
  obtain ⟨journal, noted⟩ := idle first
  change Vouched dir folder lost free (change first) (change first)
  rw [noted]
  exact vouched.still (Disk.AgreeOff.refl _ _)

theorem vouched_noting (event : Event) :
    Locked happened (Vouched dir folder) sure own
      (modify (·.noting event) : StudioJob V PUnit) fun _ => ∅ :=
  vouched_idle fun _ => ⟨_, rfl⟩

theorem vouched_get {α : Type} {next : Studio V → StudioJob V α} {gains : α → Set Voucher}
    (rest : ∀ seen, happened seen seen →
      Locked happened (Vouched dir folder) sure own (next seen) gains) :
    Locked happened (Vouched dir folder) sure own (get >>= next : StudioJob V α) gains := by
  refine locked_step (fun seen => happened seen seen) ?_ rest
  intro lost free first second occurred vouched
  obtain rfl := vouched.same
  exact ⟨occurred, rfl, vouched⟩

theorem vouched_task (writes : equipment.withoutPrograms.WritesOutputs) {task : FileTask Unit}
    (listed : equipment.withoutPrograms.Task dir number task)
    (owned : vouchersIn number (number + 1) ⊆ own)
    (makes : ∀ before after : Studio V, Housed dir folder before.disk →
      (∀ voucher ∈ sure, voucher.IsTrue dir before.disk ∧ voucher.number ≠ number) →
      happened before after → task before.disk = (.ok (), after.disk) →
      Voucher.IsTrue ⟨number, attested⟩ dir after.disk) :
    Locked happened (Vouched dir folder) sure own
      (Equipment.attemptOnDisk task : StudioJob V Unit) fun _ => {⟨number, attested⟩} := by
  refine .step (fun _ => True)
    (fun result => {voucher | result = .ok () ∧ voucher = ⟨number, attested⟩})
    (fun _ => vouchersIn number (number + 1)) ?_ (fun _ => owned) ?_ ?_
  · rintro result voucher ⟨-, rfl⟩
    exact mem_vouchersIn_one.mpr rfl
  · intro lost free first second known allowed occurred vouched
    obtain rfl := vouched.same
    have stays := task_staysIn writes vouched.housed.located vouched.housed.standing listed
    refine ⟨trivial, rfl, vouched.written stays (owned.trans allowed) ?_⟩
    rintro voucher ⟨done, rfl⟩
    refine ⟨rfl, makes first _ vouched.housed ?_ occurred (Prod.ext done rfl)⟩
    intro voucher member
    refine ⟨vouched.holds voucher (known voucher member), fun here => known voucher member ?_⟩
    exact vouched.doubtful (allowed (owned (mem_vouchersIn_one.mpr here)))
  · intro result _
    refine .done trivial ?_
    rintro voucher ⟨value, rfl, here⟩
    exact Or.inr ⟨rfl, here⟩

theorem Disk.read_put {disk : Disk} {path : Path} {content other : ByteArray} {mode : Bool}
    (proper : disk.place path ≠ [])
    (read : Disk.read (disk.put (disk.place path) (.file content mode)) path = .ok other) :
    other = content := by
  obtain ⟨access, opened⟩ := (read_eq_ok_iff _ _ _).mp read
  obtain ⟨-, -, held⟩ := Disk.openFile_eq_some.mp opened
  have place :
      Disk.place (disk.put (disk.place path) (.file content mode)) path = disk.place path :=
    Disk.place_congr rfl
  rw [place, Disk.lookup_put_self _ _ _ proper] at held
  cases held
  rfl

theorem Housed.makeRoom {disk : Disk} (housed : Housed dir folder disk) (number : Nat) :
    FileTask.makeRoom (numberedFile dir number) disk = (.ok (), disk) :=
  Disk.makeRoom_numberedFile housed.located housed.standing number

theorem Housed.place {disk : Disk} (housed : Housed dir folder disk) (number : Nat) :
    disk.place (numberedFile dir number) = numbered folder number :=
  (numberedFile_way housed.located housed.standing number).2

/-- What is read of a copy is what was read of its input, unless it is its own input. -/
theorem Housed.copied {disk changed : Disk} (housed : Housed dir folder disk) {host : Host}
    {input : Path} (done : FileTask.copy host input (numberedFile dir number) disk = (.ok (), changed))
    {content : ByteArray} (read : changed.read (numberedFile dir number) = .ok content) :
    (disk.place (numberedFile dir number) ≠ disk.place input ∧ disk.read input = .ok content) ∨
      (disk.place (numberedFile dir number) = disk.place input ∧ content = .empty) := by
  rw [FileTask.copy, task_bind_ok _ (housed.makeRoom number)] at done
  have copied := Disk.copy_wrote host input (numberedFile dir number) disk
  rw [update_ok done] at copied
  rcases copied with ⟨error, refused⟩ | ⟨original, mode, opened, wrote⟩
  · cases refused
  obtain ⟨writable, stored, rfl⟩ := wrote.of_done
  have same := Disk.read_put writable.proper read
  by_cases itself : disk.place (numberedFile dir number) = disk.place input
  · rw [if_pos itself] at same
    exact Or.inr ⟨itself, same⟩
  · rw [if_neg itself] at same
    rw [same]
    exact Or.inl ⟨itself, Disk.read_of_openFile opened⟩

theorem vouched_write (writes : equipment.withoutPrograms.WritesOutputs) {audio : ByteArray}
    (owned : vouchersIn number (number + 1) ⊆ own) (attest : attested audio) :
    Locked happened (Vouched dir folder) sure own
      (Equipment.attemptOnDisk (do
        FileTask.makeRoom (numberedFile dir number)
        FileTask.update (equipment.host.write (numberedFile dir number) audio)
          fun error => .voice (.notWritten (numberedFile dir number) error)) : StudioJob V Unit)
      fun _ => {⟨number, attested⟩} := by
  refine vouched_task writes (.write audio) owned ?_
  intro before after housed _ _ done content read
  rw [task_bind_ok _ (housed.makeRoom number)] at done
  have wrote := Disk.write_wrote equipment.host (numberedFile dir number) audio before.disk
  rw [update_ok done] at wrote
  obtain ⟨writable, mode, same⟩ := wrote.of_done
  change Disk.read after.disk _ = _ at read
  rw [same] at read
  rw [Disk.read_put writable.proper read]
  exact attest

theorem vouched_copy (writes : equipment.withoutPrograms.WritesOutputs) {source : Nat}
    {heard : ByteArray → Prop} (owned : vouchersIn number (number + 1) ⊆ own)
    (known : ⟨source, heard⟩ ∈ sure) (follows : ∀ content, heard content → attested content) :
    Locked happened (Vouched dir folder) sure own
      (Equipment.attemptOnDisk
        (FileTask.copy equipment.host (numberedFile dir source) (numberedFile dir number)) :
          StudioJob V Unit)
      fun _ => {⟨number, attested⟩} := by
  refine vouched_task writes (.copy source) owned ?_
  intro before after housed vouchers _ done content read
  obtain ⟨holds, apart⟩ := vouchers _ known
  rcases housed.copied done read with ⟨-, original⟩ | ⟨itself, -⟩
  · exact follows content (holds content original)
  · rw [housed.place, housed.place] at itself
    exact absurd (Disk.numbered_injective itself).symm apart

theorem vouched_mix (writes : equipment.withoutPrograms.WritesOutputs) {task : FileTask Unit}
    (listed : equipment.withoutPrograms.Task dir number task)
    (makes : equipment.mixer.Makes (numberedFile dir number) task)
    (owned : vouchersIn number (number + 1) ⊆ own)
    (attest : ∀ content, equipment.Mixed happened content → attested content) :
    Locked happened (Vouched dir folder) sure own
      (Equipment.attemptOnDisk task : StudioJob V Unit) fun _ => {⟨number, attested⟩} := by
  refine vouched_task writes listed owned ?_
  intro before after housed _ occurred done content read
  exact attest content
    ⟨_, task, before, after, makes, occurred, housed.makeRoom number, done, read⟩

theorem vouched_speak (writes : equipment.withoutPrograms.WritesOutputs) {speaker text : String}
    {α : Type} {next : ByteArray → StudioJob V α} {gains : α → Set Voucher}
    (rest : ∀ audio, equipment.Spoken happened speaker text audio →
      Locked happened (Vouched dir folder) sure own (next audio) gains) :
    Locked happened (Vouched dir folder) sure own
      (Equipment.attempt (equipment.voice.speakAs speaker text) >>= next) gains := by
  refine locked_step
    (fun result => ∀ audio, result = .ok audio → equipment.Spoken happened speaker text audio) ?_ ?_
  · intro lost free first second occurred vouched
    obtain rfl := vouched.same
    have silent := writes.speaks speaker text first
    exact ⟨fun audio said => ⟨first, _, occurred, Prod.ext said rfl⟩, rfl, vouched.still silent⟩
  · intro result knows
    cases result with
    | ok audio => exact rest audio (knows audio rfl)
    | error fault => exact locked_throw

theorem vouched_speech (writes : equipment.withoutPrograms.WritesOutputs) (speaker text : String)
    (owned : vouchersIn number (number + 1) ⊆ own)
    (attest : ∀ content, equipment.Spoken happened speaker text content → attested content) :
    Locked happened (Vouched dir folder) sure own
      (equipment.speech speaker text (numberedFile dir number)) fun _ => {⟨number, attested⟩} := by
  refine (vouched_noting _).after fun _ => ?_
  exact vouched_speak writes fun audio said => vouched_write writes owned (attest audio said)

theorem vouched_effect (writes : equipment.withoutPrograms.WritesOutputs) (id : String)
    (owned : vouchersIn number (number + 1) ⊆ own)
    (mix : ∀ content, equipment.Mixed happened content → attested content)
    (attest : ∀ content, equipment.Recorded happened id content → attested content) :
    Locked happened (Vouched dir folder) sure own (equipment.effect id (numberedFile dir number))
      fun _ => {⟨number, attested⟩} := by
  refine (vouched_noting _).after fun _ => ?_
  refine vouched_get fun seen looked => ?_
  cases found : equipment.assets id seen.disk with
  | none => exact locked_throw
  | some asset =>
      have listed : equipment.withoutPrograms.Task dir number
          (equipment.mixer.place equipment.host asset (numberedFile dir number)) :=
        .place id seen.disk asset found
      unfold Mixer.place at listed
      simp only [Mixer.place]
      by_cases wave : asset.isWave = true
      · rw [if_pos wave] at listed ⊢
        refine vouched_task writes listed owned ?_
        intro before after housed _ occurred done content read
        refine attest content
          ⟨seen, before, after, asset, _, looked, found, wave, occurred, done, ?_⟩
        rcases housed.copied done read with ⟨-, original⟩ | ⟨itself, empty⟩
        · exact Or.inl original
        · exact Or.inr ⟨empty, itself⟩
      · rw [if_neg wave] at listed ⊢
        exact vouched_mix writes listed (.convert _) owned mix

theorem vouched_joined (writes : equipment.withoutPrograms.WritesOutputs) {sources : List Nat}
    (owned : vouchersIn number (number + 1) ⊆ own)
    (mix : ∀ content, equipment.Mixed happened content → attested content)
    (lone : ∀ only, sources = [only] → ∃ heard : ByteArray → Prop, ⟨only, heard⟩ ∈ sure ∧
      ∀ content, heard content → attested content) :
    Locked happened (Vouched dir folder) sure own
      (equipment.joined (sources.map (numberedFile dir)) (numberedFile dir number))
      fun told => {voucher | told = true ∧ voucher = ⟨number, attested⟩} := by
  match sources, lone with
  | [], _ =>
      refine locked_pure ?_
      rintro voucher ⟨impossible, -⟩
      cases impossible
  | [only], lone =>
      obtain ⟨heard, known, follows⟩ := lone only rfl
      exact (vouched_copy writes owned known follows).telling
  | first :: second :: rest, _ =>
      exact (vouched_mix writes (.join (first :: second :: rest))
        (.join (by simp)) owned mix).telling

theorem vouched_filtered (writes : equipment.withoutPrograms.WritesOutputs)
    (quiet : ∀ seen, happened seen seen → ∀ id, equipment.programFor? id seen.disk = none)
    (id : String) {source : Nat} {heard : ByteArray → Prop}
    (owned : vouchersIn number (number + 1) ⊆ own) (known : ⟨source, heard⟩ ∈ sure)
    (mix : ∀ content, equipment.Mixed happened content → attested content)
    (unknown : Preset.find? id = none → ∀ content, heard content → attested content) :
    Locked happened (Vouched dir folder) sure own
      (equipment.filtered id (numberedFile dir source) (numberedFile dir number))
      fun _ => {⟨number, attested⟩} := by
  refine (vouched_noting _).after fun _ => ?_
  refine vouched_get fun seen looked => ?_
  rw [quiet seen looked id]
  simp only [Equipment.builtInFilter]
  cases found : Preset.find? id with
  | none => exact (vouched_noting _).after fun _ => vouched_copy writes owned known (unknown found)
  | some preset =>
      exact vouched_mix writes (.preset preset source) (.preset preset _) owned mix

/-- The voucher for a node that has audio. -/
def voucherFor (equipment : Equipment V) (happened : Studio V → Studio V → Prop) (number : Nat)
    (node : Node) (rendition : Rendition) : Set Voucher :=
  {voucher | rendition.audio ≠ none ∧ voucher = ⟨number, equipment.Sounds happened node rendition⟩}

theorem vouched_conclude {work : StudioJob V Bool} {parts : List Rendition} {node : Node}
    (locked : Locked happened (Vouched dir folder) sure own work fun told =>
      {voucher | told = true ∧ voucher =
        ⟨number, equipment.Sounds happened node ⟨some (numberedFile dir number), parts⟩⟩}) :
    Job.Lockstep happened (Vouched dir folder) sure own
      (Equipment.conclude (numberedFile dir number) parts work) (NamesFile dir number)
      (voucherFor equipment happened number node) := by
  refine Job.Lockstep.mono (Locked.conclude ?_ locked) (subset_refl _) (subset_refl _)
    (fun _ concludes => concludes.names) ?_
  · intro event lost free first second vouched
    obtain rfl := vouched.same
    exact vouched.still (Disk.AgreeOff.refl _ _)
  · rintro rendition concludes voucher ⟨audible, rfl⟩
    rcases concludes with rfl | rfl
    · exact absurd rfl audible
    · exact ⟨audible, rfl⟩

def vouchersFor (equipment : Equipment V) (happened : Studio V → Studio V → Prop) (dir : Path)
    (nodes : List Node) (renditions : List Rendition) : Set Voucher :=
  {voucher | ∃ number node rendition, (node, rendition) ∈ nodes.zip renditions ∧
    rendition.audio = some (numberedFile dir number) ∧
    voucher = ⟨number, equipment.Sounds happened node rendition⟩}

def NameAll (dir : Path) (first last : Nat) (nodes : List Node) (renditions : List Rendition) :
    Prop :=
  NameFiles dir first last renditions ∧ renditions.length = nodes.length

theorem NameAll.lone {first last only : Nat} {nodes : List Node} {renditions : List Rendition}
    (names : NameAll dir first last nodes renditions)
    (alone : renditions.filterMap (·.audio) = [numberedFile dir only]) :
    ∃ node rendition, (node, rendition) ∈ nodes.zip renditions ∧
      rendition.audio = some (numberedFile dir only) := by
  have audible : numberedFile dir only ∈ renditions.filterMap (·.audio) := by
    rw [alone]
    exact List.mem_cons_self
  obtain ⟨rendition, member, audio⟩ := List.mem_filterMap.mp audible
  obtain ⟨place, bound, here⟩ := List.mem_iff_getElem.mp member
  have counted : place < nodes.length := names.2 ▸ bound
  refine ⟨nodes[place], rendition, List.mem_iff_getElem.mpr ⟨place, ?_, ?_⟩, audio⟩
  · rw [List.length_zip, names.2, Nat.min_self]
    exact counted
  · rw [List.getElem_zip, here]

mutual

/-- The job of a tree vouches for the audio of the tree. -/
theorem job_vouched (writes : equipment.withoutPrograms.WritesOutputs)
    (quiet : ∀ seen, happened seen seen → ∀ id, equipment.programFor? id seen.disk = none)
    (sideBySide : Bool) (node : Node) (number : Nat) :
    Job.Lockstep happened (Vouched dir folder) ∅ (vouchersIn number (number + node.size))
      (equipment.job sideBySide (node.numberFrom dir number).1) (NamesFile dir number)
      (voucherFor equipment happened number node) := by
  have own : vouchersIn number (number + 1) ⊆ vouchersIn number (number + node.size) :=
    vouchersIn_mono (Nat.le_refl _) (Nat.add_le_add_left node.size_pos _)
  have outside : ∀ last, ∀ voucher ∈ vouchersIn number (number + 1),
      voucher ∉ vouchersIn (number + 1) last := by
    intro last voucher here inside
    have same := mem_vouchersIn_one.mp here
    have low := inside.1
    omega
  cases node with
  | speech speaker text target =>
      refine vouched_conclude (vouched_speech writes speaker text own ?_).telling
      exact fun content said => Or.inr (.speech said)
  | effect id target =>
      refine vouched_conclude (vouched_effect writes id own ?_ ?_).telling
      · exact fun content mixed => Or.inl mixed
      · exact fun content recorded => Or.inr (.effect recorded)
  | group children target =>
      have inner := jobs_vouched writes quiet sideBySide children (number + 1)
      rw [Nat.add_assoc] at inner
      simp only [Node.numberFrom, Equipment.job]
      refine inner.bind ?_ (outside _) (vouchersIn_mono (Nat.le_succ _) (Nat.le_refl _)) own
      intro renditions names
      obtain ⟨survivors, -, files⟩ := names.1
      rw [files]
      refine vouched_conclude (vouched_joined writes (subset_refl _) ?_ ?_)
      · exact fun content mixed => Or.inl mixed
      · rintro only rfl
        obtain ⟨child, part, member, audible⟩ := NameAll.lone names files
        refine ⟨_, Or.inr ⟨only, child, part, member, audible, rfl⟩, ?_⟩
        rintro content (mixed | passed)
        · exact Or.inl mixed
        · exact Or.inr (.group member audible files passed)
  | filter id child target =>
      have inner := job_vouched writes quiet sideBySide child (number + 1)
      rw [Nat.add_assoc] at inner
      simp only [Node.numberFrom, Equipment.job]
      refine inner.bind ?_ (outside _) (vouchersIn_mono (Nat.le_succ _) (Nat.le_refl _)) own
      intro rendition names
      cases audible : rendition.audio with
      | none => exact .done nofun fun voucher impossible => absurd rfl impossible.1
      | some input =>
          obtain rfl := names input audible
          have known : ⟨number + 1, equipment.Sounds happened child rendition⟩ ∈
              ∅ ∪ voucherFor equipment happened (number + 1) child rendition :=
            Or.inr ⟨by rw [audible]; exact nofun, rfl⟩
          refine vouched_conclude
            (vouched_filtered writes quiet id (subset_refl _) known ?_ ?_).telling
          · exact fun content mixed => Or.inl mixed
          · rintro unknown content (mixed | passed)
            · exact Or.inl mixed
            · exact Or.inr (.filter unknown passed)

theorem jobs_vouched (writes : equipment.withoutPrograms.WritesOutputs)
    (quiet : ∀ seen, happened seen seen → ∀ id, equipment.programFor? id seen.disk = none)
    (sideBySide : Bool) (nodes : List Node) (number : Nat) :
    Job.Lockstep happened (Vouched dir folder) ∅ (vouchersIn number (number + Node.sizeAll nodes))
      (equipment.jobs sideBySide (Node.numberAllFrom dir number nodes).1)
      (NameAll dir number (number + Node.sizeAll nodes) nodes)
      (vouchersFor equipment happened dir nodes) := by
  cases nodes with
  | nil =>
      refine .done ⟨⟨[], nofun, rfl⟩, rfl⟩ ?_
      rintro voucher ⟨_, _, _, impossible, -⟩
      cases impossible
  | cons node rest =>
      have one := job_vouched writes quiet sideBySide node number
      have others := jobs_vouched writes quiet sideBySide rest (number + node.size)
      rw [Nat.add_assoc] at others
      simp only [Node.numberAllFrom, Equipment.jobs, Node.numberFrom_snd, Node.sizeAll]
      refine .both (vouchersIn_mono (Nat.le_refl _) (by omega))
        (vouchersIn_mono (by omega) (Nat.le_refl _)) (Set.empty_subset _) ?_
        (fun _ inside => absurd inside (Set.notMem_empty _))
        (fun _ inside => absurd inside (Set.notMem_empty _)) one others ?_
      · rintro voucher ⟨-, early⟩ ⟨late, -⟩
        omega
      · rintro part parts names ⟨left, length⟩
        refine .done ⟨names.cons (Nat.lt_add_of_pos_right node.size_pos) (by omega) left, ?_⟩ ?_
        · rw [List.length_cons, List.length_cons, length]
        · rintro voucher ⟨file, other, rendition, member, audible, rfl⟩
          rw [List.zip_cons_cons] at member
          rcases List.mem_cons.mp member with here | later
          · obtain ⟨rfl, rfl⟩ := Prod.mk.inj here
            have same := numberedFile_injective (names _ audible)
            refine Or.inr (Or.inl ⟨?_, by rw [same]⟩)
            rw [audible]
            exact nofun
          · exact Or.inr (Or.inr ⟨file, other, rendition, later, audible, rfl⟩)

end

end Vouched

section Takes

variable {V : Type} {session : Session V} {markup : String} {start after : Studio V} {take : Take}

/-- The job that makes the audio of a take. -/
def Session.rendering (session : Session V) (scratch : Path) (markup : String) :
    Job (Studio V) Rendition :=
  session.equipment.job session.settings.parallel ((session.tree markup).number scratch 0)

theorem rendering_vouched {happened : Studio V → Studio V → Prop} {scratch : Path}
    {folder : Location} (writes : session.equipment.withoutPrograms.WritesOutputs)
    (quiet : ∀ seen, happened seen seen → ∀ id, session.equipment.programFor? id seen.disk = none) :
    Job.Lockstep happened (Vouched scratch folder) ∅
      (vouchersIn 0 (0 + (session.tree markup).size)) (session.rendering scratch markup)
      (NamesFile scratch 0) (voucherFor session.equipment happened 0 (session.tree markup)) := by
  rw [Session.rendering, Node.number_eq_numberFrom]
  exact job_vouched writes quiet session.settings.parallel (session.tree markup) 0

theorem perform_renders {scratch : Path}
    (steps : Job.Steps (session.perform scratch markup).run start (.done (.ok take)) after) :
    ∃ before rendition rendered, before.disk = start.disk ∧
      Job.Steps (session.rendering scratch markup) before (.done rendition) rendered ∧
      take = ⟨scratch, rendition.audio⟩ ∧ after.disk = rendered.disk ∧
      ∀ later middle, Job.Steps (session.rendering scratch markup) before later middle →
        ∃ whole, Job.Steps (session.perform scratch markup).run start whole middle := by
  have shape : ∃ (early late : Studio V → Studio V) (next : Rendition → Event),
      ((session.perform scratch markup).run =
        .step (fun studio => ((), early studio)) fun _ =>
          .step (fun studio => ((), late studio)) fun _ =>
            (session.rendering scratch markup >>= fun rendition =>
                (.done (.ok rendition) : Job (Studio V) (Except Fault Rendition))) >>=
              ExceptT.bindCont fun rendition => do
                modify (·.noting (next rendition))
                pure (⟨scratch, rendition.audio⟩ : Take)) ∧
      (∀ studio, (early studio).disk = studio.disk) ∧ ∀ studio, (late studio).disk = studio.disk :=
    ⟨_, _, _, rfl, fun _ => rfl, fun _ => rfl⟩
  obtain ⟨early, late, next, same, silent, silentToo⟩ := shape
  rw [same] at steps ⊢
  obtain ⟨result, middle, renders, rest⟩ :=
    Job.steps_bind (Job.steps_step (Job.steps_step steps))
  obtain ⟨rendition, rendered, inner, lifted⟩ := Job.steps_bind renders
  obtain ⟨rfl, rfl⟩ := Job.done_of_steps lifted
  change Job.Steps (.step (fun studio => ((), studio.noting (next rendition))) fun _ =>
    .done (Except.ok ⟨scratch, rendition.audio⟩)) rendered (.done (Except.ok take)) after at rest
  have last := Job.steps_step rest
  obtain ⟨ended, noted⟩ := Job.done_of_steps last
  refine ⟨late (early start), rendition, rendered, (silentToo _).trans (silent _), inner,
    (Except.ok.inj ended).symm, ?_, ?_⟩
  · rw [← noted]
    rfl
  · intro later middle steps
    exact ⟨_, Job.Steps.head (.act _ _ _) (Job.Steps.head (.act _ _ _) ((steps.before _).before _))⟩

/-- A take comes of rendering its tree in its scratch directory. -/
theorem record_renders
    (steps : Job.Steps (session.record markup).run start (.done (.ok take)) after) :
    ∃ before rendition rendered folder, Housed take.scratch folder before.disk ∧
      Job.Steps (session.rendering take.scratch markup) before (.done rendition) rendered ∧
      take.artifact = rendition.audio ∧ after.disk = rendered.disk ∧
      ∀ later middle, Job.Steps (session.rendering take.scratch markup) before later middle →
        ∃ whole, Job.Steps (session.record markup).run start whole middle := by
  rw [session.record_run markup] at steps ⊢
  have opened := recordAs_opens _ (Job.steps_step (Job.steps_step steps))
  generalize counting : (Studio.takeNumber _) = counted at opened
  cases opened with
  | performed made opens performs =>
      obtain ⟨before, rendition, rendered, disk, inner, rfl, ended, follows⟩ :=
        perform_renders performs
      have furnished := @furnished_of_made V session counted.2 counted.1 (by rw [made])
      rw [made] at furnished
      have housed : Housed (session.scratchDir counted.1)
          (counted.2.disk.place (session.scratchDir counted.1)) before.disk := by
        rw [disk]
        exact ⟨furnished.located, furnished.standing⟩
      refine ⟨before, rendition, rendered, _, housed, inner, rfl, ended, ?_⟩
      intro later middle steps
      obtain ⟨whole, whileThere⟩ := follows later middle steps
      have recording :
          Job.Steps (session.recordAs markup counted.1).run counted.2 whole middle := by
        rw [Session.recordAs, ExceptT.run_bind]
        exact opens.bind whileThere
      rw [← counting] at recording
      exact ⟨whole, Job.Steps.head (.act _ _ _) (Job.Steps.head (.act _ _ _) recording)⟩

end Takes

end SpokenMarkup
