import SpokenMarkup.Proofs.CommandLine.Lines
import SpokenMarkup.Proofs.Studio.AllOrNothing

set_option autoImplicit false

namespace SpokenMarkup.CommandLine

variable {V : Type}

/-- One markup that is rendered into the target: what its render and then the call came to. -/
structure Saying (V : Type) where
  markup : String
  before : Studio V
  /-- What the render came to, and the studio then. -/
  outcome : Except Fault Take
  middle : Studio V
  /-- What the call came to, and the studio then. -/
  result : Except Fault (Option Path)
  after : Studio V

namespace Saying

/-- The call and the render in it were done by schedules of theirs, and the call settled. -/
structure Happens (session : Session V) (target : Path) (saying : Saying V) : Prop where
  renders : Job.Steps (session.record saying.markup).run saying.before (.done saying.outcome)
    saying.middle
  ends : Job.Steps (session.recordInto saying.markup target).run saying.before
    (.done saying.result) saying.after
  settles : Settles session target saying.before saying.outcome saying.middle saying.result
    saying.after
  home : saying.before.disk.home = saying.after.disk.home
  refused : ∀ fault, saying.outcome = .error fault →
    Disk.Grows (saying.before.disk.trail session.settings.scratchDir) saying.before.disk
      saying.after.disk

/-- What is noted about a call; a failure is only logged. -/
def notes (saying : Saying V) : List String :=
  match saying.result with
  | .ok (some file) => ["wrote " ++ file.text]
  | .ok none => ["no audio produced"]
  | .error _ => []

def left (target : Path) (saying : Saying V) : Studio V :=
  match saying.result with
  | .ok _ => saying.after
  | .error fault =>
    saying.after.noting (.lineFailed
      ((Failure.ofFault fault).during ("render to '" ++ target.text ++ "'")).summary)

theorem disk_left (target : Path) (saying : Saying V) :
    (saying.left target).disk = saying.after.disk := by
  unfold left
  cases saying.result <;> rfl

/-- Whether the copy of the audio got so far that the target was open. -/
def opened (target : Path) (saying : Saying V) : Bool :=
  match saying.outcome with
  | .ok { artifact := some artifact, .. } => FileTask.opens artifact target saying.middle.disk
  | .ok { artifact := none, .. } | .error _ => false

theorem opened_iff {target : Path} {saying : Saying V} :
    saying.opened target = true ↔ ∃ take artifact, saying.outcome = .ok take ∧
      take.artifact = some artifact ∧ FileTask.opens artifact target saying.middle.disk = true := by
  unfold opened
  rcases saying.outcome with fault | ⟨scratch, _ | artifact⟩
  · simp
  · simp
  · simp

def room (session : Session V) (saying : Saying V) : Path :=
  session.scratchDir saying.before.renders

end Saying

/--
The turns of some lines, from one studio to another: an empty line is passed over, and any other one
is rendered in the studio that the turns before it left.
-/
inductive Turns (session : Session V) (target : Path) :
    List String → Studio V → List (Option (Saying V)) → Studio V → Prop
  | done (studio : Studio V) : Turns session target [] studio [] studio
  | pass {line : String} {lines : List String} {studio after : Studio V}
    {turns : List (Option (Saying V))} (empty : withoutLineEnd line = "")
    (rest : Turns session target lines studio turns after) :
    Turns session target (line :: lines) studio (none :: turns) after
  | say {line : String} {lines : List String} {saying : Saying V} {after : Studio V}
    {turns : List (Option (Saying V))} (full : withoutLineEnd line ≠ "")
    (markup : saying.markup = withoutLineEnd line) (happens : saying.Happens session target)
    (rest : Turns session target lines (saying.left target) turns after) :
    Turns session target (line :: lines) saying.before (some saying :: turns) after

/-- What is shown for a turn: the rule before the line is read, and what is noted about it. -/
def shown (turn : Option (Saying V)) : List String :=
  rule :: (turn.map Saying.notes).getD []

def lastOpened (target : Path) : List (Option (Saying V)) → Option (Saying V)
  | [] => none
  | turn :: turns => (lastOpened target turns).or (turn.filter (Saying.opened target))

/-- The scratch directories of a process are aside of the ways to them and to the target. -/
def RoomsAside (session : Session V) (target : Path) (disk : Disk) : Prop :=
  ∀ number, ∀ location ∈ disk.trail session.settings.scratchDir ∪ disk.trail target,
    location ∉ Disk.within (disk.place (session.scratchDir number))

theorem RoomsAside.congr {session : Session V} {target : Path} {before after : Disk}
    (aside : RoomsAside session target before) (home : before.home = after.home) :
    RoomsAside session target after := by
  intro number
  rw [Disk.trail_congr home, Disk.trail_congr home, Disk.place_congr home]
  exact aside number

section Steps

variable {session : Session V} {target : Path} {studio after : Studio V}

def told (target : Path) : Except Fault (Option Path) → Except Failure String
  | .ok (some file) => .ok ("wrote " ++ file.text)
  | .ok none => .ok "no audio produced"
  | .error fault => .error ((Failure.ofFault fault).during ("render to '" ++ target.text ++ "'"))

end Steps

namespace Turns

variable {session : Session V} {target : Path} {lines : List String} {studio after : Studio V}
  {turns : List (Option (Saying V))}

theorem length_eq (takes : Turns session target lines studio turns after) :
    turns.length = lines.length := by
  induction takes with
  | done => rfl
  | pass _ _ ih => rw [List.length_cons, List.length_cons, ih]
  | say _ _ _ _ ih => rw [List.length_cons, List.length_cons, ih]

theorem home_eq (takes : Turns session target lines studio turns after) :
    studio.disk.home = after.disk.home := by
  induction takes with
  | done => rfl
  | pass _ _ ih => exact ih
  | say _ _ happens _ ih =>
      rw [Saying.disk_left] at ih
      exact happens.home.trans ih

end Turns

end SpokenMarkup.CommandLine
