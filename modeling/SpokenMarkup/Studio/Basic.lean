import SpokenMarkup.Disk.FileTask
import SpokenMarkup.Event
import SpokenMarkup.Speech.Voice
import SpokenMarkup.Studio.Job

set_option autoImplicit false

namespace SpokenMarkup

/--
The state that all renders share; the voice engine's own state is a `V`. The engine is used by one
render at a time, for the change of the speaker and the text together.
-/
structure Studio (V : Type) where
  disk : Disk
  engine : V
  /-- Whether the engine broke down during a call. -/
  poisoned : Bool := false
  /-- How many renders were started. -/
  renders : Nat := 0
  /-- What happened so far. -/
  journal : Array Event := #[]

/-- A task in the studio that may fail. What it did before it failed stays done. -/
abbrev StudioTask (V α : Type) := ExceptT Fault (StateM (Studio V)) α

abbrev StudioJob (V α : Type) := ExceptT Fault (Job (Studio V)) α

namespace Studio

variable {V α : Type}

def noting (studio : Studio V) (event : Event) : Studio V :=
  { studio with journal := studio.journal.push event }

def notingAll (studio : Studio V) (events : List Event) : Studio V :=
  { studio with journal := studio.journal ++ events }

/-- Takes the next number for a render. No number is given twice. -/
def takeNumber (studio : Studio V) : Nat × Studio V :=
  (studio.renders, { studio with renders := studio.renders + 1 })

def onDisk (task : FileTask α) : StudioTask V α := fun studio =>
  let (result, disk) := task studio.disk
  (result, { studio with disk })

def call (request : V → Disk → Reply α × V × Disk) : StudioTask V α := fun studio =>
  let (reply, engine, disk) := request studio.engine studio.disk
  let studio := { studio with engine, disk }
  match reply with
  | .done value => (.ok value, studio)
  | .failed fault => (.error fault, studio)
  | .crashed => (.error (.voice .crashed), { studio with poisoned := true })

end Studio

/-- Speaks a text in the voice of a speaker, which is loaded first unless it is active. -/
def Voice.speakAs {V : Type} (voice : Voice V) (speaker text : String) :
    StudioTask V ByteArray := do
  let studio ← get
  if studio.poisoned then
    throw (.voice .poisoned)
  unless voice.active studio.engine = some speaker do
    modify (·.noting (.speakerSwitched speaker))
    Studio.call (voice.activate speaker)
  Studio.call (voice.utter text)

end SpokenMarkup
