import SpokenMarkup.CommandLine.Failure
import SpokenMarkup.CommandLine.Request
import SpokenMarkup.Settings.Document
import SpokenMarkup.Studio.Session

set_option autoImplicit false

namespace SpokenMarkup.CommandLine

/-- What one run of the program printed, and how it ended. -/
structure Transcript where
  status : Nat := 0
  output : String := ""
  errors : String := ""
deriving DecidableEq, Repr

/-- The studio of a run, whose voices are models of the voice program. -/
abbrev Workplace := Studio LoadedVoice

namespace Transcript

def usage : String :=
  "Usage: voxmark [-v] say [--config FILE] [--out FILE] [--stdin] [--speaker NAME] [--parallel]" ++
    " [--threads COUNT]\n       voxmark [-v] tree [--config FILE] [--speaker NAME] [TEXT]\n"

def ofHalt : Halt → Transcript
  | .version => { output := "voxmark 0.1.0\n" }
  | .help => { output := usage }
  | .misused => { status := 2, errors := usage }

/-- Notes line by line, and the failure that came after them, if there was one. -/
def ofNotes (notes : List String) (failure? : Option Failure) : Transcript :=
  let noted := String.join (notes.map (· ++ "\n"))
  match failure? with
  | none => { errors := noted }
  | some failure => { status := 1, errors := noted ++ failure.report }

end Transcript

def settingsFor (file : Option Path) (speaker : Option String) (disk : Disk) :
    Except Failure Settings :=
  Except.mapError Failure.ofFault do
    let settings ← match file with
      | none => pure {}
      | some file => Settings.ofFile disk file
    let settings := { settings with defaultSpeaker := speaker.getD settings.defaultSpeaker }
    settings.check
    pure settings

def SayRequest.adjust (request : SayRequest) (settings : Settings) : Settings :=
  { settings with
    parallel := settings.parallel || request.parallel
    threads := request.threads <|> settings.threads }

def notUtf8 (attempt : String) : Failure :=
  ⟨attempt, [ReadFault.notUtf8.message]⟩

def oneLine (text : String) : String :=
  text.map fun c => if c = '\n' then ' ' else c

def documentOf (input : ByteArray) : Except Failure String :=
  match String.fromUTF8? input with
  | none => .error (notUtf8 "read markup from stdin")
  | some text => .ok (oneLine text)

/-- The lines of an input, each with the line feed that ends it. -/
def linesOf : List UInt8 → List (List UInt8)
  | [] => []
  | byte :: rest =>
    if byte = 10 then [byte] :: linesOf rest
    else
      match linesOf rest with
      | [] => [[byte]]
      | line :: lines => (byte :: line) :: lines

def withoutLineEnd (line : String) : String :=
  String.ofList (line.toList.reverse.dropWhile fun c => c = '\n' || c = '\r').reverse

/-- What is shown before a line is read. -/
def rule : String :=
  String.ofList (List.replicate 50 '-')

section

variable {V : Type}

def sayMarkup (session : Session V) (target : Path) (markup : String) :
    Job (Studio V) (Except Failure String) := do
  match ← (session.recordInto markup target).run with
  | .ok (some file) => pure (.ok ("wrote " ++ file.text))
  | .ok none => pure (.ok "no audio produced")
  | .error fault =>
    pure (.error ((Failure.ofFault fault).during ("render to '" ++ target.text ++ "'")))

/-- Renders one line, unless it is empty, and gives the notes about it. -/
def sayLine (session : Session V) (target : Path) (line : String) :
    Job (Studio V) (List String) :=
  let markup := withoutLineEnd line
  if markup = "" then pure []
  else do
    match ← sayMarkup session target markup with
    | .ok note => pure [note]
    | .error failure =>
      modify (·.noting (.lineFailed failure.summary))
      pure []

/--
Renders line after line, and gives the notes about them after those that are there, newest first. A
line that is not a text ends it all with a failure.
-/
def sayLines (session : Session V) (target : Path) (noted : List String) :
    List (List UInt8) → Job (Studio V) (List String × Option Failure)
  | [] => pure (rule :: noted, none)
  | line :: rest =>
    match String.fromUTF8? ⟨line.toArray⟩ with
    | none => pure (rule :: noted, some (notUtf8 "read markup line"))
    | some line => do
      let notes ← sayLine session target line
      sayLines session target (notes ++ rule :: noted) rest

def sayDocument (session : Session V) (target : Path) (input : ByteArray) :
    Job (Studio V) (List String × Option Failure) :=
  match documentOf input with
  | .error failure => pure ([], some failure)
  | .ok markup => do
    match ← sayMarkup session target markup with
    | .ok note => pure ([note], none)
    | .error failure => pure ([], some failure)

end

def say (request : SayRequest) (launcher : Launcher) (host : Host) (process : Nat)
    (input : ByteArray) : Job Workplace Transcript := do
  match settingsFor request.settingsFile request.speaker (← get).disk with
  | .error failure => pure (.ofNotes [] (some failure))
  | .ok settings =>
    let settings := request.adjust settings
    match ← Job.atomic (Session.startWith settings launcher host process input).run with
    | .error fault => pure (.ofNotes [] (some (.ofFault fault)))
    | .ok (session, unread) =>
      let (notes, failure?) ←
        if request.asDocument then sayDocument session request.target unread
        else sayLines session request.target [] (linesOf unread.toList)
      pure (.ofNotes notes.reverse failure?)

def tree (request : TreeRequest) (input : ByteArray) (disk : Disk) : Transcript :=
  let result := do
    let settings ← settingsFor request.settingsFile request.speaker disk
    let markup ← match request.markup with
      | some markup => pure markup
      | none => documentOf input
    pure (Node.ofMarkupIn settings.scratchDir markup settings.defaultSpeaker).layout
  match result with
  | .error failure => .ofNotes [] (some failure)
  | .ok layout => { output := layout }

def Request.perform (request : Request) (launcher : Launcher) (host : Host) (process : Nat)
    (input : ByteArray) : StateM Workplace Transcript := do
  match request.command with
  | .say request => (say request launcher host process input).run
  | .tree request => pure (tree request input (← get).disk)

def Request.readsInput (request : Request) : Bool :=
  match request.command with
  | .say _ => true
  | .tree request => request.markup.isNone

end SpokenMarkup.CommandLine
