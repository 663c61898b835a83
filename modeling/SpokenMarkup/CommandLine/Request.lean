import SpokenMarkup.CommandLine.Grammar
import SpokenMarkup.Disk.Path

set_option autoImplicit false

namespace SpokenMarkup.CommandLine

structure SayRequest where
  settingsFile : Option Path
  target : Path
  /-- Whether the whole input is one markup; else every line is one. -/
  asDocument : Bool
  speaker : Option String
  parallel : Bool
  threads : Option Nat
deriving DecidableEq, Repr

structure TreeRequest where
  settingsFile : Option Path
  speaker : Option String
  /-- The markup, which is the whole input if it is not given. -/
  markup : Option String
deriving DecidableEq, Repr

inductive Command where
  | say (request : SayRequest)
  | tree (request : TreeRequest)
deriving DecidableEq, Repr

structure Request where
  /-- Whether every step is to be logged. -/
  verbose : Bool
  command : Command
deriving DecidableEq, Repr

/-- A number in decimal digits, after a plus sign at most, that fits into a word of 64 bits. -/
def count? (text : String) : Option Nat :=
  let digits := match text.toList with
    | '+' :: digits => digits
    | digits => digits
  if digits ≠ [] && digits.all Char.isDigit then
    let value := digits.foldl (fun value digit => value * 10 + (digit.toNat - '0'.toNat)) 0
    if value < UInt64.size then some value else none
  else none

namespace Switch

def help : Switch := { name := "help", letter := some 'h' }
def verbose : Switch := { name := "verbose", letter := some 'v' }
def version : Switch := { name := "version", letter := some 'V' }

def threads : Switch :=
  { name := "threads", accepts := some fun text => (count? text).isSome }

/-- A switch that takes a path, which is never empty. -/
def path (name : String) : Switch := { name, accepts := some (· ≠ "") }

def speaker : Switch := { name := "speaker", accepts := some fun _ => true }

end Switch

namespace Grammar

def commandWords : List String := ["say", "tree", "help"]

def outer : Grammar where
  switches := [.help, .verbose, .version]
  commands := commandWords

def say : Grammar where
  switches :=
    [.help, .verbose, .path "config", .path "out", { name := "stdin" }, .speaker,
      { name := "parallel" }, .threads]

def tree : Grammar where
  switches := [.help, .verbose, .path "config", .speaker]
  maxOperands := 1

end Grammar

namespace Request

def ofSay (reading : Reading) : SayRequest where
  settingsFile := (reading.value? "config").map Path.mk
  target := ⟨(reading.value? "out").getD "audio.wav"⟩
  asDocument := reading.has "stdin"
  speaker := reading.value? "speaker"
  parallel := reading.has "parallel"
  threads := (reading.value? "threads").bind count?

def ofTree (reading : Reading) : TreeRequest where
  settingsFile := (reading.value? "config").map Path.mk
  speaker := reading.value? "speaker"
  markup := reading.operands.head?

/-- What the arguments after the program's own name ask for. -/
def ofArguments (arguments : List String) : Except Halt Request := do
  let (outer, rest) ← Grammar.outer.read {} none arguments
  match rest with
  | "say" :: arguments =>
    let (reading, _) ← Grammar.say.read {} none arguments
    .ok ⟨outer.has "verbose" || reading.has "verbose", .say (ofSay reading)⟩
  | "tree" :: arguments =>
    let (reading, _) ← Grammar.tree.read {} none arguments
    .ok ⟨outer.has "verbose" || reading.has "verbose", .tree (ofTree reading)⟩
  | ["help"] => .error .help
  | ["help", word] => if word ∈ Grammar.commandWords then .error .help else .error .misused
  | _ => .error .misused

end Request

end SpokenMarkup.CommandLine
