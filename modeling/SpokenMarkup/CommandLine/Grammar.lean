set_option autoImplicit false

namespace SpokenMarkup.CommandLine

structure Switch where
  /-- What is written after two dashes. -/
  name : String
  /-- What may be written after one dash, where only switches without a value have such a letter. -/
  letter : Option Char := none
  /-- The values that are accepted, if the switch takes a value. -/
  accepts : Option (String → Bool) := none

structure Grammar where
  switches : List Switch
  /-- Words that end the reading and begin a command of their own. -/
  commands : List String := []
  maxOperands : Nat := 0

inductive Halt where
  | misused
  | help
  | version
deriving DecidableEq, Repr

/-- What was read: switches with their values and operands, each newest first. -/
structure Reading where
  switches : List (String × String) := []
  operands : List String := []

namespace Reading

def has (reading : Reading) (name : String) : Bool :=
  (reading.switches.lookup name).isSome

def value? (reading : Reading) (name : String) : Option String :=
  reading.switches.lookup name

/-- Takes note of a switch; the switches that ask for information end the reading. -/
def note (reading : Reading) (switch : Switch) (value : String) : Except Halt Reading :=
  if switch.name = "help" then .error .help
  else if switch.name = "version" then .error .version
  else if reading.has switch.name then .error .misused
  else .ok { reading with switches := (switch.name, value) :: reading.switches }

end Reading

namespace Grammar

def operand (grammar : Grammar) (reading : Reading) (argument : String) : Except Halt Reading :=
  if reading.operands.length < grammar.maxOperands then
    .ok { reading with operands := argument :: reading.operands }
  else .error .misused

def give (reading : Reading) (switch : Switch) (value : String) : Except Halt Reading :=
  match switch.accepts with
  | some accepts => if accepts value then reading.note switch value else .error .misused
  | none => .error .misused

def letters (grammar : Grammar) (reading : Reading) : List Char → Except Halt Reading
  | [] => .ok reading
  | letter :: rest =>
    match grammar.switches.find? (·.letter = some letter) with
    | none => .error .misused
    | some switch => do letters grammar (← reading.note switch "") rest

/-- A name, and what follows the first equality sign after it. -/
def assignment (text : List Char) : String × Option String :=
  (String.ofList (text.takeWhile (· ≠ '=')),
    match text.dropWhile (· ≠ '=') with
    | [] => none
    | _ :: value => some (String.ofList value))

/-- Reads what follows two dashes. The switch is given back if its value is still to come. -/
def long (grammar : Grammar) (reading : Reading) (text : List Char) :
    Except Halt (Reading × Option Switch) :=
  let (name, value?) := assignment text
  match grammar.switches.find? (·.name = name), value? with
  | none, _ => .error .misused
  | some switch, some value => (give reading switch value).map (·, none)
  | some switch, none =>
    if switch.accepts.isSome then .ok (reading, some switch)
    else (reading.note switch "").map (·, none)

def operandsOnly (grammar : Grammar) (reading : Reading) : List String → Except Halt Reading
  | [] => .ok reading
  | argument :: rest => do operandsOnly grammar (← grammar.operand reading argument) rest

/--
Reads arguments up to the word of a command, and gives the arguments from that word on. While a
switch waits for its value, only an argument that cannot be a switch is taken for it.
-/
def read (grammar : Grammar) (reading : Reading) (waiting : Option Switch) :
    List String → Except Halt (Reading × List String)
  | [] => if waiting.isSome then .error .misused else .ok (reading, [])
  | argument :: rest =>
    match argument.toList, waiting with
    | ['-', '-'], none => (grammar.operandsOnly reading rest).map (·, [])
    | '-' :: _ :: _, some _ => .error .misused
    | _, some switch => do read grammar (← give reading switch argument) none rest
    | '-' :: '-' :: text, none => do
      let (reading, waiting) ← grammar.long reading text
      read grammar reading waiting rest
    | '-' :: letter :: more, none => do
      read grammar (← grammar.letters reading (letter :: more)) none rest
    | _, none =>
      if argument ∈ grammar.commands then .ok (reading, argument :: rest)
      else do read grammar (← grammar.operand reading argument) none rest

end Grammar

end SpokenMarkup.CommandLine
