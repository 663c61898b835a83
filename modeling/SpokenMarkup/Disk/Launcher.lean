import SpokenMarkup.Disk.Basic
import SpokenMarkup.Text.Blank

set_option autoImplicit false

namespace SpokenMarkup

inductive ExitStatus where
  | exited (code : Nat)
  | killed (signal : Nat)
deriving DecidableEq, Repr

namespace ExitStatus

def succeeded (status : ExitStatus) : Bool :=
  status = .exited 0

def signalNames : List String :=
  ["SIGHUP", "SIGINT", "SIGQUIT", "SIGILL", "SIGTRAP", "SIGABRT", "SIGBUS", "SIGFPE", "SIGKILL",
    "SIGUSR1", "SIGSEGV", "SIGUSR2", "SIGPIPE", "SIGALRM", "SIGTERM", "SIGSTKFLT", "SIGCHLD",
    "SIGCONT", "SIGSTOP", "SIGTSTP", "SIGTTIN", "SIGTTOU", "SIGURG", "SIGXCPU", "SIGXFSZ",
    "SIGVTALRM", "SIGPROF", "SIGWINCH", "SIGIO", "SIGPWR", "SIGSYS"]

def message : ExitStatus → String
  | exited code => "exit status: " ++ toString code
  | killed signal =>
    let name := match (("" :: signalNames)[signal]?).getD "" with
      | "" => ""
      | name => " (" ++ name ++ ")"
    "signal: " ++ toString signal ++ name

end ExitStatus

structure Invocation where
  arguments : List String
  input : ByteArray := .empty

namespace Invocation

def hasNul (call : Invocation) : Bool :=
  call.arguments.any (·.toList.contains '\x00')

def maxArgumentBytes : Nat := 131071

/-- The room for all arguments of a program together, in bytes: two MiB, less one KiB that the
environment takes. -/
def maxTotalBytes : Nat := 2096128

/-- The room an argument takes: its bytes, the NUL behind them and the pointer to them. -/
def room (argument : String) : Nat :=
  argument.utf8ByteSize + 9

/-- Whether a program cannot be given its arguments; its own path is one of them. -/
def isTooLong (call : Invocation) (program : Path) : Bool :=
  call.arguments.any (·.utf8ByteSize > maxArgumentBytes) ||
    (program.text :: call.arguments).foldl (fun total argument => total + room argument) 0 >
      maxTotalBytes

end Invocation

/-- What a program leaves when it ends; it may have done anything to the disk. -/
structure Outcome where
  status : ExitStatus
  /-- Its standard output. -/
  output : ByteArray := .empty
  /-- Its standard error output, as text. -/
  errors : String := ""
  /-- Why a part of its standard input could not be written, if so. -/
  unfed : Option OsError := none
  /-- What it did not read of its standard input. -/
  unread : ByteArray := .empty

namespace Outcome

def complaint (outcome : Outcome) : String :=
  Text.trim outcome.errors

end Outcome

/-- What a program does. -/
abbrev Program := Invocation → Disk → Outcome × Disk

/-- Runs the program at a path to its end, or says why it cannot be started. -/
abbrev Launcher := Path → Invocation → Disk → Except OsError (Outcome × Disk)

/--
Programs are files on the disk; `load` gives what the content of a file does. The file is looked up
before the arguments are measured, and read after that.
-/
def Launcher.ofFiles (load : ByteArray → Except OsError Program) : Launcher :=
  fun path call disk => do
    if call.hasNul then throw .nulInCommand
    let content ← disk.executable path
    if call.isTooLong path then throw .argumentTooLong
    let program ← load content
    pure (program call disk)

end SpokenMarkup
