import SpokenMarkup.Fault

set_option autoImplicit false

namespace SpokenMarkup.CommandLine

structure Failure where
  message : String
  /-- What went wrong, each cause below the one that it caused. -/
  causes : List String := []
deriving DecidableEq, Repr

namespace Failure

def ofFault (fault : Fault) : Failure :=
  ⟨fault.message, fault.cause?.toList⟩

/-- A failure as the cause of a larger one. -/
def during (attempt : String) (failure : Failure) : Failure :=
  ⟨attempt, failure.message :: failure.causes⟩

def indented (margin text : String) : String :=
  String.join (text.toList.map fun c => if c = '\n' then "\n" ++ margin else c.toString)

/-- The first of several causes is number zero; the numbers are aligned to the right. -/
def numbered (number : Nat) (cause : String) : String :=
  let digits := toString number
  "\n" ++ String.ofList (List.replicate (5 - digits.length) ' ') ++ digits ++ ": " ++
    indented "       " cause

def causeText : List String → String
  | [] => ""
  | [cause] => "\n\nCaused by:\n    " ++ indented "    " cause
  | causes =>
    "\n\nCaused by:" ++
      String.join (causes.zipIdx.map fun (cause, number) => numbered number cause)

def report (failure : Failure) : String :=
  "Error: " ++ failure.message ++ causeText failure.causes ++ "\n"

def summary (failure : Failure) : String :=
  String.intercalate ": " (failure.message :: failure.causes)

end Failure

end SpokenMarkup.CommandLine
