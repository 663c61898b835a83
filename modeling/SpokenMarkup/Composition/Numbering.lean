import SpokenMarkup.Composition.Tree

set_option autoImplicit false

namespace SpokenMarkup

/-- A number with zeros in front of it, at least `width` digits. -/
def zeroPadded (width number : Nat) : String :=
  let digits := Nat.toDigits 10 number
  String.ofList (List.replicate (width - digits.length) '0' ++ digits)

def numberedFile (dir : Path) (number : Nat) : Path :=
  dir.join (zeroPadded 3 number ++ ".wav")

namespace Node

def withTarget (target : Path) : Node → Node
  | group children _ => group children target
  | speech speaker text _ => speech speaker text target
  | effect id _ => effect id target
  | filter id child _ => filter id child target

def withChildren : Node → List Node → Node
  | group _ target, children => group children target
  | filter id _ target, child :: _ => filter id child target
  | node, _ => node

def pushAll (nodes stack : List Node) : List Node :=
  nodes.foldl (fun stack node => node :: stack) stack

theorem pushAll_eq (nodes stack : List Node) : pushAll nodes stack = nodes.reverse ++ stack := by
  induction nodes generalizing stack with
  | nil => rfl
  | cons node rest ih =>
      rw [List.reverse_cons, List.append_assoc, List.singleton_append, ← ih]
      rfl

/--
Gives files to the nodes on a stack and to all nodes below them, from `number` on. A node that is
popped takes the next file, and its children are pushed, the last one first. What comes back are the
nodes of the stack with their files, and the first number that is left.
-/
def assign (dir : Path) (number : Nat) : List Node → List Node × Nat
  | [] => ([], number)
  | node :: stack =>
    let count := node.children.length
    let (named, next) := assign dir (number + 1) (pushAll node.children.reverse stack)
    -- the children lie on top of what comes back, as they lay on the stack
    let node := (node.withTarget (numberedFile dir number)).withChildren (named.take count)
    (node :: named.drop count, next)
termination_by stack => weightAll stack
decreasing_by
  have := weightAll_children_lt node
  simp only [pushAll_eq, List.reverse_reverse, weightAll_append, weightAll]
  omega

/-- The tree with the files of its nodes, numbered from `start` on, and the first number that is
left. -/
def assignNames (node : Node) (dir : Path) (start : Nat) : Node × Nat :=
  let (named, next) := assign dir start [node]
  (named.headD node, next)

def number (node : Node) (dir : Path) (start : Nat) : Node :=
  (node.assignNames dir start).1

end Node

end SpokenMarkup
