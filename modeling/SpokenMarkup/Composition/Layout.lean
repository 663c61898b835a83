import SpokenMarkup.Composition.Tree

set_option autoImplicit false

namespace SpokenMarkup.Node

/-- A line that is still to be written: a node with all below it, or a closing line. -/
inductive Pending where
  | node (subtree : Node) (depth : Nat)
  | closing (depth : Nat)

def indent (depth : Nat) : String :=
  "".pushn ' ' (2 * depth)

def heading : Node → String
  | group _ _ => "Group("
  | speech speaker text _ => "Speech(" ++ speaker ++ ", " ++ text ++ ")"
  | effect id _ => "SoundEffect(" ++ id ++ ")"
  | filter id _ _ => "SoundFilter(" ++ id ++ ","

def arrow (node : Node) : String :=
  match node.target with
  | some path => " -> " ++ path.text
  | none => ""

def line (node : Node) (depth : Nat) : String :=
  indent depth ++ node.heading ++ node.arrow ++ "\n"

def closingLine (depth : Nat) : String :=
  indent depth ++ ")\n"

/-- What has to be written after the line of the node itself. -/
def pendingBelow (node : Node) (depth : Nat) : List Pending :=
  match node with
  | group children _ => children.map (.node · (depth + 1)) ++ [.closing depth]
  | filter _ child _ => [.node child (depth + 1), .closing depth]
  | speech _ _ _ | effect _ _ => []

def Pending.weight : Pending → Nat
  | .node subtree _ => subtree.weight
  | .closing _ => 1

def Pending.total : List Pending → Nat
  | [] => 0
  | pending :: rest => pending.weight + total rest

theorem Pending.total_append (left right : List Pending) :
    total (left ++ right) = total left + total right := by
  induction left with
  | nil => simp [total]
  | cons pending rest ih => simp [total, ih, Nat.add_assoc]

theorem total_pendingBelow_lt (node : Node) (depth : Nat) :
    Pending.total (node.pendingBelow depth) < node.weight := by
  have all (nodes : List Node) : Pending.total (nodes.map (Pending.node · (depth + 1))) =
      weightAll nodes := by
    induction nodes with
    | nil => rfl
    | cons node rest ih => simp [Pending.total, Pending.weight, weightAll, ih]
  cases node with
  | group children target =>
    simp only [pendingBelow, Pending.total_append, all, weight, Pending.total, Pending.weight]
    omega
  | filter id child target =>
    simp only [pendingBelow, weight, Pending.total, Pending.weight]
    omega
  | speech | effect => simp [pendingBelow, Pending.total, weight]

/-- The lines come from a list of what is pending, so that depth costs no more than length. -/
def lines : List Pending → List String
  | [] => []
  | .closing depth :: pending => closingLine depth :: lines pending
  | .node node depth :: pending => node.line depth :: lines (node.pendingBelow depth ++ pending)
termination_by pending => Pending.total pending
decreasing_by
  · simp [Pending.total, Pending.weight]
  · have := total_pendingBelow_lt node depth
    simp only [Pending.total_append, Pending.total, Pending.weight]
    omega

def layout (node : Node) : String :=
  String.join (lines [.node node 0])

end SpokenMarkup.Node
