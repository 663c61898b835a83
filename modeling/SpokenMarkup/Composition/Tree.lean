import SpokenMarkup.Disk.Path

set_option autoImplicit false

namespace SpokenMarkup

inductive Node where
  /-- The audio of the children, one after the other. -/
  | group (children : List Node) (target : Option Path := none)
  /-- One utterance in one voice. -/
  | speech (speaker text : String) (target : Option Path := none)
  /-- A recorded sound. -/
  | effect (id : String) (target : Option Path := none)
  /-- A preset or a program applied to the audio of the child. -/
  | filter (id : String) (child : Node) (target : Option Path := none)
deriving Repr, Inhabited

namespace Node

mutual

def decEq : (left right : Node) → Decidable (left = right)
  | .group children target, .group children' target' =>
    match decEqAll children children', decEqTarget target target' with
    | isTrue equal, isTrue equal' => isTrue (by rw [equal, equal'])
    | isFalse different, _ => isFalse fun equal => different (Node.group.inj equal).1
    | _, isFalse different => isFalse fun equal => different (Node.group.inj equal).2
  | .speech speaker text target, .speech speaker' text' target' =>
    if equal : speaker = speaker' ∧ text = text' ∧ target = target' then
      isTrue (by obtain ⟨rfl, rfl, rfl⟩ := equal; rfl)
    else isFalse fun same => equal (by
      obtain ⟨first, second, third⟩ := Node.speech.inj same; exact ⟨first, second, third⟩)
  | .effect id target, .effect id' target' =>
    if equal : id = id' ∧ target = target' then
      isTrue (by obtain ⟨rfl, rfl⟩ := equal; rfl)
    else isFalse fun same => equal (by
      obtain ⟨first, second⟩ := Node.effect.inj same; exact ⟨first, second⟩)
  | .filter id child target, .filter id' child' target' =>
    if equal : id = id' ∧ target = target' then
      match decEq child child' with
      | isTrue same => isTrue (by obtain ⟨rfl, rfl⟩ := equal; rw [same])
      | isFalse different => isFalse fun same => different (Node.filter.inj same).2.1
    else isFalse fun same => equal (by
      obtain ⟨first, _, third⟩ := Node.filter.inj same; exact ⟨first, third⟩)
  | .group _ _, .speech _ _ _ | .group _ _, .effect _ _ | .group _ _, .filter _ _ _
  | .speech _ _ _, .group _ _ | .speech _ _ _, .effect _ _ | .speech _ _ _, .filter _ _ _
  | .effect _ _, .group _ _ | .effect _ _, .speech _ _ _ | .effect _ _, .filter _ _ _
  | .filter _ _ _, .group _ _ | .filter _ _ _, .speech _ _ _ | .filter _ _ _, .effect _ _ =>
    isFalse nofun

def decEqAll : (left right : List Node) → Decidable (left = right)
  | [], [] => isTrue rfl
  | [], _ :: _ => isFalse nofun
  | _ :: _, [] => isFalse nofun
  | node :: rest, node' :: rest' =>
    match decEq node node' with
    | isFalse different => isFalse fun equal => different (List.cons.inj equal).1
    | isTrue equal =>
      match decEqAll rest rest' with
      | isFalse different => isFalse fun same => different (List.cons.inj same).2
      | isTrue same => isTrue (by rw [equal, same])

def decEqTarget (left right : Option Path) : Decidable (left = right) :=
  inferInstance

end

instance : DecidableEq Node := decEq

def target : Node → Option Path
  | group _ target | speech _ _ target | effect _ target | filter _ _ target => target

def isGroup : Node → Bool
  | group _ _ => true
  | _ => false

def children : Node → List Node
  | group children _ => children
  | filter _ child _ => [child]
  | _ => []

mutual

/-- How much work a node holds: more than its children together. -/
def weight : Node → Nat
  | group children _ => 2 + weightAll children
  | speech _ _ _ | effect _ _ => 1
  | filter _ child _ => 2 + weight child

def weightAll : List Node → Nat
  | [] => 0
  | node :: rest => weight node + weightAll rest

end

theorem weightAll_append (left right : List Node) :
    weightAll (left ++ right) = weightAll left + weightAll right := by
  induction left with
  | nil => simp [weightAll]
  | cons node rest ih => simp [weightAll, ih, Nat.add_assoc]

theorem weightAll_children_lt (node : Node) : weightAll node.children < node.weight := by
  cases node <;> simp only [children, weight, weightAll] <;> omega

/-- The nodes of the pending subtrees, each before its children, left to right. -/
def visit : List Node → List Node
  | [] => []
  | node :: pending => node :: visit (node.children ++ pending)
termination_by pending => weightAll pending
decreasing_by
  have := weightAll_children_lt node
  simp only [weightAll_append, weightAll]
  omega

/-- All nodes of a tree, each before its children, left to right. -/
def toList (node : Node) : List Node :=
  visit [node]

end Node

end SpokenMarkup
