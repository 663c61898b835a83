import SpokenMarkup.Composition.Tree
import SpokenMarkup.Text.Blank

set_option autoImplicit false

namespace SpokenMarkup

/-- Work that is pending: a node to visit, or a parent that waits for its children. -/
inductive Step where
  | visit (node : Node) (isRoot : Bool)
  | group (arity : Nat) (isRoot : Bool)
  | filter (id : String)

structure Normalizer where
  steps : List Step
  /-- One result for each finished subtree, newest first. -/
  results : List (Option Node) := []
  /-- Filters that were dropped because nothing was left below them, newest first. -/
  emptied : List String := []

namespace Step

def weight : Step → Nat
  | visit node _ => node.weight
  | group _ _ | filter _ => 1

/-- Steps that visit the children of a node and then the node itself again. -/
def childSteps : Node → Bool → List Step
  | .group children _, isRoot => children.map (visit · false) ++ [group children.length isRoot]
  | .filter id child _, _ => [visit child false, filter id]
  | .speech _ _ _, _ | .effect _ _, _ => []

def total : List Step → Nat
  | [] => 0
  | step :: rest => step.weight + total rest

theorem total_append (left right : List Step) :
    total (left ++ right) = total left + total right := by
  induction left with
  | nil => simp [total]
  | cons step rest ih => simp [total, ih, Nat.add_assoc]

theorem total_childSteps_lt (node : Node) (isRoot : Bool) :
    total (childSteps node isRoot) < node.weight := by
  have all (nodes : List Node) : total (nodes.map (visit · false)) = Node.weightAll nodes := by
    induction nodes with
    | nil => rfl
    | cons node rest ih => simpa [total, weight, Node.weightAll] using ih
  cases node with
  | group children target =>
    simp only [childSteps, total_append, all, Node.weight, total, weight]
    omega
  | filter id child target =>
    simp only [childSteps, total, weight, Node.weight]
    omega
  | speech | effect => simp [childSteps, total, Node.weight]

end Step

namespace Normalizer

def leaf : Node → List (Option Node)
  | .speech speaker text _ =>
    let text := Text.trim text
    [if text = "" then none else some (.speech speaker text)]
  | .effect id _ => [some (.effect id)]
  | .group _ _ | .filter _ _ _ => []

def regroup (isRoot : Bool) : List Node → Option Node
  | [] => none
  | [only] => if isRoot then some (.group [only]) else some only
  | kept => some (.group kept)

def advance (state : Normalizer) : Normalizer :=
  match state.steps with
  | [] => state
  | .visit node isRoot :: rest =>
    { state with
      steps := Step.childSteps node isRoot ++ rest
      results := leaf node ++ state.results }
  | .group arity isRoot :: rest =>
    let kept := (state.results.take arity).reverse.filterMap id
    { state with steps := rest, results := regroup isRoot kept :: state.results.drop arity }
  | .filter id :: rest =>
    match state.results with
    | some child :: older =>
      { state with steps := rest, results := some (.filter id child) :: older }
    | results =>
      { steps := rest, results := none :: results.tail, emptied := id :: state.emptied }

theorem advance_total_lt (state : Normalizer) (pending : state.steps ≠ []) :
    Step.total state.advance.steps < Step.total state.steps := by
  unfold advance
  split
  · contradiction
  · rename_i node isRoot rest equal
    have := Step.total_childSteps_lt node isRoot
    simp only [equal, Step.total_append]
    simp only [Step.total, Step.weight] at this ⊢
    omega
  · rename_i arity isRoot rest equal
    simp [equal, Step.total, Step.weight]
  · rename_i id rest equal
    split <;> simp [equal, Step.total, Step.weight]

def finish (state : Normalizer) : Normalizer :=
  if _pending : state.steps = [] then state else finish state.advance
termination_by Step.total state.steps
decreasing_by exact advance_total_lt state ‹_›

def result (state : Normalizer) : Option Node :=
  state.results.head?.join

def ofNode (node : Node) (isRoot : Bool) : Normalizer :=
  { steps := [.visit node isRoot] }

end Normalizer

namespace Node

/-- The node that replaces a subtree in its parent, if anything of it is left. -/
def normalize? (node : Node) : Option Node :=
  (Normalizer.ofNode node false).finish.result

/-- A root is always a group, with one child or with none if need be. -/
def asRoot : Option Node → Node
  | none => .group []
  | some (.group children target) => .group children target
  | some node => .group [node]

def normalizeRoot (root : Node) : Node :=
  asRoot (Normalizer.ofNode root true).finish.result

end Node

end SpokenMarkup
