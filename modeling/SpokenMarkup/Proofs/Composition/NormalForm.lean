import SpokenMarkup.Composition.NormalForm

set_option autoImplicit false

namespace SpokenMarkup

namespace Node

mutual

/-- What is left of a subtree in its parent. -/
def settle : Node → Bool → Option Node
  | group children _, isRoot => Normalizer.regroup isRoot (settleAll children)
  | speech speaker text _, _ =>
    if Text.trim text = "" then none else some (speech speaker (Text.trim text))
  | effect id _, _ => some (effect id)
  | filter id child _, _ => (settle child false).map (filter id ·)

def settleAll : List Node → List Node
  | [] => []
  | node :: rest => (settle node false).toList ++ settleAll rest

end

mutual

/-- The filters with nothing left below them, in the order in which they are dropped. -/
def hollow : Node → List String
  | group children _ => hollowAll children
  | speech _ _ _ | effect _ _ => []
  | filter id child _ => hollow child ++ (if (settle child false).isNone then [id] else [])

def hollowAll : List Node → List String
  | [] => []
  | node :: rest => hollow node ++ hollowAll rest

end

theorem settleAll_eq_filterMap (nodes : List Node) :
    settleAll nodes = (nodes.map (settle · false)).filterMap id := by
  induction nodes with
  | nil => rfl
  | cons node rest ih =>
      rw [settleAll, ih, List.map_cons]
      cases settle node false <;> rfl

end Node

namespace Normalizer

theorem finish_nil (results : List (Option Node)) (emptied : List String) :
    finish ⟨[], results, emptied⟩ = ⟨[], results, emptied⟩ := by
  rw [finish]
  exact dif_pos rfl

theorem finish_cons (step : Step) (rest : List Step) (results : List (Option Node))
    (emptied : List String) :
    finish ⟨step :: rest, results, emptied⟩ =
      finish (advance ⟨step :: rest, results, emptied⟩) := by
  rw [finish]
  exact dif_neg (List.cons_ne_nil step rest)

mutual

/-- Visiting a node leaves one result, and reports what is hollow below it. -/
theorem finish_visit (node : Node) (isRoot : Bool) (rest : List Step)
    (results : List (Option Node)) (emptied : List String) :
    finish ⟨.visit node isRoot :: rest, results, emptied⟩ =
      finish ⟨rest, node.settle isRoot :: results, node.hollow.reverse ++ emptied⟩ := by
  rw [finish_cons]
  cases node with
  | speech speaker text target => rfl
  | effect id target => rfl
  | group children target =>
      have visited := finish_visitAll children (.group children.length isRoot :: rest) results
        emptied
      have whole : (children.map (Node.settle · false)).reverse.length = children.length := by
        rw [List.length_reverse, List.length_map]
      simp only [advance, Step.childSteps, leaf, List.nil_append, List.append_assoc,
        List.singleton_append]
      rw [visited, finish_cons]
      simp only [advance]
      rw [← whole, List.take_left, List.drop_left, List.reverse_reverse,
        ← Node.settleAll_eq_filterMap]
      rfl
  | filter id child target =>
      have visited := finish_visit child false (.filter id :: rest) results emptied
      simp only [advance, Step.childSteps, leaf, List.nil_append, List.cons_append]
      rw [visited, finish_cons]
      simp only [Node.settle, Node.hollow]
      cases child.settle false with
      | none => simp [advance]
      | some kept => simp [advance]

theorem finish_visitAll (nodes : List Node) (rest : List Step) (results : List (Option Node))
    (emptied : List String) :
    finish ⟨nodes.map (.visit · false) ++ rest, results, emptied⟩ =
      finish ⟨rest, (nodes.map (Node.settle · false)).reverse ++ results,
        (Node.hollowAll nodes).reverse ++ emptied⟩ := by
  cases nodes with
  | nil => rfl
  | cons node others =>
      rw [List.map_cons, List.cons_append, finish_visit node, finish_visitAll others]
      simp [Node.hollowAll]

end

/-- The walk ends with what is left of the tree, and with the hollow filters. -/
theorem finish_ofNode (node : Node) (isRoot : Bool) :
    (ofNode node isRoot).finish = ⟨[], [node.settle isRoot], node.hollow.reverse⟩ := by
  rw [ofNode, finish_visit, finish_nil, List.append_nil]

end Normalizer

namespace Node

theorem normalize?_eq_settle (node : Node) : node.normalize? = node.settle false := by
  rw [normalize?, Normalizer.finish_ofNode]
  rfl

theorem normalizeRoot_eq_asRoot (root : Node) : root.normalizeRoot = asRoot (root.settle true) := by
  rw [normalizeRoot, Normalizer.finish_ofNode]
  rfl

end Node

end SpokenMarkup
