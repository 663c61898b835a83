import SpokenMarkup.Proofs.Composition.Preorder
import SpokenMarkup.Proofs.Composition.Shape

set_option autoImplicit false

namespace SpokenMarkup

namespace Node

mutual

/-- Below the root: without files, without blank or untrimmed speech, and without small groups. -/
def IsTidy : Node → Prop
  | group children target => target = none ∧ 2 ≤ children.length ∧ AreTidy children
  | speech _ text target => target = none ∧ text ≠ "" ∧ Text.trim text = text
  | effect _ target => target = none
  | filter _ child target => target = none ∧ IsTidy child

def AreTidy : List Node → Prop
  | [] => True
  | node :: rest => IsTidy node ∧ AreTidy rest

end

def IsTidyRoot (root : Node) : Prop :=
  root.isGroup = true ∧ root.target = none ∧ AreTidy root.children

theorem self_mem_preorder (node : Node) : node ∈ node.preorder := by
  rw [preorder_eq_cons]
  exact List.mem_cons_self

theorem mem_preorderAll_iff (inner : Node) (nodes : List Node) :
    inner ∈ preorderAll nodes ↔ ∃ node ∈ nodes, inner ∈ node.preorder := by
  induction nodes with
  | nil => simp only [preorderAll, List.not_mem_nil, false_and, exists_false]
  | cons node rest ih => simp only [preorderAll, List.mem_append, List.exists_mem_cons_iff, ih]

variable {inner below : Node}

mutual

theorem mem_preorder_of_mem_children (node : Node) (member : inner ∈ node.preorder)
    (child : below ∈ inner.children) : below ∈ node.preorder := by
  rw [preorder_eq_cons] at member ⊢
  apply List.mem_cons_of_mem
  cases List.mem_cons.mp member with
  | inl same =>
      rw [same] at child
      exact (mem_preorderAll_iff below node.children).mpr ⟨below, child, self_mem_preorder below⟩
  | inr deeper =>
      cases node with
      | group children target => exact mem_preorderAll_of_mem_children children deeper child
      | speech speaker text target => cases deeper
      | effect id target => cases deeper
      | filter id only target =>
          rw [children, preorderAll, preorderAll, List.append_nil] at deeper ⊢
          exact mem_preorder_of_mem_children only deeper child

theorem mem_preorderAll_of_mem_children (nodes : List Node) (member : inner ∈ preorderAll nodes)
    (child : below ∈ inner.children) : below ∈ preorderAll nodes := by
  cases nodes with
  | nil => cases member
  | cons node rest =>
      rw [preorderAll] at member ⊢
      cases List.mem_append.mp member with
      | inl here =>
          exact List.mem_append_left _ (mem_preorder_of_mem_children node here child)
      | inr there =>
          exact List.mem_append_right _ (mem_preorderAll_of_mem_children rest there child)

end

end Node

namespace Normalizer

/-- What the walk over a tree passes through. -/
inductive Passes (root : Node) (isRoot : Bool) : Normalizer → Prop where
  | start : Passes root isRoot (ofNode root isRoot)
  | step (state : Normalizer) : Passes root isRoot state → Passes root isRoot state.advance

/--
The results fit the pending steps: each step finds what it needs on top of the results, and leaves
what the steps after it need.
-/
inductive Aligned (root : Node) (isRoot : Bool) : List Step → List (Option Node) → Prop where
  | done : Aligned root isRoot [] [root.settle isRoot]
  | visit {node : Node} {flag : Bool} {rest : List Step} {results : List (Option Node)}
      (member : node ∈ root.preorder)
      (after : Aligned root isRoot rest (node.settle flag :: results)) :
      Aligned root isRoot (.visit node flag :: rest) results
  | group {children : List Node} {target : Option Path} {flag : Bool} {rest : List Step}
      {older : List (Option Node)} (member : .group children target ∈ root.preorder)
      (after : Aligned root isRoot rest ((Node.group children target).settle flag :: older)) :
      Aligned root isRoot (.group children.length flag :: rest)
        ((children.map (Node.settle · false)).reverse ++ older)
  | filter {id : String} {child : Node} {target : Option Path} {rest : List Step}
      {older : List (Option Node)} (member : .filter id child target ∈ root.preorder)
      (after : Aligned root isRoot rest ((Node.filter id child target).settle false :: older)) :
      Aligned root isRoot (.filter id :: rest) (child.settle false :: older)

variable {root : Node} {isRoot : Bool} {state : Normalizer}

/-- Steps that visit some nodes of the tree leave their results, the last one on top. -/
theorem aligned_visits (nodes : List Node) {rest : List Step} {results : List (Option Node)}
    (members : ∀ node ∈ nodes, node ∈ root.preorder)
    (after : Aligned root isRoot rest ((nodes.map (Node.settle · false)).reverse ++ results)) :
    Aligned root isRoot (nodes.map (.visit · false) ++ rest) results := by
  induction nodes generalizing results with
  | nil => exact after
  | cons node others ih =>
      rw [List.forall_mem_cons] at members
      apply Aligned.visit members.1
      apply ih members.2
      simpa only [List.map_cons, List.reverse_cons, List.append_assoc, List.singleton_append]
        using after

theorem Aligned.childSteps {node : Node} {flag : Bool} {rest : List Step}
    {results : List (Option Node)} (member : node ∈ root.preorder)
    (after : Aligned root isRoot rest (node.settle flag :: results)) :
    Aligned root isRoot (Step.childSteps node flag ++ rest) (leaf node ++ results) := by
  have children : ∀ child ∈ node.children, child ∈ root.preorder := fun child found =>
    Node.mem_preorder_of_mem_children root member found
  cases node with
  | group nodes target =>
      rw [Step.childSteps, leaf, List.append_assoc]
      exact aligned_visits nodes children (.group member after)
  | speech speaker text target => exact after
  | effect id target => exact after
  | filter id child target => exact .visit (children child List.mem_cons_self) (.filter member after)

theorem length_results (children : List Node) :
    (children.map (Node.settle · false)).reverse.length = children.length := by
  rw [List.length_reverse, List.length_map]

/-- One step keeps the results aligned with the steps. -/
theorem Aligned.advance (aligned : Aligned root isRoot state.steps state.results) :
    Aligned root isRoot state.advance.steps state.advance.results := by
  obtain ⟨steps, results, emptied⟩ := state
  cases aligned with
  | done => exact .done
  | visit member after => exact .childSteps member after
  | group member after =>
      rename_i children target flag rest older
      have whole := length_results children
      simp only [Normalizer.advance, List.append_eq]
      rw [List.take_left' whole, List.drop_left' whole, List.reverse_reverse,
        ← Node.settleAll_eq_filterMap]
      exact after
  | filter member after =>
      rename_i id child target rest older
      rw [Node.settle] at after
      cases settled : child.settle false with
      | none =>
          rw [settled] at after
          exact after
      | some kept =>
          rw [settled] at after
          exact after

theorem Passes.aligned (passes : Passes root isRoot state) :
    Aligned root isRoot state.steps state.results := by
  induction passes with
  | start => exact .visit root.self_mem_preorder .done
  | step state _ ih => exact ih.advance

theorem Passes.finish (passes : Passes root isRoot state) : Passes root isRoot state.finish := by
  fun_induction Normalizer.finish state with
  | case1 state done => exact passes
  | case2 state pending ih => exact ih passes.step

end Normalizer

namespace Node

theorem tidy_regroup (nodes : List Node) (tidy : AreTidy nodes) :
    ∀ kept ∈ Normalizer.regroup false nodes, kept.IsTidy := by
  intro kept found
  match nodes with
  | [] => cases found
  | [only] =>
      cases found
      exact tidy.1
  | first :: second :: others =>
      cases found
      refine ⟨rfl, ?_, tidy⟩
      simp only [List.length_cons]
      omega

mutual

theorem tidy_settle (node : Node) : ∀ kept ∈ node.settle false, kept.IsTidy := by
  intro kept found
  cases node with
  | group children target => exact tidy_regroup _ (tidy_settleAll children) kept found
  | speech speaker text target =>
      rw [settle, Option.mem_def] at found
      split at found
      next blank => cases found
      next spoken =>
        cases found
        exact ⟨rfl, spoken, Text.trim_trim text⟩
  | effect id target =>
      cases found
      rfl
  | filter id child target =>
      rw [settle, Option.mem_def, Option.map_eq_some_iff] at found
      obtain ⟨inner, settled, rfl⟩ := found
      exact ⟨rfl, tidy_settle child inner settled⟩

theorem tidy_settleAll (nodes : List Node) : AreTidy (settleAll nodes) := by
  cases nodes with
  | nil => trivial
  | cons node rest =>
      have here := tidy_settle node
      have others := tidy_settleAll rest
      rw [settleAll]
      cases settled : node.settle false with
      | none => exact others
      | some kept => exact ⟨here kept settled, others⟩

end

theorem tidyRoot_normalizeRoot (root : Node) : root.normalizeRoot.IsTidyRoot := by
  cases root with
  | group children target =>
      rw [normalizeRoot_group]
      exact ⟨rfl, rfl, tidy_settleAll children⟩
  | speech speaker text target =>
      have below := tidy_settle (speech speaker text target)
      rw [normalizeRoot_eq_asRoot]
      rw [settle] at below ⊢
      split at below
      next blank =>
        rw [if_pos blank]
        exact ⟨rfl, rfl, trivial⟩
      next spoken =>
        rw [if_neg spoken]
        exact ⟨rfl, rfl, below _ rfl, trivial⟩
  | effect id target =>
      rw [normalizeRoot_eq_asRoot]
      exact ⟨rfl, rfl, rfl, trivial⟩
  | filter id child target =>
      have below := tidy_settle (filter id child target)
      rw [normalizeRoot_eq_asRoot]
      rw [settle] at below ⊢
      cases settled : child.settle false with
      | none => exact ⟨rfl, rfl, trivial⟩
      | some kept =>
          rw [settled] at below
          exact ⟨rfl, rfl, below _ rfl, trivial⟩

mutual

theorem settle_of_tidy (node : Node) (tidy : node.IsTidy) : node.settle false = some node := by
  cases node with
  | group children target =>
      obtain ⟨rfl, many, below⟩ := tidy
      rw [settle, settleAll_of_tidy children below]
      match children with
      | first :: second :: others => rfl
  | speech speaker text target =>
      obtain ⟨rfl, spoken, trimmed⟩ := tidy
      rw [settle, trimmed, if_neg spoken]
  | effect id target =>
      rw [show target = none from tidy]
      rfl
  | filter id child target =>
      obtain ⟨rfl, below⟩ := tidy
      rw [settle, settle_of_tidy child below]
      rfl

theorem settleAll_of_tidy (nodes : List Node) (tidy : AreTidy nodes) :
    settleAll nodes = nodes := by
  cases nodes with
  | nil => rfl
  | cons node rest =>
      rw [settleAll, settle_of_tidy node tidy.1, settleAll_of_tidy rest tidy.2]
      rfl

end

theorem normalizeRoot_of_tidy (root : Node) (tidy : root.IsTidyRoot) :
    root.normalizeRoot = root := by
  obtain ⟨isGroup, unnamed, below⟩ := tidy
  cases root with
  | group children target =>
      rw [normalizeRoot_group, settleAll_of_tidy children below, show target = none from unnamed]
  | speech | effect | filter => cases isGroup

theorem normalizeRoot_eq_self_iff (root : Node) : root.normalizeRoot = root ↔ root.IsTidyRoot := by
  constructor
  · intro same
    rw [← same]
    exact tidyRoot_normalizeRoot root
  · exact normalizeRoot_of_tidy root

/--
The walk comes to the recursion. In every state that it passes, a group finds the results of just
its children on top of the results, the last child on top, and a filter finds that of its child;
when no step is left, neither is a result but that of the root; and the walk gets there. What is
left is tidy: tidying it again changes nothing, and the tidy roots are the trees that do not change.
-/
theorem normalizing_settles (root : Node) :
    (root.normalize? = root.settle false ∧ root.normalizeRoot = asRoot (root.settle true)) ∧
      (∀ isRoot state, Normalizer.Passes root isRoot state →
        (∀ arity flag rest, state.steps = .group arity flag :: rest →
          arity ≤ state.results.length ∧
            ∃ children target, group children target ∈ root.toList ∧ arity = children.length ∧
              (state.results.take arity).reverse = children.map (settle · false)) ∧
        (∀ id rest, state.steps = .filter id :: rest →
          ∃ child target, filter id child target ∈ root.toList ∧
            state.results.head? = some (child.settle false)) ∧
        (state.steps = [] → state.results = [root.settle isRoot])) ∧
      (∀ isRoot, Normalizer.Passes root isRoot (Normalizer.ofNode root isRoot).finish ∧
        (Normalizer.ofNode root isRoot).finish.steps = []) ∧
      (∀ kept ∈ root.normalize?, kept.IsTidy) ∧ root.normalizeRoot.IsTidyRoot ∧
      root.normalizeRoot.normalizeRoot = root.normalizeRoot ∧
      (root.normalizeRoot = root ↔ root.IsTidyRoot) := by
  have tidy := tidyRoot_normalizeRoot root
  refine ⟨⟨normalize?_eq_settle root, normalizeRoot_eq_asRoot root⟩, ?_, ?_, ?_, tidy,
    normalizeRoot_of_tidy _ tidy, normalizeRoot_eq_self_iff root⟩
  · intro isRoot state passes
    have aligned := passes.aligned
    rw [toList_eq_preorder]
    generalize state.steps = steps, state.results = results at aligned
    refine ⟨?_, ?_, ?_⟩
    · rintro arity flag rest rfl
      cases aligned with
      | group member after =>
          rename_i children target older
          have whole := Normalizer.length_results children
          refine ⟨?_, children, target, member, rfl, ?_⟩
          · rw [List.length_append, whole]
            omega
          · rw [List.take_left' whole, List.reverse_reverse]
    · rintro id rest rfl
      cases aligned with
      | filter member after => exact ⟨_, _, member, rfl⟩
    · rintro rfl
      cases aligned with
      | done => rfl
  · intro isRoot
    refine ⟨Normalizer.Passes.start.finish, ?_⟩
    rw [Normalizer.finish_ofNode]
  · intro kept found
    rw [normalize?_eq_settle] at found
    exact tidy_settle root kept found

/-- Blank speech is dropped with the filter and the group around it. -/
theorem normalizing_settles_blank_filter :
    let left := group [speech "a" "hi", effect "5"]
    (group [speech "a" " hi ", group [filter "1" (group [speech "b" " \n"]), effect "5"]]
        (some ⟨"out/000.wav"⟩)).normalizeRoot = left ∧
      left.normalizeRoot = left ∧ left.IsTidyRoot := by
  intro left
  obtain ⟨⟨-, whole⟩, -, -, -, tidy, again, -⟩ := normalizing_settles
    (group [speech "a" " hi ", group [filter "1" (group [speech "b" " \n"]), effect "5"]]
      (some ⟨"out/000.wav"⟩))
  have settled : asRoot ((group [speech "a" " hi ",
      group [filter "1" (group [speech "b" " \n"]), effect "5"]]
      (some ⟨"out/000.wav"⟩)).settle true) = left := by decide
  rw [whole, settled] at again tidy
  exact ⟨whole.trans settled, again, tidy⟩

end Node

end SpokenMarkup
