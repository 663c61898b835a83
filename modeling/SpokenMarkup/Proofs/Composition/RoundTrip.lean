import SpokenMarkup.Composition.OfMarkup
import SpokenMarkup.Proofs.Composition.Scopes

set_option autoImplicit false

namespace SpokenMarkup

/-- Composition gives normal trees, in the voice it starts with and in the words of the markup. -/
theorem Node.isNormal_ofMarkup (markup speaker : String) :
    (Node.ofMarkup markup speaker).IsNormal
      (fun name => name = speaker ∨ IsWord name.toList) := by
  apply Scopes.isNormal_normalizeRoot_tree
  apply Scopes.isSound_readAll
  apply Stretch.isLexed_of_mem_tokens
  · intro word isWord
    rw [String.toList_ofList]
    exact Or.inr isWord
  · exact Stretch.isCut_of_mem_ofMarkup markup.toList
  · exact Or.inl rfl

namespace Node

mutual

/--
The markup of a tree. The empty marker after a speech ends it, so that what follows is not taken
for more of its text.
-/
def print : Node → List Char
  | group children _ => printAll children
  | speech speaker text _ => speaker.toList ++ ':' :: (text.toList ++ ['{', '}'])
  | effect id _ => '[' :: (id.toList ++ [']'])
  | filter id child _ => '{' :: (id.toList ++ '}' :: (print child ++ ['{', '.', '}']))

def printAll : List Node → List Char
  | [] => []
  | node :: rest => print node ++ printAll rest

end

/-- What a node stands for among the children of a scope. -/
def parts : Node → List Node
  | group children _ => children
  | node => [node]

theorem regroup_parts (node : Node) (keeps : Keeps (.normal (IsWord ·.toList)) node) :
    Normalizer.regroup false node.parts = some node := by
  cases node with
  | group children target =>
      match children with
      | first :: second :: others => rw [show target = none from keeps.1]; rfl
      | [only] => exact absurd keeps.2.1 (by simp [Rules.normal])
      | [] => exact absurd keeps.2.1 (by simp [Rules.normal])
  | speech | effect | filter => rfl

theorem parts_of_not_group (node : Node) (single : node.isGroup = false) :
    node.parts = [node] := by
  cases node with
  | group => cases single
  | speech | effect | filter => rfl

theorem Keeps.target_eq_none {rules : Rules} {node : Node} (keeps : Keeps rules node) :
    node.target = none := by
  cases node <;> exact keeps.1

theorem settleAll_empty_speech (speaker : String) (rest : List Node) :
    settleAll (speech speaker "" :: rest) = settleAll rest :=
  rfl

end Node

namespace Scopes

/-- The next token is read in the innermost scope. -/
structure IsOpen (scopes : Scopes) : Prop where
  unclosed : scopes.closed = false
  unskipped : scopes.skipping = 0

def addAll (scopes : Scopes) (nodes : List Node) : Scopes :=
  nodes.foldl add scopes

theorem length_opened_add (scopes : Scopes) (node : Node) :
    (scopes.add node).opened.length = scopes.opened.length := by
  unfold add
  cases scopes.opened with
  | nil => rfl
  | cons scope outer => rfl

theorem isOpen_add (scopes : Scopes) (isOpen : scopes.IsOpen) (node : Node) :
    (scopes.add node).IsOpen := by
  unfold add
  cases scopes.opened with
  | nil => exact ⟨isOpen.unclosed, isOpen.unskipped⟩
  | cons scope outer => exact ⟨isOpen.unclosed, isOpen.unskipped⟩

theorem addAll_keeps (scopes : Scopes) (isOpen : scopes.IsOpen) (nodes : List Node) :
    (scopes.addAll nodes).IsOpen ∧ (scopes.addAll nodes).opened.length = scopes.opened.length := by
  induction nodes generalizing scopes with
  | nil => exact ⟨isOpen, rfl⟩
  | cons node rest ih =>
      have later := ih _ (isOpen_add scopes isOpen node)
      rw [length_opened_add] at later
      exact later

theorem addAll_opened (scopes : Scopes) (scope : Scope) (outer : List Scope) (nodes : List Node) :
    addAll { scopes with opened := scope :: outer } nodes =
      { scopes with
        opened := { scope with children := nodes.reverse ++ scope.children } :: outer } := by
  induction nodes generalizing scope with
  | nil => rfl
  | cons node rest ih =>
      have later := ih { scope with children := node :: scope.children }
      rw [List.reverse_cons, List.append_assoc, List.singleton_append]
      exact later

theorem addAll_root (root nodes : List Node) :
    ({ root := root } : Scopes).addAll nodes = { root := nodes.reverse ++ root } := by
  induction nodes generalizing root with
  | nil => rfl
  | cons node rest ih =>
      rw [List.reverse_cons, List.append_assoc, List.singleton_append]
      exact ih (node :: root)

theorem tree_addAll (nodes : List Node) : (({} : Scopes).addAll nodes).tree = .group nodes := by
  rw [addAll_root, tree, children]
  simp [closeAll]

theorem closeScope_cons (scopes : Scopes) (unskipped : scopes.skipping = 0) (scope : Scope)
    (outer : List Scope) (opened : scopes.opened = scope :: outer) :
    scopes.closeScope = { scopes with opened := outer }.add scope.node := by
  rw [closeScope, if_neg (by omega), opened]

/-- A scope that is opened, filled and closed becomes one node of the scope around it. -/
theorem closeScope_openScope (scopes : Scopes) (isOpen : scopes.IsOpen) (id : String)
    (room : scopes.opened.length < maxFilterDepth) (nodes : List Node) :
    ((scopes.openScope id).addAll nodes).closeScope = scopes.add (.filter id (.group nodes)) := by
  rw [openScope, if_pos room, addAll_opened, closeScope, if_neg (by simp [isOpen.unskipped])]
  simp [Scope.node]

theorem isOpen_openScope (scopes : Scopes) (isOpen : scopes.IsOpen) (id : String)
    (room : scopes.opened.length < maxFilterDepth) : (scopes.openScope id).IsOpen ∧
      (scopes.openScope id).opened.length = scopes.opened.length + 1 := by
  rw [openScope, if_pos room]
  exact ⟨⟨isOpen.unclosed, isOpen.unskipped⟩, rfl⟩

theorem read_unclosed (scopes : Scopes) (unclosed : scopes.closed = false) (token : Token) :
    scopes.read token = match token with
      | .speech speaker text => scopes.add (.speech speaker text)
      | .effect id => scopes.add (.effect id)
      | .opening id => scopes.openScope id
      | .closing => scopes.closeScope := by
  unfold read
  rw [unclosed]
  rfl

theorem read_open (scopes : Scopes) (isOpen : scopes.IsOpen) (token : Token) :
    scopes.read token = match token with
      | .speech speaker text => scopes.add (.speech speaker text)
      | .effect id => scopes.add (.effect id)
      | .opening id => scopes.openScope id
      | .closing => scopes.closeScope :=
  read_unclosed scopes isOpen.unclosed token

/--
Reading this markup, whatever follows it, comes to adding nodes to the innermost scope that settle
to `settled`.
-/
def Reads (scopes : Scopes) (speaker : String) (markup : List Char) (settled : List Node) : Prop :=
  ∀ rest, ∃ (added : List Node) (last : String), Node.settleAll added = settled ∧
    (Stretch.tokens speaker (Stretch.ofMarkup (markup ++ rest))).foldl read scopes =
      (Stretch.tokens last (Stretch.ofMarkup rest)).foldl read (scopes.addAll added)

theorem reads_append (scopes : Scopes) (speaker : String) (first second : List Char)
    (before after : List Node) (reads : scopes.Reads speaker first before)
    (then_reads : ∀ added last, (scopes.addAll added).Reads last second after) :
    scopes.Reads speaker (first ++ second) (before ++ after) := by
  intro rest
  rcases reads (second ++ rest) with ⟨added, last, settled, here⟩
  rcases then_reads added last rest with ⟨more, final, settled_more, there⟩
  refine ⟨added ++ more, final, ?_, ?_⟩
  · rw [Node.settleAll_append, settled, settled_more]
  · rw [List.append_assoc, here, there, addAll, addAll, addAll, List.foldl_append]

theorem reads_speech (scopes : Scopes) (isOpen : scopes.IsOpen) (speaker name text : String)
    (isWord : IsWord name.toList) (isSpoken : IsSpoken text) :
    scopes.Reads speaker (Node.speech name text).print [.speech name text] := by
  intro rest
  refine ⟨[.speech speaker "", .speech name text], name, ?_, ?_⟩
  · rw [Node.settleAll_empty_speech, Node.settleAll, Node.settle, isSpoken.2.1,
      if_neg isSpoken.1]
    rfl
  · have printed : (Node.speech name text).print ++ rest =
        name.toList ++ ':' :: (text.toList ++ '{' :: '}' :: rest) := by
      simp [Node.print]
    rw [printed, Stretch.tokens_speech speaker name text rest isWord isSpoken.2.2,
      List.foldl_cons, List.foldl_cons, read_open scopes isOpen,
      read_open _ (isOpen_add scopes isOpen _)]
    rfl

theorem foldl_marker (scopes : Scopes) (isOpen : scopes.IsOpen) (speaker : String) (token : Token)
    (tokens : List Token) : (.speech speaker "" :: token :: tokens).foldl read scopes =
      tokens.foldl read ((scopes.add (.speech speaker "")).read token) := by
  rw [List.foldl_cons, List.foldl_cons, read_open scopes isOpen]

theorem reads_effect (scopes : Scopes) (isOpen : scopes.IsOpen) (speaker id : String)
    (canonical : Numeral.IsCanonical id.toList) :
    scopes.Reads speaker (Node.effect id).print [.effect id] := by
  intro rest
  refine ⟨[.speech speaker "", .effect id], speaker, rfl, ?_⟩
  have printed : (Node.effect id).print ++ rest = '[' :: (id.toList ++ ']' :: rest) := by
    simp [Node.print]
  rw [printed, Stretch.tokens_effect speaker id rest canonical, foldl_marker scopes isOpen,
    read_open _ (isOpen_add scopes isOpen _)]
  rfl

def enter (scopes : Scopes) (speaker id : String) : Scopes :=
  (scopes.add (.speech speaker "")).openScope id

theorem enter_keeps (scopes : Scopes) (isOpen : scopes.IsOpen) (speaker id : String)
    (room : scopes.opened.length < maxFilterDepth) : (scopes.enter speaker id).IsOpen ∧
      (scopes.enter speaker id).opened.length = scopes.opened.length + 1 := by
  have inner := isOpen_openScope _ (isOpen_add scopes isOpen (.speech speaker "")) id
    ((length_opened_add scopes _).symm ▸ room)
  rw [length_opened_add] at inner
  exact inner

theorem closeScope_enter (scopes : Scopes) (isOpen : scopes.IsOpen) (speaker id : String)
    (room : scopes.opened.length < maxFilterDepth) (nodes : List Node) :
    ((scopes.enter speaker id).addAll nodes).closeScope =
      scopes.addAll [.speech speaker "", .filter id (.group nodes)] :=
  closeScope_openScope _ (isOpen_add scopes isOpen _) id
    ((length_opened_add scopes _).symm ▸ room) nodes

theorem reads_filter (scopes : Scopes) (isOpen : scopes.IsOpen) (speaker id : String) (child : Node)
    (isFilterId : IsFilterId id.toList) (keeps : child.Keeps (.normal (IsWord ·.toList)))
    (room : scopes.opened.length < maxFilterDepth)
    (reads : (scopes.enter speaker id).Reads speaker child.print child.parts) :
    scopes.Reads speaker (Node.filter id child).print [.filter id child] := by
  intro rest
  rcases reads ('{' :: '.' :: '}' :: rest) with ⟨added, last, settled, here⟩
  refine ⟨[.speech speaker "", .filter id (.group (added ++ [.speech last ""]))], last, ?_, ?_⟩
  · have body : (Node.group (added ++ [.speech last ""])).settle false = some child := by
      rw [Node.settle, Node.settleAll_append, settled, Node.settleAll_empty_speech,
        Node.settleAll, List.append_nil, Node.regroup_parts child keeps]
    rw [Node.settleAll_empty_speech, Node.settleAll, Node.settle, body]
    rfl
  · have printed : (Node.filter id child).print ++ rest =
        '{' :: (id.toList ++ '}' :: (child.print ++ '{' :: '.' :: '}' :: rest)) := by
      simp [Node.print]
    have filled := (addAll_keeps _ (enter_keeps scopes isOpen speaker id room).1 added).1
    -- first the opening marker, then the child with the closing marker behind it
    calc
      _ = (Stretch.tokens speaker
          (Stretch.ofMarkup (child.print ++ '{' :: '.' :: '}' :: rest))).foldl read
            (scopes.enter speaker id) := by
        rw [printed, Stretch.tokens_opening speaker id _ isFilterId, foldl_marker scopes isOpen,
          read_open _ (isOpen_add scopes isOpen _)]
        rfl
      _ = (Stretch.tokens last (Stretch.ofMarkup rest)).foldl read
          ((scopes.enter speaker id).addAll (added ++ [.speech last ""])).closeScope := by
        rw [here, Stretch.tokens_closing, foldl_marker _ filled,
          read_open _ (isOpen_add _ filled _), addAll, addAll, List.foldl_append]
        rfl
      _ = _ := by rw [closeScope_enter scopes isOpen speaker id room]

mutual

/-- A normal subtree is read off its own markup, where there is room for its filters. -/
theorem reads_print (node : Node) (keeps : node.Keeps (.normal (IsWord ·.toList)))
    (scopes : Scopes) (isOpen : scopes.IsOpen)
    (room : node.filterDepth + scopes.opened.length ≤ maxFilterDepth) (speaker : String) :
    scopes.Reads speaker node.print node.parts := by
  have unnamed := keeps.target_eq_none
  cases node with
  | group children target => exact reads_printAll children keeps.2.2 scopes isOpen room speaker
  | speech name text target =>
      cases unnamed
      exact reads_speech scopes isOpen speaker name text keeps.2.1 keeps.2.2
  | effect id target =>
      cases unnamed
      exact reads_effect scopes isOpen speaker id keeps.2
  | filter id child target =>
      cases unnamed
      rw [Node.filterDepth] at room
      have inner := enter_keeps scopes isOpen speaker id (by omega)
      apply reads_filter scopes isOpen speaker id child keeps.2.1 keeps.2.2 (by omega)
      apply reads_print child keeps.2.2 _ inner.1
      omega

theorem reads_printAll (nodes : List Node) (keep : Node.KeepAll (.normal (IsWord ·.toList)) nodes)
    (scopes : Scopes) (isOpen : scopes.IsOpen)
    (room : Node.filterDepthAll nodes + scopes.opened.length ≤ maxFilterDepth)
    (speaker : String) : scopes.Reads speaker (Node.printAll nodes) nodes := by
  cases nodes with
  | nil => exact fun rest => ⟨[], speaker, rfl, rfl⟩
  | cons node rest =>
      rcases keep with ⟨⟨single, here⟩, others⟩
      rw [Node.filterDepthAll] at room
      have first := reads_print node here scopes isOpen (by omega) speaker
      -- a child of a group is no group, so it stands for itself alone
      rw [Node.parts_of_not_group node single] at first
      apply reads_append scopes speaker node.print (Node.printAll rest) [node] rest first
      intro added last
      have after := addAll_keeps scopes isOpen added
      apply reads_printAll rest others _ after.1
      omega

end

end Scopes

/-- A normal tree whose speakers are words comes back from its own markup, in whatever voice that
starts. -/
theorem Node.ofMarkup_print (root : Node) (normal : root.IsNormal (IsWord ·.toList))
    (speaker : String) : Node.ofMarkup (String.ofList root.print) speaker = root := by
  have room := normal.shallow
  rw [normal.eq_group] at room ⊢
  generalize equal : root.children = children at room ⊢
  have keep := equal ▸ normal.keepAll
  rcases Scopes.reads_printAll children keep {} ⟨rfl, rfl⟩ room speaker [] with
    ⟨added, last, settled, read⟩
  rw [List.append_nil] at read
  -- the end of the markup adds one more empty speech
  have whole : Scopes.readAll (Token.ofMarkup (String.ofList (Node.group children).print) speaker) =
      ({} : Scopes).addAll (added ++ [.speech last ""]) := by
    have isOpen := (Scopes.addAll_keeps {} ⟨rfl, rfl⟩ added).1
    rw [Token.ofMarkup, String.toList_ofList, Scopes.readAll, Node.print, read, Stretch.tokens_nil,
      List.foldl_cons, List.foldl_nil, Scopes.read_open _ isOpen, Scopes.addAll, Scopes.addAll,
      List.foldl_append]
    rfl
  rw [Node.ofMarkup, Node.ofTokens, whole, Scopes.tree_addAll, Node.normalizeRoot_group,
    Node.settleAll_append, settled, Node.settleAll_empty_speech, Node.settleAll, List.append_nil]

/--
Composition reaches the normal trees and no others. Whatever the markup, its tree is normal, with
no speaker but the first and the words of the markup, and no path of it has more than 514 nodes;
and every normal tree whose speakers are words is the tree of the markup that it prints as.
-/
theorem composition_reaches_normal_trees :
    (∀ markup speaker : String,
      (Node.ofMarkup markup speaker).IsNormal
          (fun name => name = speaker ∨ IsWord name.toList) ∧
        (Node.ofMarkup markup speaker).height ≤ 514) ∧
      ∀ (root : Node) (speaker : String), root.IsNormal (IsWord ·.toList) →
        Node.ofMarkup (String.ofList root.print) speaker = root := by
  refine ⟨?_, ?_⟩
  · intro markup speaker
    have normal := Node.isNormal_ofMarkup markup speaker
    exact ⟨normal, normal.height_le⟩
  · intro root speaker normal
    exact root.ofMarkup_print normal speaker

def Node.dialogue : Node :=
  .group [.speech "ann" "hi there", .filter "1" (.group [.effect "-12", .speech "bo" "x"])]

theorem isNormal_dialogue : Node.dialogue.IsNormal (IsWord ·.toList) := by
  have ann : IsWord "ann".toList := by simp [IsWord]
  have bo : IsWord "bo".toList := by simp [IsWord]
  have hi : IsSpoken "hi there" := by simp [IsSpoken, IsPlain]; rfl
  have x : IsSpoken "x" := by simp [IsSpoken, IsPlain]; rfl
  have one : IsFilterId "1".toList := by simp [IsFilterId]
  have twelve : Numeral.IsCanonical "-12".toList :=
    Or.inr ⟨['1', '2'], Or.inr (by decide), by decide, by decide, by decide⟩
  have body : Node.KeepAll (.normal (IsWord ·.toList)) [.effect "-12", .speech "bo" "x"] :=
    ⟨⟨rfl, rfl, twelve⟩, ⟨rfl, rfl, bo, x⟩, trivial⟩
  refine ⟨rfl, rfl, ⟨⟨rfl, rfl, ann, hi⟩, ⟨rfl, rfl, one, rfl, ?_, body⟩, trivial⟩, by decide⟩
  exact Nat.le_refl 2

theorem composition_reaches_dialogue : Node.dialogue.IsNormal (IsWord ·.toList) ∧
    Node.ofMarkup (String.ofList Node.dialogue.print) "udisen" = Node.dialogue :=
  ⟨isNormal_dialogue, composition_reaches_normal_trees.2 _ _ isNormal_dialogue⟩

end SpokenMarkup
