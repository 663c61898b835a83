import SpokenMarkup.Proofs.Composition.RoundTrip

set_option autoImplicit false

namespace SpokenMarkup

/--
Tokens with their filter markers matched as brackets. A closing marker without an open scope ends
them. A marker is kept if fewer than 256 scopes are open around it, a closing marker if its scope
was kept, and kept scopes that are left open are closed at the end. `scopes` tells for each open
scope, innermost first, whether it was kept.
-/
def Token.repairFrom : List Bool → List Token → List Token
  | scopes, [] => (scopes.filter id).map fun _ => .closing
  | [], .closing :: _ => []
  | kept :: scopes, .closing :: rest =>
    (if kept then [.closing] else []) ++ repairFrom scopes rest
  | scopes, .opening id :: rest =>
    let kept := decide (scopes.length < 256)
    (if kept then [.opening id] else []) ++ repairFrom (kept :: scopes) rest
  | scopes, .speech speaker text :: rest => .speech speaker text :: repairFrom scopes rest
  | scopes, .effect id :: rest => .effect id :: repairFrom scopes rest

def Token.repair (tokens : List Token) : List Token :=
  repairFrom [] tokens

namespace Node

mutual

/-- The tokens of a raw tree; a group is what a scope holds, and has no marker of its own. -/
def tokens : Node → List Token
  | group children _ => tokensAll children
  | speech speaker text _ => [.speech speaker text]
  | effect id _ => [.effect id]
  | filter id child _ => .opening id :: (tokens child ++ [.closing])

def tokensAll : List Node → List Token
  | [] => []
  | node :: rest => tokens node ++ tokensAll rest

end

mutual

/-- A node without a file that is read from tokens; groups are the bodies of filters only. -/
def IsRaw : Node → Prop
  | group _ _ => False
  | speech _ _ target | effect _ target => target = none
  | filter _ child target => target = none ∧ IsRawGroup child

def IsRawGroup : Node → Prop
  | group children target => target = none ∧ AreRaw children
  | speech _ _ _ | effect _ _ | filter _ _ _ => False

def AreRaw : List Node → Prop
  | [] => True
  | node :: rest => IsRaw node ∧ AreRaw rest

end

theorem tokensAll_append (left right : List Node) :
    tokensAll (left ++ right) = tokensAll left ++ tokensAll right := by
  induction left with
  | nil => rfl
  | cons node rest ih =>
      rw [List.cons_append, tokensAll, tokensAll, ih, List.append_assoc]

theorem tokensAll_concat (nodes : List Node) (node : Node) :
    tokensAll (nodes ++ [node]) = tokensAll nodes ++ node.tokens := by
  rw [tokensAll_append, tokensAll, tokensAll, List.append_nil]

theorem IsRawGroup.eq_group {root : Node} (isRaw : root.IsRawGroup) :
    ∃ children, root = group children ∧ AreRaw children := by
  cases root with
  | group children target =>
      obtain ⟨unnamed, raw⟩ := isRaw
      subst unnamed
      exact ⟨children, rfl, raw⟩
  | speech | effect | filter => exact isRaw.elim

end Node

def Scope.begun (scope : Scope) : List Token :=
  .opening scope.id :: Node.tokensAll scope.children.reverse

namespace Scopes

/-- The tokens of all that was read so far; scopes that are open have no closing marker yet. -/
def written (scopes : Scopes) : List Token :=
  Node.tokensAll scopes.root.reverse ++ scopes.opened.reverse.flatMap Scope.begun

/-- Whether the open scopes were kept, innermost first: those that were skipped are inside of all
others. -/
def marks (scopes : Scopes) : List Bool :=
  List.replicate scopes.skipping false ++ List.replicate scopes.opened.length true

/-- The invariant of a run that has not come to an end: scopes are skipped only where there is no
room for more. -/
structure IsCapped (scopes : Scopes) : Prop where
  unclosed : scopes.closed = false
  height : scopes.opened.length ≤ 256
  full : 0 < scopes.skipping → scopes.opened.length = 256

theorem written_add (scopes : Scopes) (node : Node) :
    (scopes.add node).written = scopes.written ++ node.tokens := by
  unfold add written
  cases scopes.opened with
  | nil => simp [Node.tokensAll_concat]
  | cons scope outer => simp [Scope.begun, Node.tokensAll_concat]

theorem marks_add (scopes : Scopes) (node : Node) : (scopes.add node).marks = scopes.marks := by
  unfold marks
  rw [length_opened_add]
  unfold add
  cases scopes.opened with
  | nil => rfl
  | cons scope outer => rfl

theorem isCapped_add (scopes : Scopes) (capped : scopes.IsCapped) (node : Node) :
    (scopes.add node).IsCapped := by
  have height := capped.height
  have full := capped.full
  rw [← length_opened_add scopes node] at height full
  refine ⟨?_, height, ?_⟩
  · have unclosed := capped.unclosed
    unfold add
    cases scopes.opened with
    | nil => exact unclosed
    | cons scope outer => exact unclosed
  · intro skipping
    apply full
    unfold add at skipping
    cases equal : scopes.opened with
    | nil => rwa [equal] at skipping
    | cons scope outer => rwa [equal] at skipping

theorem tokensAll_closeAll (opened : List Scope) (inner : List Node) :
    Node.tokensAll (closeAll inner opened).reverse =
      opened.reverse.flatMap Scope.begun ++ Node.tokensAll inner.reverse ++
        List.replicate opened.length .closing := by
  induction opened generalizing inner with
  | nil => simp [closeAll]
  | cons scope outer ih =>
      have closed : Node.tokensAll [Scope.node { scope with children := inner ++ scope.children }] =
          scope.begun ++ Node.tokensAll inner.reverse ++ [.closing] := by
        simp [Scope.node, Scope.begun, Node.tokensAll, Node.tokens, Node.tokensAll_append]
      rw [closeAll, ih, List.reverse_singleton, closed]
      simp [List.replicate_succ]

theorem tokens_tree (scopes : Scopes) :
    scopes.tree.tokens =
      scopes.written ++ List.replicate scopes.opened.length Token.closing := by
  rw [tree, Node.tokens, children, List.reverse_append, Node.tokensAll_append, tokensAll_closeAll,
    written]
  simp [Node.tokensAll]

/-- After the end of the root no token leaves a trace in the tree. -/
theorem tree_foldl_of_closed (tokens : List Token) (scopes : Scopes)
    (closed : scopes.closed = true) : (tokens.foldl read scopes).tree = scopes.tree := by
  induction tokens generalizing scopes with
  | nil => rfl
  | cons token rest ih =>
      have ignored : scopes.read token = { scopes with ignored := scopes.ignored + 1 } := by
        unfold read
        exact if_pos closed
      rw [List.foldl_cons, ignored]
      exact ih { scopes with ignored := scopes.ignored + 1 } closed

theorem openScope_of_room (scopes : Scopes) (capped : scopes.IsCapped) (id : String)
    (room : scopes.marks.length < 256) :
    (scopes.openScope id).IsCapped ∧ (scopes.openScope id).marks = true :: scopes.marks ∧
      (scopes.openScope id).written = scopes.written ++ [.opening id] := by
  have full := capped.full
  have total : scopes.marks.length = scopes.skipping + scopes.opened.length := by simp [marks]
  have unskipped : scopes.skipping = 0 := by omega
  have below : scopes.opened.length < maxFilterDepth := by
    show scopes.opened.length < 256
    omega
  rw [openScope, if_pos below]
  refine ⟨⟨capped.unclosed, below, ?_⟩, ?_, ?_⟩
  · intro skipping
    exact absurd unskipped (Nat.ne_of_gt skipping)
  · simp [marks, unskipped, List.replicate_succ]
  · simp [written, Scope.begun, Node.tokensAll]

theorem openScope_of_full (scopes : Scopes) (capped : scopes.IsCapped) (id : String)
    (full : ¬scopes.marks.length < 256) :
    (scopes.openScope id).IsCapped ∧ (scopes.openScope id).marks = false :: scopes.marks ∧
      (scopes.openScope id).written = scopes.written := by
  have height := capped.height
  have whole := capped.full
  have total : scopes.marks.length = scopes.skipping + scopes.opened.length := by simp [marks]
  have top : scopes.opened.length = 256 := by omega
  have above : ¬scopes.opened.length < maxFilterDepth := by
    show ¬scopes.opened.length < 256
    omega
  rw [openScope, if_neg above]
  refine ⟨⟨capped.unclosed, height, fun _ => top⟩, ?_, rfl⟩
  simp [marks, List.replicate_succ]

theorem closeScope_of_skipping (scopes : Scopes) (capped : scopes.IsCapped)
    (skipping : 0 < scopes.skipping) :
    scopes.closeScope.IsCapped ∧ scopes.marks = false :: scopes.closeScope.marks ∧
      scopes.closeScope.written = scopes.written := by
  have top := capped.full skipping
  rw [closeScope, if_pos skipping]
  refine ⟨⟨capped.unclosed, capped.height, fun _ => top⟩, ?_, rfl⟩
  obtain ⟨count, equal⟩ := Nat.exists_eq_succ_of_ne_zero (Nat.ne_of_gt skipping)
  simp [marks, equal, List.replicate_succ]

/-- The innermost scope that was kept becomes a node of the scope around it. -/
theorem closeScope_of_opened (scopes : Scopes) (capped : scopes.IsCapped)
    (unskipped : scopes.skipping = 0) (opened : scopes.opened ≠ []) :
    scopes.closeScope.IsCapped ∧ scopes.marks = true :: scopes.closeScope.marks ∧
      scopes.closeScope.written = scopes.written ++ [.closing] := by
  have height := capped.height
  obtain ⟨scope, outer, equal⟩ := List.exists_cons_of_ne_nil opened
  have closed := closeScope_cons scopes unskipped scope outer equal
  have inner : IsCapped { scopes with opened := outer } := by
    rw [equal, List.length_cons] at height
    refine ⟨capped.unclosed, Nat.le_of_succ_le height, ?_⟩
    intro skipping
    exact absurd unskipped (Nat.ne_of_gt skipping)
  rw [closed]
  refine ⟨isCapped_add _ inner scope.node, ?_, ?_⟩
  · rw [marks_add]
    simp [marks, unskipped, equal, List.replicate_succ]
  · rw [written_add]
    simp [written, equal, Scope.begun, Scope.node, Node.tokens]

/-- What a run writes back is what it had read before, and the repaired tokens. -/
theorem tokens_tree_foldl (tokens : List Token) (scopes : Scopes) (capped : scopes.IsCapped) :
    (tokens.foldl read scopes).tree.tokens =
      scopes.written ++ Token.repairFrom scopes.marks tokens := by
  induction tokens generalizing scopes with
  | nil =>
      have kept : (scopes.marks.filter id).map (fun _ => Token.closing) =
          List.replicate scopes.opened.length .closing := by
        simp [marks]
      rw [List.foldl_nil, tokens_tree, Token.repairFrom, kept]
  | cons token rest ih =>
      rw [List.foldl_cons, read_unclosed scopes capped.unclosed]
      cases token with
      | speech speaker text =>
          simp only
          rw [ih _ (isCapped_add scopes capped _), written_add, marks_add, Token.repairFrom,
            Node.tokens, List.append_assoc, List.singleton_append]
      | effect id =>
          simp only
          rw [ih _ (isCapped_add scopes capped _), written_add, marks_add, Token.repairFrom,
            Node.tokens, List.append_assoc, List.singleton_append]
      | opening id =>
          simp only
          by_cases room : scopes.marks.length < 256
          · obtain ⟨inner, marks, written⟩ := openScope_of_room scopes capped id room
            rw [ih _ inner, marks, written, Token.repairFrom]
            simp [room]
          · obtain ⟨inner, marks, written⟩ := openScope_of_full scopes capped id room
            rw [ih _ inner, marks, written, Token.repairFrom]
            simp [room]
      | closing =>
          simp only
          by_cases skipping : 0 < scopes.skipping
          · obtain ⟨inner, marks, written⟩ := closeScope_of_skipping scopes capped skipping
            rw [ih _ inner, marks, written, Token.repairFrom]
            simp
          · have unskipped : scopes.skipping = 0 := by omega
            by_cases root : scopes.opened = []
            · have ended : scopes.closeScope = { scopes with closed := true } := by
                rw [closeScope, if_neg skipping, root]
              have marks : scopes.marks = [] := by simp [marks, unskipped, root]
              rw [ended, tree_foldl_of_closed rest _ rfl, tokens_tree, marks, Token.repairFrom]
              simp [root, written]
            · obtain ⟨inner, marks, written⟩ :=
                closeScope_of_opened scopes capped unskipped root
              rw [ih _ inner, marks, written, Token.repairFrom]
              simp

mutual

/-- The tokens of a raw node add it to the innermost scope, where there is room for its filters. -/
theorem foldl_tokens (node : Node) (raw : node.IsRaw) (scopes : Scopes) (isOpen : scopes.IsOpen)
    (room : node.filterDepth + scopes.opened.length ≤ maxFilterDepth) :
    node.tokens.foldl read scopes = scopes.add node := by
  cases node with
  | group children target => exact raw.elim
  | speech speaker text target =>
      obtain rfl : target = none := raw
      exact read_open scopes isOpen (.speech speaker text)
  | effect id target =>
      obtain rfl : target = none := raw
      exact read_open scopes isOpen (.effect id)
  | filter id child target =>
      obtain ⟨unnamed, inner⟩ := raw
      subst unnamed
      rw [Node.filterDepth] at room
      have below : scopes.opened.length < maxFilterDepth := by omega
      obtain ⟨opened, level⟩ := isOpen_openScope scopes isOpen id below
      rw [Node.tokens, List.foldl_cons, read_open scopes isOpen, List.foldl_append]
      cases child with
      | speech | effect | filter => exact inner.elim
      | group children target =>
          obtain ⟨unnamed, raw⟩ := inner
          subst unnamed
          rw [Node.filterDepth] at room
          have filled := foldl_tokensAll children raw (scopes.openScope id) opened (by omega)
          have isOpenAfter := (addAll_keeps _ opened children).1
          rw [Node.tokens, filled, List.foldl_cons, List.foldl_nil, read_open _ isOpenAfter]
          exact closeScope_openScope scopes isOpen id below children

theorem foldl_tokensAll (nodes : List Node) (raw : Node.AreRaw nodes) (scopes : Scopes)
    (isOpen : scopes.IsOpen)
    (room : Node.filterDepthAll nodes + scopes.opened.length ≤ maxFilterDepth) :
    (Node.tokensAll nodes).foldl read scopes = scopes.addAll nodes := by
  cases nodes with
  | nil => rfl
  | cons node rest =>
      rw [Node.filterDepthAll] at room
      have first := foldl_tokens node raw.1 scopes isOpen (by omega)
      have level := length_opened_add scopes node
      have others := foldl_tokensAll rest raw.2 _ (isOpen_add scopes isOpen node) (by omega)
      rw [Node.tokensAll, List.foldl_append, first, others]
      rfl

end

end Scopes

/--
Reading tokens matches the filter markers as brackets, at most 256 deep, and loses nothing else:
the tokens of the tree are the repaired tokens. And every raw tree in which no more filters nest
is read back from its own tokens.
-/
theorem reading_repairs_brackets :
    (∀ tokens : List Token, (Node.ofTokens tokens).tokens = Token.repair tokens) ∧
      ∀ root : Node, root.IsRawGroup → root.filterDepth ≤ 256 →
        Node.ofTokens root.tokens = root := by
  refine ⟨?_, ?_⟩
  · intro tokens
    have capped : Scopes.IsCapped {} := ⟨rfl, Nat.zero_le _, nofun⟩
    exact Scopes.tokens_tree_foldl tokens {} capped
  · intro root isRaw shallow
    obtain ⟨children, rfl, raw⟩ := isRaw.eq_group
    have read := Scopes.foldl_tokensAll children raw {} ⟨rfl, rfl⟩ shallow
    rw [Node.ofTokens, Node.tokens, Scopes.readAll, read, Scopes.tree_addAll]

def Node.draft : Node :=
  .group [.speech "a" "", .filter "1" (.group []),
    .filter "2" (.group [.filter "." (.group [.effect "x"]), .speech "b" "y"])]

theorem reading_repairs_draft : Node.draft.IsRawGroup ∧ Node.draft.filterDepth ≤ 256 ∧
    Node.ofTokens Node.draft.tokens = Node.draft := by
  have raw : Node.draft.IsRawGroup :=
    ⟨rfl, rfl, ⟨rfl, rfl, trivial⟩, ⟨rfl, rfl, ⟨rfl, rfl, rfl, trivial⟩, rfl, trivial⟩, trivial⟩
  have shallow : Node.draft.filterDepth ≤ 256 := by decide
  exact ⟨raw, shallow, reading_repairs_brackets.2 Node.draft raw shallow⟩

end SpokenMarkup
