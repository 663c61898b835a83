import SpokenMarkup.Proofs.Composition.Shape

set_option autoImplicit false

namespace SpokenMarkup.Scopes

/-- A raw node that may be added where this many filters are open. -/
def Suits (speaks : String → Prop) (around : Nat) (node : Node) : Prop :=
  (node.isGroup = false ∧ node.Keeps (.raw speaks)) ∧ node.filterDepth + around ≤ maxFilterDepth

/-- Open scopes, innermost first: each has an id, a level to stand on, and children that suit it. -/
def Nested (speaks : String → Prop) : List Scope → Prop
  | [] => True
  | scope :: outer =>
    (IsFilterId scope.id.toList ∧ outer.length < maxFilterDepth ∧
      ∀ node ∈ scope.children, Suits speaks (outer.length + 1) node) ∧ Nested speaks outer

/-- The invariant of a run over tokens. -/
structure IsSound (speaks : String → Prop) (scopes : Scopes) : Prop where
  root : ∀ node ∈ scopes.root, Suits speaks 0 node
  nested : Nested speaks scopes.opened

variable {speaks : String → Prop}

theorem suits_node (scope : Scope) (around : Nat) (isFilterId : IsFilterId scope.id.toList)
    (room : around < maxFilterDepth)
    (suit : ∀ node ∈ scope.children, Suits speaks (around + 1) node) :
    Suits speaks around scope.node := by
  have keep : Node.KeepAll (.raw speaks) scope.children.reverse := by
    apply (Node.keepAll_iff _).mpr
    intro node member
    exact (suit node (List.mem_reverse.mp member)).1
  have deep : Node.filterDepthAll scope.children.reverse ≤ maxFilterDepth - (around + 1) := by
    apply (Node.filterDepthAll_le_iff _ _).mpr
    intro node member
    have := (suit node (List.mem_reverse.mp member)).2
    omega
  refine ⟨⟨rfl, rfl, isFilterId, rfl, Nat.zero_le _, keep⟩, ?_⟩
  simp only [Scope.node, Node.filterDepth]
  omega

theorem isSound_add (scopes : Scopes) (sound : scopes.IsSound speaks) (node : Node)
    (suits : Suits speaks scopes.opened.length node) : (scopes.add node).IsSound speaks := by
  have root := sound.root
  have nested := sound.nested
  unfold add
  cases equal : scopes.opened with
  | nil =>
      rw [equal] at suits
      exact ⟨List.forall_mem_cons.mpr ⟨suits, root⟩, trivial⟩
  | cons scope outer =>
      rw [equal] at suits nested
      rcases nested with ⟨⟨isFilterId, room, suit⟩, below⟩
      exact ⟨root, ⟨isFilterId, room, List.forall_mem_cons.mpr ⟨suits, suit⟩⟩, below⟩

theorem isSound_openScope (scopes : Scopes) (sound : scopes.IsSound speaks) (id : String)
    (isFilterId : IsFilterId id.toList) : (scopes.openScope id).IsSound speaks := by
  rw [openScope]
  by_cases room : scopes.opened.length < maxFilterDepth
  · rw [if_pos room]
    exact ⟨sound.root, ⟨isFilterId, room, nofun⟩, sound.nested⟩
  · rw [if_neg room]
    exact ⟨sound.root, sound.nested⟩

theorem isSound_closeScope (scopes : Scopes) (sound : scopes.IsSound speaks) :
    scopes.closeScope.IsSound speaks := by
  have nested := sound.nested
  rw [closeScope]
  by_cases skipping : scopes.skipping > 0
  · rw [if_pos skipping]
    exact ⟨sound.root, nested⟩
  · rw [if_neg skipping]
    cases equal : scopes.opened with
    | nil => exact ⟨sound.root, trivial⟩
    | cons scope outer =>
        rw [equal] at nested
        rcases nested with ⟨⟨isFilterId, room, suit⟩, below⟩
        apply isSound_add { scopes with opened := outer } ⟨sound.root, below⟩
        exact suits_node scope outer.length isFilterId room suit

theorem Nested.length_le (opened : List Scope) (nested : Nested speaks opened) :
    opened.length ≤ maxFilterDepth := by
  cases opened with
  | nil => exact Nat.zero_le _
  | cons scope outer => exact nested.1.2.1

theorem isSound_read (scopes : Scopes) (sound : scopes.IsSound speaks) (token : Token)
    (lexed : Stretch.IsLexed speaks token) : (scopes.read token).IsSound speaks := by
  have height := sound.nested.length_le
  unfold read
  by_cases closed : scopes.closed = true
  · rw [if_pos closed]
    exact ⟨sound.root, sound.nested⟩
  · rw [if_neg closed]
    cases token with
    | speech speaker text =>
        apply isSound_add scopes sound
        exact ⟨⟨rfl, rfl, lexed⟩, by simpa [Node.filterDepth] using height⟩
    | effect id =>
        apply isSound_add scopes sound
        exact ⟨⟨rfl, rfl, lexed⟩, by simpa [Node.filterDepth] using height⟩
    | opening id => exact isSound_openScope scopes sound id lexed
    | closing => exact isSound_closeScope scopes sound

theorem isSound_foldl (tokens : List Token) (scopes : Scopes) (sound : scopes.IsSound speaks)
    (lexed : ∀ token ∈ tokens, Stretch.IsLexed speaks token) :
    (tokens.foldl read scopes).IsSound speaks := by
  induction tokens generalizing scopes with
  | nil => exact sound
  | cons token rest ih =>
      rw [List.forall_mem_cons] at lexed
      exact ih _ (isSound_read scopes sound token lexed.1) lexed.2

theorem isSound_readAll (tokens : List Token)
    (lexed : ∀ token ∈ tokens, Stretch.IsLexed speaks token) : (readAll tokens).IsSound speaks :=
  isSound_foldl tokens {} ⟨nofun, trivial⟩ lexed

theorem suits_closeAll (opened : List Scope) (nested : Nested speaks opened) (inner : List Node)
    (suit : ∀ node ∈ inner, Suits speaks opened.length node) :
    ∀ node ∈ closeAll inner opened, Suits speaks 0 node := by
  induction opened generalizing inner with
  | nil => exact suit
  | cons scope outer ih =>
      rcases nested with ⟨⟨isFilterId, room, kept⟩, below⟩
      -- the scope closes to the one node that the next scope out receives
      apply ih below
      intro node member
      rw [List.mem_singleton.mp member]
      apply suits_node { scope with children := inner ++ scope.children } outer.length isFilterId
        room
      intro child joined
      rcases List.mem_append.mp joined with new | old
      · exact suit child new
      · exact kept child old

/-- The children of a finished tree are raw, and below none of them are too many filters. -/
theorem suits_children (scopes : Scopes) (sound : scopes.IsSound speaks) :
    ∀ node ∈ scopes.children, Suits speaks 0 node := by
  intro node member
  rw [children, List.mem_reverse, List.mem_append] at member
  rcases member with left | added
  · exact suits_closeAll scopes.opened sound.nested [] nofun node left
  · exact sound.root node added

theorem isNormal_normalizeRoot_tree (scopes : Scopes) (sound : scopes.IsSound speaks) :
    scopes.tree.normalizeRoot.IsNormal speaks := by
  have suit := suits_children scopes sound
  apply Node.isNormal_normalizeRoot scopes.children
  · exact (Node.keepAll_iff _).mpr fun node member => (suit node member).1
  · exact (Node.filterDepthAll_le_iff _ _).mpr fun node member => (suit node member).2

end SpokenMarkup.Scopes
