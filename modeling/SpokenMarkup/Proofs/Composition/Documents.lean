import SpokenMarkup.Proofs.Composition.RoundTrip
import SpokenMarkup.Proofs.Markup.Seam

set_option autoImplicit false

namespace SpokenMarkup

/-- How many scopes are open after the tokens; none if a closing marker finds no open scope. -/
def Token.level : Nat → List Token → Option Nat
  | opened, [] => some opened
  | 0, .closing :: _ => none
  | opened + 1, .closing :: rest => level opened rest
  | opened, .opening _ :: rest => level (opened + 1) rest
  | opened, .speech _ _ :: rest | opened, .effect _ :: rest => level opened rest

def Token.nesting : Nat → List Token → Nat
  | opened, [] => opened
  | opened, .closing :: rest => max opened (nesting (opened - 1) rest)
  | opened, .opening _ :: rest => nesting (opened + 1) rest
  | opened, .speech _ _ :: rest | opened, .effect _ :: rest => nesting opened rest

/-- A markup whose markers all end, and whose filter markers are balanced. -/
structure IsClosed (markup speaker : String) : Prop where
  ended : ∀ stretch ∈ Stretch.ofMarkup markup.toList, stretch.IsEnded
  balanced : Token.level 0 (Token.ofMarkup markup speaker) = some 0

theorem Token.level_closing (opened : Nat) (rest : List Token) :
    level opened (.closing :: rest) = if opened = 0 then none else level (opened - 1) rest := by
  cases opened <;> rfl

theorem Token.le_nesting (opened : Nat) (tokens : List Token) :
    opened ≤ nesting opened tokens := by
  fun_induction nesting opened tokens with
  | case1 => exact Nat.le_refl _
  | case2 opened rest ih => exact Nat.le_max_left ..
  | case3 opened id rest ih => omega
  | case4 opened speaker text rest ih => exact ih
  | case5 opened id rest ih => exact ih

namespace Scopes

theorem add_frame (scopes : Scopes) (node : Node) :
    (scopes.add node).closed = scopes.closed ∧ (scopes.add node).skipping = scopes.skipping := by
  unfold add
  cases scopes.opened with
  | nil => exact ⟨rfl, rfl⟩
  | cons scope outer => exact ⟨rfl, rfl⟩

def level (scopes : Scopes) : Nat :=
  scopes.skipping + scopes.opened.length

theorem level_add (scopes : Scopes) (node : Node) : (scopes.add node).level = scopes.level := by
  rw [level, level, (add_frame scopes node).2, length_opened_add]

theorem level_openScope (scopes : Scopes) (id : String) :
    (scopes.openScope id).level = scopes.level + 1 ∧
      (scopes.openScope id).closed = scopes.closed := by
  unfold openScope level
  by_cases room : scopes.opened.length < maxFilterDepth
  · rw [if_pos room]
    exact ⟨rfl, rfl⟩
  · rw [if_neg room]
    refine ⟨?_, rfl⟩
    show scopes.skipping + 1 + scopes.opened.length = _
    omega

theorem level_closeScope (scopes : Scopes) (inside : scopes.level ≠ 0) :
    scopes.closeScope.level = scopes.level - 1 ∧ scopes.closeScope.closed = scopes.closed := by
  unfold closeScope
  by_cases skipping : scopes.skipping > 0
  · rw [if_pos skipping]
    refine ⟨?_, rfl⟩
    show scopes.skipping - 1 + scopes.opened.length = scopes.skipping + scopes.opened.length - 1
    omega
  · rw [if_neg skipping]
    unfold level at inside ⊢
    cases opened : scopes.opened with
    | nil =>
        rw [opened, List.length_nil] at inside
        omega
    | cons scope outer =>
        have kept := add_frame { scopes with opened := outer } scope.node
        refine ⟨?_, kept.1⟩
        rw [kept.2, length_opened_add, List.length_cons]
        show scopes.skipping + outer.length = _
        omega

/-- A run over tokens follows their level, and does not end the root while there is one. -/
theorem level_foldl (tokens : List Token) (scopes : Scopes) (unclosed : scopes.closed = false)
    (last : Nat) (balanced : Token.level scopes.level tokens = some last) :
    (tokens.foldl read scopes).closed = false ∧ (tokens.foldl read scopes).level = last := by
  induction tokens generalizing scopes with
  | nil => exact ⟨unclosed, Option.some.inj balanced⟩
  | cons token rest ih =>
      rw [List.foldl_cons, read_unclosed scopes unclosed]
      cases token with
      | speech speaker text =>
          apply ih
          · rw [(add_frame scopes _).1, unclosed]
          · rwa [level_add]
      | effect id =>
          apply ih
          · rw [(add_frame scopes _).1, unclosed]
          · rwa [level_add]
      | opening id =>
          have opened := level_openScope scopes id
          apply ih
          · rw [opened.2, unclosed]
          · rwa [opened.1]
      | closing =>
          rw [Token.level_closing] at balanced
          by_cases outside : scopes.level = 0
          · rw [if_pos outside] at balanced
            cases balanced
          · rw [if_neg outside] at balanced
            have closed := level_closeScope scopes outside
            apply ih
            · rw [closed.2, unclosed]
            · rwa [closed.1]

theorem readAll_balanced (tokens : List Token) (balanced : Token.level 0 tokens = some 0) :
    (readAll tokens).IsOpen ∧ (readAll tokens).opened = [] := by
  obtain ⟨unclosed, level⟩ := level_foldl tokens {} rfl 0 balanced
  rw [Scopes.level, Nat.add_eq_zero_iff] at level
  exact ⟨⟨unclosed, level.1⟩, List.eq_nil_of_length_eq_zero level.2⟩

theorem children_balanced (tokens : List Token) (balanced : Token.level 0 tokens = some 0) :
    (readAll tokens).children = (readAll tokens).root.reverse := by
  rw [children, (readAll_balanced tokens balanced).2]
  rfl

/-- The scopes of a run that goes on where an earlier one had closed all its scopes. -/
def after (earlier later : Scopes) : Scopes :=
  { later with
    root := later.root ++ earlier.root
    skipped := earlier.skipped + later.skipped
    ignored := earlier.ignored + later.ignored }

theorem add_after (earlier later : Scopes) (node : Node) :
    (after earlier later).add node = after earlier (later.add node) := by
  unfold add after
  cases later.opened with
  | nil => rfl
  | cons scope outer => rfl

theorem openScope_after (earlier later : Scopes) (id : String) :
    (after earlier later).openScope id = after earlier (later.openScope id) := by
  unfold openScope
  show (if later.opened.length < maxFilterDepth then _ else _) = _
  by_cases room : later.opened.length < maxFilterDepth
  · rw [if_pos room, if_pos room]
    rfl
  · rw [if_neg room, if_neg room]
    rfl

theorem closeScope_after (earlier later : Scopes) :
    (after earlier later).closeScope = after earlier later.closeScope := by
  by_cases skipping : later.skipping > 0
  · rw [closeScope, closeScope, if_pos skipping]
    exact if_pos skipping
  · cases opened : later.opened with
    | nil =>
        have same : (after earlier later).opened = [] := opened
        rw [closeScope, closeScope, if_neg skipping, same, opened]
        exact if_neg skipping
    | cons scope outer =>
        have unskipped : later.skipping = 0 := by omega
        have alone := closeScope_cons later unskipped scope outer opened
        have behind := closeScope_cons (after earlier later) unskipped scope outer opened
        rw [alone, behind, ← add_after]
        rfl

theorem read_after (earlier later : Scopes) (token : Token) :
    (after earlier later).read token = after earlier (later.read token) := by
  by_cases closed : later.closed = true
  · have ended : (after earlier later).closed = true := closed
    unfold read
    rw [if_pos closed, if_pos ended]
    rfl
  · have unclosed : later.closed = false := Bool.eq_false_iff.mpr closed
    rw [read_unclosed later unclosed, read_unclosed (after earlier later) unclosed]
    cases token with
    | speech speaker text => exact add_after earlier later _
    | effect id => exact add_after earlier later _
    | opening id => exact openScope_after earlier later id
    | closing => exact closeScope_after earlier later

theorem foldl_after (tokens : List Token) (earlier later : Scopes) :
    tokens.foldl read (after earlier later) = after earlier (tokens.foldl read later) := by
  induction tokens generalizing later with
  | nil => rfl
  | cons token rest ih => rw [List.foldl_cons, read_after, ih, List.foldl_cons]

theorem children_after (earlier later : Scopes) :
    (after earlier later).children = earlier.root.reverse ++ later.children := by
  simp [children, after]

/-- Behind balanced tokens, any others are read as they are on their own. -/
theorem children_append (first second : List Token) (balanced : Token.level 0 first = some 0) :
    (readAll (first ++ second)).children =
      (readAll first).children ++ (readAll second).children := by
  obtain ⟨isOpen, opened⟩ := readAll_balanced first balanced
  have start : readAll first = after (readAll first) {} := by
    obtain ⟨unclosed, unskipped⟩ := isOpen
    generalize readAll first = scopes at opened unclosed unskipped
    obtain ⟨root, _, _, skipped, _, ignored⟩ := scopes
    subst opened unclosed unskipped
    rfl
  have joined : readAll (first ++ second) = after (readAll first) (readAll second) := by
    rw [readAll, List.foldl_append, ← readAll, start, foldl_after, ← start]
    rfl
  rw [joined, children_after, children_balanced first balanced]

def within (before : List Node) (scope : Scope) (inner : Scopes) : Scopes :=
  { inner with
    root := before
    opened := inner.opened ++ [{ scope with children := inner.root ++ scope.children }] }

variable (before : List Node) (scope : Scope)

theorem add_within (inner : Scopes) (node : Node) :
    (within before scope inner).add node = within before scope (inner.add node) := by
  unfold add within
  cases inner.opened with
  | nil => rfl
  | cons innermost outer => rfl

theorem openScope_within (inner : Scopes) (id : String) (room : inner.opened.length + 1 < 256) :
    (within before scope inner).openScope id = within before scope (inner.openScope id) := by
  have below : inner.opened.length < maxFilterDepth := by
    show inner.opened.length < 256
    omega
  have outer : (within before scope inner).opened.length < maxFilterDepth := by
    rw [within, List.length_append, List.length_singleton]
    exact room
  rw [openScope, openScope, if_pos below, if_pos outer]
  rfl

theorem closeScope_within (inner : Scopes) (isOpen : inner.IsOpen) (inside : inner.opened ≠ []) :
    (within before scope inner).closeScope = within before scope inner.closeScope := by
  obtain ⟨innermost, outer, opened⟩ := List.exists_cons_of_ne_nil inside
  have alone := closeScope_cons inner isOpen.unskipped innermost outer opened
  have around := closeScope_cons (within before scope inner) isOpen.unskipped innermost _
    (by rw [within, opened]; rfl)
  rw [alone, around, ← add_within]
  rfl

theorem isOpen_closeScope (scopes : Scopes) (isOpen : scopes.IsOpen) (inside : scopes.opened ≠ []) :
    scopes.closeScope.IsOpen ∧ scopes.closeScope.opened.length = scopes.opened.length - 1 := by
  obtain ⟨innermost, outer, opened⟩ := List.exists_cons_of_ne_nil inside
  rw [closeScope_cons scopes isOpen.unskipped innermost outer opened, length_opened_add, opened]
  exact ⟨isOpen_add { scopes with opened := outer } ⟨isOpen.unclosed, isOpen.unskipped⟩ _, rfl⟩

/-- While there is room, and the scope is not left, a run inside of it is the run on its own. -/
theorem foldl_within (tokens : List Token) (inner : Scopes) (isOpen : inner.IsOpen) (last : Nat)
    (balanced : Token.level inner.opened.length tokens = some last)
    (shallow : Token.nesting inner.opened.length tokens ≤ 255) :
    tokens.foldl read (within before scope inner) =
      within before scope (tokens.foldl read inner) := by
  induction tokens generalizing inner with
  | nil => rfl
  | cons token rest ih =>
      have isOpenWithin : (within before scope inner).IsOpen := ⟨isOpen.unclosed, isOpen.unskipped⟩
      rw [List.foldl_cons, List.foldl_cons, read_open _ isOpenWithin, read_open _ isOpen]
      cases token with
      | speech speaker text =>
          have level := length_opened_add inner (.speech speaker text)
          show rest.foldl read ((within before scope inner).add _) = _
          rw [add_within, ih _ (isOpen_add inner isOpen _) (by rwa [level]) (by rwa [level])]
      | effect id =>
          have level := length_opened_add inner (.effect id)
          show rest.foldl read ((within before scope inner).add _) = _
          rw [add_within, ih _ (isOpen_add inner isOpen _) (by rwa [level]) (by rwa [level])]
      | opening id =>
          rw [Token.nesting] at shallow
          have deeper := Token.le_nesting (inner.opened.length + 1) rest
          have room : inner.opened.length < maxFilterDepth := by
            show inner.opened.length < 256
            omega
          obtain ⟨opened, level⟩ := isOpen_openScope inner isOpen id room
          show rest.foldl read ((within before scope inner).openScope id) = _
          rw [openScope_within before scope inner id (by omega),
            ih _ opened (by rwa [level]) (by rwa [level])]
      | closing =>
          rw [Token.level_closing] at balanced
          rw [Token.nesting, Nat.max_le] at shallow
          by_cases outside : inner.opened.length = 0
          · rw [if_pos outside] at balanced
            cases balanced
          · rw [if_neg outside] at balanced
            have inside : inner.opened ≠ [] := fun empty => outside (by rw [empty]; rfl)
            obtain ⟨closed, level⟩ := isOpen_closeScope inner isOpen inside
            show rest.foldl read (within before scope inner).closeScope = _
            rw [closeScope_within before scope inner isOpen inside,
              ih _ closed (by rwa [level]) (by rw [level]; exact shallow.2)]

/-- A scope around balanced tokens holds the children that they have on their own. -/
theorem children_around (speaker last id : String) (tokens : List Token)
    (balanced : Token.level 0 tokens = some 0) (shallow : Token.nesting 0 tokens ≤ 255) :
    (readAll (.speech speaker "" :: .opening id ::
        (tokens ++ [.closing, .speech last ""]))).children =
      [.speech speaker "", .filter id (.group (readAll tokens).children), .speech last ""] := by
  obtain ⟨isOpen, opened⟩ := readAll_balanced tokens balanced
  let inside := within [.speech speaker ""] ⟨id, []⟩ (readAll tokens)
  have isOpenInside : inside.IsOpen := ⟨isOpen.unclosed, isOpen.unskipped⟩
  have filled : tokens.foldl read (within [.speech speaker ""] ⟨id, []⟩ {}) = inside :=
    foldl_within _ _ tokens {} ⟨rfl, rfl⟩ 0 balanced shallow
  have scopes : inside.opened = [⟨id, (readAll tokens).root ++ []⟩] := by
    show (readAll tokens).opened ++ _ = _
    rw [opened]
    rfl
  have closed := closeScope_cons inside isOpen.unskipped _ _ scopes
  calc
    _ = ([Token.closing, .speech last ""].foldl read inside).children := by
        rw [← filled, ← List.foldl_append]
        rfl
    _ = (inside.closeScope.add (.speech last "")).children := by
        have isOpenAfter := (isOpen_closeScope inside isOpenInside (by simp [scopes])).1
        rw [List.foldl_cons, List.foldl_cons, List.foldl_nil, read_open _ isOpenInside,
          read_open _ isOpenAfter]
    _ = _ := by
        rw [closed, children_balanced tokens balanced]
        simp [add, children, closeAll, Scope.node, inside, within]

end Scopes

namespace Node

theorem ofMarkup_eq_group (markup speaker : String) : ofMarkup markup speaker =
    group (settleAll (Scopes.readAll (Token.ofMarkup markup speaker)).children) :=
  normalizeRoot_group _ none

def underFilter (id : String) (root : Node) : Node :=
  match root.children with
  | [] => group []
  | [only] => group [filter id only]
  | _ => group [filter id root]

theorem settle_filter_group (id : String) (nodes : List Node) :
    group (settle (filter id (group nodes)) false).toList =
      (group (settleAll nodes)).underFilter id := by
  rw [settle, settle, underFilter, children]
  generalize settleAll nodes = settled
  rcases settled with _ | ⟨only, _ | ⟨second, others⟩⟩
  · rfl
  · rfl
  · rfl

end Node

/--
Composition of documents. Behind a closed markup and an empty marker, whatever follows is composed
as it is on its own, in the voice in which the closed markup stops. And a closed markup inside of a
filter leaves there what it is composed to: nothing, its only child or the whole of it.
-/
theorem composition_of_documents :
    (∀ first second speaker : String, IsClosed first speaker →
      (Node.ofMarkup (first ++ "\x7b\x7d" ++ second) speaker).children =
        (Node.ofMarkup first speaker).children ++
          (Node.ofMarkup second (TokenStream.ofMarkup first speaker).drain.speaker).children) ∧
      ∀ markup speaker id : String, IsClosed markup speaker →
        Token.nesting 0 (Token.ofMarkup markup speaker) ≤ 255 → IsFilterId id.toList →
        Node.ofMarkup ("\x7b" ++ id ++ "\x7d" ++ markup ++ "\x7b.\x7d") speaker =
          (Node.ofMarkup markup speaker).underFilter id := by
  refine ⟨?_, ?_⟩
  · intro first second speaker closed
    have tokens : Token.ofMarkup (first ++ "\x7b\x7d" ++ second) speaker =
        Token.ofMarkup first speaker ++
          Token.ofMarkup second (TokenStream.ofMarkup first speaker).drain.speaker := by
      have seam := Stretch.tokens_seam speaker first.toList [] second.toList closed.ended
        List.not_mem_nil
      have text : (first ++ "\x7b\x7d" ++ second).toList =
          first.toList ++ '{' :: ([] ++ '}' :: second.toList) := by
        simp
      rw [TokenStream.speaker_drain, Token.ofMarkup, text, seam]
      rfl
    rw [Node.ofMarkup_eq_group, tokens, Scopes.children_append _ _ closed.balanced,
      Node.settleAll_append, Node.ofMarkup_eq_group, Node.ofMarkup_eq_group]
    rfl
  · intro markup speaker id closed shallow isFilterId
    have tokens : Token.ofMarkup ("\x7b" ++ id ++ "\x7d" ++ markup ++ "\x7b.\x7d") speaker =
        .speech speaker "" :: .opening id :: (Token.ofMarkup markup speaker ++
          [.closing, .speech (TokenStream.ofMarkup markup speaker).drain.speaker ""]) := by
      have seam := Stretch.tokens_seam speaker markup.toList ['.'] [] closed.ended (by decide)
      have text : ("\x7b" ++ id ++ "\x7d" ++ markup ++ "\x7b.\x7d").toList =
          '{' :: (id.toList ++ '}' :: (markup.toList ++ '{' :: (['.'] ++ '}' :: []))) := by
        simp
      rw [TokenStream.speaker_drain, Token.ofMarkup, text,
        Stretch.tokens_opening speaker id _ isFilterId, seam, Stretch.tokens_nil]
      rfl
    rw [Node.ofMarkup_eq_group, tokens, Scopes.children_around _ _ id _ closed.balanced shallow,
      Node.settleAll_empty_speech, Node.settleAll, Node.settleAll_empty_speech,
      Node.settleAll, List.append_nil, Node.settle_filter_group, Node.ofMarkup_eq_group]

/-- A closed markup of two speakers with a filter over one of its words. -/
def scene : String := "ann:hi \x7b1\x7dthere\x7b.\x7d bo:[5]"

theorem isClosed_scene : IsClosed scene "udisen" := by
  refine ⟨?_, ?_⟩
  · decide
  · decide

/-- What follows may be unterminated. -/
theorem composition_of_scene : IsClosed scene "udisen" ∧
    Token.nesting 0 (Token.ofMarkup scene "udisen") ≤ 255 ∧ IsFilterId "7".toList ∧
    (Node.ofMarkup (scene ++ "\x7b\x7d" ++ "and \x7b8") "udisen").children =
      (Node.ofMarkup scene "udisen").children ++ (Node.ofMarkup "and \x7b8"
        (TokenStream.ofMarkup scene "udisen").drain.speaker).children ∧
    Node.ofMarkup ("\x7b" ++ "7" ++ "\x7d" ++ scene ++ "\x7b.\x7d") "udisen" =
      (Node.ofMarkup scene "udisen").underFilter "7" := by
  have shallow : Token.nesting 0 (Token.ofMarkup scene "udisen") ≤ 255 := by decide
  have seven : IsFilterId "7".toList := by simp [IsFilterId]
  have seam := composition_of_documents.1 scene "and \x7b8" "udisen" isClosed_scene
  have filtered := composition_of_documents.2 scene "udisen" "7" isClosed_scene shallow seven
  exact ⟨isClosed_scene, shallow, seven, seam, filtered⟩

end SpokenMarkup
