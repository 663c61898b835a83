import SpokenMarkup.CommandLine.Transcript
import SpokenMarkup.Proofs.Composition.Shape

set_option autoImplicit false

namespace SpokenMarkup

open CommandLine (oneLine documentOf)

def spaced (c : Char) : Char :=
  if c = '\n' then ' ' else c

theorem toList_oneLine (text : String) : (oneLine text).toList = text.toList.map spaced :=
  String.toList_map

theorem oneLine_ofList (chars : List Char) :
    oneLine (String.ofList chars) = String.ofList (chars.map spaced) := by
  apply String.toList_injective
  rw [toList_oneLine, String.toList_ofList, String.toList_ofList]

theorem spaced_spaced (c : Char) : spaced (spaced c) = spaced c := by
  unfold spaced
  split
  · rfl
  · rfl

theorem map_spaced_spaced (chars : List Char) :
    (chars.map spaced).map spaced = chars.map spaced := by
  rw [List.map_map]
  exact List.map_congr_left fun c _ => spaced_spaced c

theorem isSeparator_spaced (c : Char) : Stretch.isSeparator (spaced c) = Stretch.isSeparator c := by
  unfold spaced
  split
  · rename_i feed
    rw [feed]
    rfl
  · rfl

theorem isBlank_spaced (c : Char) : Text.isBlank (spaced c) = Text.isBlank c := by
  unfold spaced
  split
  · rename_i feed
    rw [feed]
    rfl
  · rfl

theorem isDigit_spaced (c : Char) : (spaced c).isDigit = c.isDigit := by
  unfold spaced
  split
  · rename_i feed
    rw [feed]
    rfl
  · rfl

/-- No other character is made, and none is lost but line breaks. -/
theorem spaced_eq_iff {c other : Char} (solid : Stretch.isSeparator other = false) :
    spaced c = other ↔ c = other := by
  constructor
  · intro same
    have solid_c : Stretch.isSeparator c = false := by rw [← isSeparator_spaced, same, solid]
    have kept : c ≠ '\n' := by
      intro feed
      rw [feed] at solid_c
      cases solid_c
    rwa [spaced, if_neg kept] at same
  · intro same
    have kept : other ≠ '\n' := by
      intro feed
      rw [feed] at solid
      cases solid
    rw [same, spaced, if_neg kept]

theorem map_spaced_of_solid (chars : List Char)
    (solid : ∀ c ∈ chars, Stretch.isSeparator c = false) : chars.map spaced = chars := by
  conv_rhs => rw [← List.map_id chars]
  exact List.map_congr_left fun c member => (spaced_eq_iff (solid c member)).mpr rfl

theorem trimBlanks_map_spaced (chars : List Char) :
    Text.trimBlanks (chars.map spaced) = (Text.trimBlanks chars).map spaced := by
  have blank : Text.isBlank ∘ spaced = Text.isBlank := funext isBlank_spaced
  simp only [Text.trimBlanks, List.dropWhile_map, ← List.map_reverse, blank]

theorem trim_oneLine (text : String) : Text.trim (oneLine text) = oneLine (Text.trim text) := by
  rw [Text.trim, Text.trim, toList_oneLine, trimBlanks_map_spaced, oneLine_ofList]

theorem oneLine_eq_empty_iff (text : String) : oneLine text = "" ↔ text = "" := by
  rw [← String.toList_inj, ← String.toList_inj, toList_oneLine]
  exact List.map_eq_nil_iff

theorem sign_map_spaced (chars : List Char) :
    Numeral.sign (chars.map spaced) =
      ((Numeral.sign chars).1, (Numeral.sign chars).2.map spaced) := by
  cases chars with
  | nil => rfl
  | cons c rest =>
      by_cases minus : c = '-'
      · rw [minus]
        rfl
      · by_cases plus : c = '+'
        · rw [plus]
          rfl
        · have unsigned : ∀ (first : Char) (others : List Char), first ≠ '-' → first ≠ '+' →
              Numeral.sign (first :: others) = (false, first :: others) := by
            intro first others minus plus
            unfold Numeral.sign
            split <;> simp_all
          rw [List.map_cons, unsigned c rest minus plus, unsigned (spaced c) _ ?_ ?_]
          · rfl
          · exact fun same => minus ((spaced_eq_iff rfl).mp same)
          · exact fun same => plus ((spaced_eq_iff rfl).mp same)

/-- Line breaks around a number are dropped as spaces are, and in it they are as wrong. -/
theorem canonical?_map_spaced (body : List Char) :
    Numeral.canonical? (body.map spaced) = Numeral.canonical? body := by
  rw [Numeral.canonical?, Numeral.canonical?, trimBlanks_map_spaced, sign_map_spaced]
  generalize Numeral.sign (Text.trimBlanks body) = parts
  obtain ⟨negative, digits⟩ := parts
  have digital : Char.isDigit ∘ spaced = Char.isDigit := funext isDigit_spaced
  simp only [List.all_map, digital, ne_eq, List.map_eq_nil_iff]
  split
  · rename_i numeral
    have solid : ∀ c ∈ digits, Stretch.isSeparator c = false := by
      intro c member
      rw [Stretch.isSeparator, Bool.or_eq_false_iff, decide_eq_false_iff_not,
        decide_eq_false_iff_not]
      have digit := List.all_eq_true.mp numeral.2 c member
      refine ⟨?_, ?_⟩
      · rintro rfl
        cases digit
      · rintro rfl
        cases digit
    rw [map_spaced_of_solid digits solid]
  · rfl

def Ending.inOneLine : Ending → Ending
  | .input => .input
  | .colon => .colon
  | .filter body => .filter (body.map (·.map spaced))
  | .effect body => .effect (body.map (·.map spaced))

def Place.inOneLine : Place → Place
  | .plain read => .plain (read.map spaced)
  | .inside marker text read => .inside marker (text.map spaced) (read.map spaced)

namespace Stretch

def inOneLine (stretch : Stretch) : Stretch :=
  ⟨stretch.text.map spaced, stretch.ending.inOneLine⟩

/-- The same delimiters cut a markup in one line. -/
theorem scan_inOneLine (place : Place) (markup : List Char) :
    scan place.inOneLine (markup.map spaced) = (scan place markup).map inOneLine := by
  have delimiter {c other : Char} (solid : isSeparator other = false) (apart : c ≠ other) :
      spaced c ≠ other := fun same => apart ((spaced_eq_iff solid).mp same)
  fun_induction scan place markup with
  | case1 read => simp [scan, Place.inOneLine, inOneLine, Ending.inOneLine]
  | case2 marker text read =>
      cases marker <;> simp [scan, Place.inOneLine, inOneLine, Ending.inOneLine, Marker.ending]
  | case3 read rest ih =>
      simpa [scan, Place.inOneLine, inOneLine, Ending.inOneLine, spaced] using ih
  | case4 read rest _ ih =>
      simpa [scan, Place.inOneLine, inOneLine, Ending.inOneLine, spaced] using ih
  | case5 read rest _ _ ih =>
      simpa [scan, Place.inOneLine, inOneLine, Ending.inOneLine, spaced] using ih
  | case6 read c rest colon filter effect ih =>
      rw [List.map_cons, Place.inOneLine, scan, if_neg (delimiter rfl colon),
        if_neg (delimiter rfl filter), if_neg (delimiter rfl effect)]
      exact ih
  | case7 marker text read rest ih =>
      cases marker <;>
        simpa [scan, Place.inOneLine, inOneLine, Ending.inOneLine, Marker.ending, Marker.closer,
          spaced] using ih
  | case8 marker text read c rest closing ih =>
      have solid : isSeparator marker.closer = false := by cases marker <;> rfl
      rw [List.map_cons, Place.inOneLine, scan, if_neg (delimiter solid closing)]
      exact ih

theorem lastWord_map_spaced (text : List Char) : lastWord (text.map spaced) = lastWord text := by
  have separates : (fun c => !isSeparator c) ∘ spaced = fun c => !isSeparator c :=
    funext fun c => congrArg not (isSeparator_spaced c)
  have word : (text.reverse.takeWhile (!isSeparator ·)).map spaced =
      text.reverse.takeWhile (!isSeparator ·) := by
    apply map_spaced_of_solid
    intro c member
    have solid := List.mem_takeWhile_imp member
    exact Bool.not_eq_true' _ ▸ solid
  have before (chars : List Char) :
      (chars.map spaced).map (fun c => if c = '\n' then ' ' else c) =
        chars.map fun c => if c = '\n' then ' ' else c :=
    map_spaced_spaced chars
  simp only [lastWord, ← List.map_reverse, List.takeWhile_map, List.dropWhile_map, separates,
    word, ← List.map_tail, before]

theorem speakerAfter_inOneLine (stretch : Stretch) (speaker : String) :
    stretch.inOneLine.speakerAfter speaker = stretch.speakerAfter speaker := by
  obtain ⟨text, ending⟩ := stretch
  cases ending with
  | colon => exact congrArg (fun words => String.ofList words.2) (lastWord_map_spaced text)
  | input | filter | effect => rfl

theorem spoken_inOneLine (stretch : Stretch) :
    stretch.inOneLine.spoken = stretch.spoken.map spaced := by
  obtain ⟨text, ending⟩ := stretch
  cases ending with
  | colon =>
      have kept : (lastWord text).1.map spaced = (lastWord text).1 := map_spaced_spaced _
      exact (congrArg Prod.fst (lastWord_map_spaced text)).trans kept.symm
  | input | filter | effect => rfl

theorem marker_filter (text body : List Char) :
    marker ⟨text, .filter (some body)⟩ =
      if body = [] then none
      else if body = ['.'] then some .closing else some (.opening (String.ofList body)) := by
  cases body with
  | nil => rfl
  | cons c rest =>
      rw [if_neg (List.cons_ne_nil c rest)]
      unfold marker
      split <;> simp_all

end Stretch

namespace Token

def inOneLine : Token → Token
  | .speech speaker text => .speech speaker (oneLine text)
  | .opening id => .opening (oneLine id)
  | .closing => .closing
  | .effect id => .effect id

end Token

namespace Stretch

theorem marker_inOneLine (stretch : Stretch) :
    stretch.inOneLine.marker = stretch.marker.map Token.inOneLine := by
  obtain ⟨text, ending⟩ := stretch
  cases ending with
  | input | colon => rfl
  | filter body =>
      cases body with
      | none => rfl
      | some body =>
          have dot : body.map spaced = ['.'] ↔ body = ['.'] := by
            rw [List.map_eq_singleton_iff]
            constructor
            · rintro ⟨c, rfl, same⟩
              rw [(spaced_eq_iff rfl).mp same]
            · rintro rfl
              exact ⟨'.', rfl, rfl⟩
          change marker ⟨text.map spaced, .filter (some (body.map spaced))⟩ = _
          rw [marker_filter, marker_filter]
          simp only [dot, List.map_eq_nil_iff]
          split
          · rfl
          · split
            · rfl
            · rw [Option.map_some, Token.inOneLine, oneLine_ofList]
  | effect body =>
      cases body with
      | none => rfl
      | some body =>
          change (Numeral.canonical? (body.map spaced)).map _ =
            ((Numeral.canonical? body).map _).map _
          rw [canonical?_map_spaced, Option.map_map]
          rfl

/-- The tokens of stretches in one line: the speakers stay, and so do the numbers. -/
theorem tokens_inOneLine (speaker : String) (stretches : List Stretch) :
    tokens speaker (stretches.map inOneLine) =
      (tokens speaker stretches).map Token.inOneLine := by
  induction stretches generalizing speaker with
  | nil => rfl
  | cons stretch rest ih =>
      have speech : stretch.inOneLine.speech speaker = (stretch.speech speaker).inOneLine := by
        rw [Stretch.speech, Stretch.speech, spoken_inOneLine, Token.inOneLine, oneLine_ofList]
      rw [List.map_cons, tokens, tokens, speech, marker_inOneLine, speakerAfter_inOneLine, ih,
        Option.toList_map, List.map_cons, List.map_append]

end Stretch

theorem Token.ofMarkup_oneLine (markup speaker : String) :
    Token.ofMarkup (oneLine markup) speaker = (Token.ofMarkup markup speaker).map inOneLine := by
  have cut := Stretch.scan_inOneLine (.plain []) markup.toList
  rw [Token.ofMarkup, Token.ofMarkup, ← Stretch.tokens_inOneLine, toList_oneLine]
  exact congrArg (Stretch.tokens speaker) cut

namespace Node

mutual

/-- The tree with each speech and each filter id in one line. -/
def inOneLine : Node → Node
  | group children target => group (allInOneLine children) target
  | speech speaker text target => speech speaker (oneLine text) target
  | effect id target => effect id target
  | filter id child target => filter (oneLine id) (inOneLine child) target

def allInOneLine : List Node → List Node
  | [] => []
  | node :: rest => inOneLine node :: allInOneLine rest

end

theorem allInOneLine_eq_map (nodes : List Node) : allInOneLine nodes = nodes.map inOneLine := by
  induction nodes with
  | nil => rfl
  | cons node rest ih => rw [allInOneLine, ih, List.map_cons]

end Node

namespace Scopes

def inOneLine (scopes : Scopes) : Scopes :=
  { scopes with
    root := scopes.root.map Node.inOneLine
    opened := scopes.opened.map fun scope =>
      ⟨oneLine scope.id, scope.children.map Node.inOneLine⟩ }

theorem node_inOneLine (id : String) (children : List Node) :
    Scope.node ⟨oneLine id, children.map Node.inOneLine⟩ =
      (Scope.node ⟨id, children⟩).inOneLine := by
  simp only [Scope.node, Node.inOneLine, Node.allInOneLine_eq_map, List.map_reverse]

theorem add_inOneLine (scopes : Scopes) (node : Node) :
    scopes.inOneLine.add node.inOneLine = (scopes.add node).inOneLine := by
  obtain ⟨root, opened, skipping, skipped, closed, ignored⟩ := scopes
  cases opened with
  | nil => rfl
  | cons scope outer => rfl

theorem openScope_inOneLine (scopes : Scopes) (id : String) :
    scopes.inOneLine.openScope (oneLine id) = (scopes.openScope id).inOneLine := by
  have height : scopes.inOneLine.opened.length = scopes.opened.length := List.length_map _
  rw [openScope, openScope, height]
  split <;> rfl

theorem closeScope_inOneLine (scopes : Scopes) :
    scopes.inOneLine.closeScope = scopes.closeScope.inOneLine := by
  obtain ⟨root, opened, skipping, skipped, closed, ignored⟩ := scopes
  rw [closeScope, closeScope]
  change (if skipping > 0 then _ else _) = inOneLine (if skipping > 0 then _ else _)
  by_cases skips : skipping > 0
  · rw [if_pos skips, if_pos skips]
    rfl
  · rw [if_neg skips, if_neg skips]
    cases opened with
    | nil => rfl
    | cons scope outer =>
        rw [← add_inOneLine, ← node_inOneLine]
        rfl

theorem read_inOneLine (scopes : Scopes) (token : Token) :
    scopes.inOneLine.read token.inOneLine = (scopes.read token).inOneLine := by
  unfold read
  by_cases closed : scopes.closed = true
  · rw [if_pos closed, if_pos (show scopes.inOneLine.closed = true from closed)]
    rfl
  · rw [if_neg closed, if_neg (show ¬scopes.inOneLine.closed = true from closed)]
    cases token with
    | speech speaker text => exact add_inOneLine scopes (.speech speaker text)
    | effect id => exact add_inOneLine scopes (.effect id)
    | opening id => exact openScope_inOneLine scopes id
    | closing => exact closeScope_inOneLine scopes

theorem foldl_inOneLine (tokens : List Token) (scopes : Scopes) :
    (tokens.map Token.inOneLine).foldl read scopes.inOneLine =
      (tokens.foldl read scopes).inOneLine := by
  induction tokens generalizing scopes with
  | nil => rfl
  | cons token rest ih => rw [List.map_cons, List.foldl_cons, List.foldl_cons, read_inOneLine, ih]

theorem closeAll_inOneLine (opened : List Scope) (inner : List Node) :
    closeAll (inner.map Node.inOneLine)
        (opened.map fun scope => ⟨oneLine scope.id, scope.children.map Node.inOneLine⟩) =
      (closeAll inner opened).map Node.inOneLine := by
  induction opened generalizing inner with
  | nil => rfl
  | cons scope outer ih =>
      rw [List.map_cons, closeAll, closeAll, ← ih, ← List.map_append, node_inOneLine]
      rfl

theorem tree_inOneLine (scopes : Scopes) : scopes.inOneLine.tree = scopes.tree.inOneLine := by
  have closed := closeAll_inOneLine scopes.opened []
  rw [List.map_nil] at closed
  rw [tree, tree, Node.inOneLine, Node.allInOneLine_eq_map, children, children, inOneLine, closed,
    ← List.map_append, List.map_reverse]

end Scopes

namespace Node

theorem ofTokens_inOneLine (tokens : List Token) :
    ofTokens (tokens.map Token.inOneLine) = (ofTokens tokens).inOneLine := by
  have read := Scopes.foldl_inOneLine tokens {}
  rw [ofTokens, ofTokens, ← Scopes.tree_inOneLine]
  exact congrArg Scopes.tree read

theorem regroup_inOneLine (kept : List Node) :
    Normalizer.regroup false (kept.map inOneLine) =
      (Normalizer.regroup false kept).map inOneLine := by
  match kept with
  | [] => rfl
  | [only] => rfl
  | first :: second :: others =>
      simp only [List.map_cons, Normalizer.regroup, Option.map_some, inOneLine,
        allInOneLine_eq_map]

mutual

theorem settle_inOneLine (node : Node) :
    node.inOneLine.settle false = (node.settle false).map inOneLine := by
  cases node with
  | group children target =>
      rw [inOneLine, settle, settle, settleAll_inOneLine, regroup_inOneLine]
  | speech speaker text target =>
      rw [inOneLine, settle, settle, trim_oneLine]
      simp only [oneLine_eq_empty_iff]
      split <;> rfl
  | effect id target => rfl
  | filter id child target =>
      rw [inOneLine, settle, settle, settle_inOneLine child, Option.map_map, Option.map_map]
      rfl

theorem settleAll_inOneLine (nodes : List Node) :
    settleAll (allInOneLine nodes) = (settleAll nodes).map inOneLine := by
  cases nodes with
  | nil => rfl
  | cons node rest =>
      rw [allInOneLine, settleAll, settleAll, settle_inOneLine node, settleAll_inOneLine rest,
        Option.toList_map, List.map_append]

end

/--
A document is its text with each line break turned into a space. Its tree is the tree of the text
with each line break of a speech or of a filter id turned into a space: the same nodes in the same
places, with the same speakers and the same sound effects.
-/
theorem composition_in_one_line (markup speaker : String) :
    documentOf markup.toUTF8 = .ok (oneLine markup) ∧
      Node.ofMarkup (oneLine markup) speaker = (Node.ofMarkup markup speaker).inOneLine := by
  refine ⟨?_, ?_⟩
  · have decoded : String.fromUTF8? markup.toUTF8 = some markup := dif_pos markup.isValidUTF8
    rw [documentOf, decoded]
  · have tree := ofTokens_inOneLine (Token.ofMarkup markup speaker)
    rw [ofMarkup, ofMarkup, Token.ofMarkup_oneLine, tree, ofTokens, Scopes.tree, inOneLine,
      normalizeRoot_group, normalizeRoot_group, settleAll_inOneLine, inOneLine,
      allInOneLine_eq_map]

end Node

end SpokenMarkup
