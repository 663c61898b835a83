import SpokenMarkup.Markup.TokenStream
import SpokenMarkup.Proofs.Markup.Numeral

set_option autoImplicit false

namespace SpokenMarkup

/-- Text that no delimiter ends. -/
def IsPlain (text : List Char) : Prop :=
  ∀ c ∈ text, c ∉ [':', '{', '[']

/-- Plain text without a separator, such as the name of a speaker. It may be empty. -/
def IsWord (word : List Char) : Prop :=
  ∀ c ∈ word, c ∉ [' ', '\n', ':', '{', '[']

/-- The body of a marker that opens a filter scope. -/
def IsFilterId (id : List Char) : Prop :=
  id ≠ [] ∧ id ≠ ['.'] ∧ '}' ∉ id

theorem IsWord.isPlain {word : List Char} (isWord : IsWord word) : IsPlain word := by
  intro c member delimiter
  exact isWord c member (List.mem_cons_of_mem _ (List.mem_cons_of_mem _ delimiter))

theorem IsPlain.of_subset {text part : List Char} (plain : IsPlain text) (inside : part ⊆ text) :
    IsPlain part :=
  fun c member => plain c (inside member)

namespace Stretch

theorem isPlain_lastWord_fst (text : List Char) (plain : IsPlain text) :
    IsPlain (lastWord text).1 := by
  intro c member
  simp only [lastWord, List.mem_map, List.mem_reverse] at member
  rcases member with ⟨source, kept, rfl⟩
  have inside : source ∈ text :=
    List.mem_reverse.mp ((List.dropWhile_sublist _).subset (List.mem_of_mem_tail kept))
  split
  · decide
  · exact plain source inside

theorem isWord_lastWord_snd (text : List Char) (plain : IsPlain text) :
    IsWord (lastWord text).2 := by
  intro c member
  simp only [lastWord, List.mem_reverse] at member
  have solid := List.mem_takeWhile_imp member
  have inside : c ∈ text := List.mem_reverse.mp ((List.takeWhile_sublist _).subset member)
  have other := plain c inside
  simp [isSeparator] at solid
  simp at other ⊢
  exact ⟨solid.1, solid.2, other⟩

/-- Text without a separator is its own last word, with nothing before it. -/
theorem lastWord_solid (text : List Char) (solid : ∀ c ∈ text, isSeparator c = false) :
    lastWord text = ([], text) := by
  have kept : ∀ c ∈ text.reverse, (!isSeparator c) = true := by
    intro c member
    rw [solid c (List.mem_reverse.mp member)]
    rfl
  rw [lastWord, List.takeWhile_eq_self_iff.mpr kept, List.dropWhile_eq_nil_iff.mpr kept,
    List.reverse_reverse]
  rfl

theorem lastWord_word (word : List Char) (isWord : IsWord word) : lastWord word = ([], word) := by
  apply lastWord_solid
  intro c member
  have other := isWord c member
  simp at other
  simp [isSeparator, other]

/-- A stretch of a markup: its text is plain, and the body of its filter marker is closed. -/
def IsCut (stretch : Stretch) : Prop :=
  IsPlain stretch.text ∧ ∀ body, stretch.ending = .filter (some body) → '}' ∉ body

/-- What was read at a place that a scan has come to. -/
def IsReached : Place → Prop
  | .plain read => IsPlain read
  | .inside marker text read => IsPlain text ∧ marker.closer ∉ read

theorem isPlain_nil : IsPlain [] :=
  nofun

theorem isPlain_cons (c : Char) (read : List Char) (plain : IsPlain read)
    (other : c ∉ [':', '{', '[']) : IsPlain (c :: read) :=
  List.forall_mem_cons.mpr ⟨other, plain⟩

theorem isPlain_reverse (read : List Char) (plain : IsPlain read) : IsPlain read.reverse :=
  fun c member => plain c (List.mem_reverse.mp member)

theorem isCut_of_mem_scan (place : Place) (markup : List Char) (reached : IsReached place) :
    ∀ stretch ∈ scan place markup, IsCut stretch := by
  induction markup generalizing place with
  | nil =>
      cases place with
      | plain read => simp [scan, IsCut, isPlain_reverse read reached]
      | inside marker text read =>
          cases marker <;> simp [scan, IsCut, Marker.ending, reached.1, isPlain_nil]
  | cons c rest ih =>
      -- the next place is always one that a scan can come to
      cases place with
      | plain read =>
          have text := isPlain_reverse read reached
          rw [scan]
          by_cases colon : c = ':'
          · rw [if_pos colon]
            exact List.forall_mem_cons.mpr ⟨⟨text, nofun⟩, ih (.plain []) isPlain_nil⟩
          · by_cases filter : c = '{'
            · rw [if_neg colon, if_pos filter]
              exact ih _ ⟨text, List.not_mem_nil⟩
            · by_cases effect : c = '['
              · rw [if_neg colon, if_neg filter, if_pos effect]
                exact ih _ ⟨text, List.not_mem_nil⟩
              · rw [if_neg colon, if_neg filter, if_neg effect]
                apply ih
                apply isPlain_cons c read reached
                simp [colon, filter, effect]
      | inside marker text read =>
          rw [scan]
          by_cases closing : c = marker.closer
          · rw [if_pos closing]
            apply List.forall_mem_cons.mpr ⟨⟨reached.1, ?_⟩, ih (.plain []) isPlain_nil⟩
            intro body ending
            cases marker with
            | filter =>
                cases ending
                exact fun inside => reached.2 (List.mem_reverse.mp inside)
            | effect => cases ending
          · rw [if_neg closing]
            apply ih
            refine ⟨reached.1, ?_⟩
            rw [List.mem_cons, not_or]
            exact ⟨Ne.symm closing, reached.2⟩

theorem isCut_of_mem_ofMarkup (markup : List Char) :
    ∀ stretch ∈ ofMarkup markup, IsCut stretch :=
  isCut_of_mem_scan (.plain []) markup isPlain_nil

/-- A token as it can come from a markup, with a speaker that `speaks`. -/
def IsLexed (speaks : String → Prop) : Token → Prop
  | .speech speaker text => speaks speaker ∧ IsPlain text.toList
  | .opening id => IsFilterId id.toList
  | .closing => True
  | .effect id => Numeral.IsCanonical id.toList

variable {speaks : String → Prop}

theorem isLexed_speech (stretch : Stretch) (cut : stretch.IsCut) (speaker : String)
    (speaking : speaks speaker) : IsLexed speaks (stretch.speech speaker) := by
  refine ⟨speaking, ?_⟩
  rw [String.toList_ofList, spoken]
  split
  · exact isPlain_lastWord_fst stretch.text cut.1
  · exact cut.1

theorem isLexed_marker (stretch : Stretch) (cut : stretch.IsCut) :
    ∀ token ∈ stretch.marker, IsLexed speaks token := by
  intro token found
  rw [marker] at found
  split at found
  · cases found
    trivial
  · rename_i c body other ending
    cases found
    refine ⟨?_, ?_, ?_⟩
    · rw [String.toList_ofList]
      exact List.cons_ne_nil c body
    · rw [String.toList_ofList]
      intro dot
      rw [List.cons.injEq] at dot
      exact other dot.1 dot.2
    · rw [String.toList_ofList]
      exact cut.2 _ ending
  · rename_i body ending
    cases read : Numeral.canonical? body with
    | none => simp [read] at found
    | some id =>
        rw [read] at found
        cases found
        rw [IsLexed, String.toList_ofList]
        exact Numeral.isCanonical_of_canonical? body id read
  · cases found

theorem isLexed_of_mem_tokens (words : ∀ word, IsWord word → speaks (String.ofList word))
    (stretches : List Stretch) (cut : ∀ stretch ∈ stretches, IsCut stretch) (speaker : String)
    (speaking : speaks speaker) : ∀ token ∈ tokens speaker stretches, IsLexed speaks token := by
  induction stretches generalizing speaker with
  | nil => nofun
  | cons stretch rest ih =>
      have here := cut stretch (List.mem_cons_self ..)
      have next : speaks (stretch.speakerAfter speaker) := by
        rw [speakerAfter]
        split
        · exact words _ (isWord_lastWord_snd stretch.text here.1)
        · exact speaking
      have later := ih (fun other member => cut other (List.mem_cons_of_mem _ member)) _ next
      intro token member
      rw [tokens, List.mem_cons, List.mem_append, Option.mem_toList] at member
      rcases member with speech | marker | after
      · rw [speech]
        exact isLexed_speech stretch here speaker speaking
      · exact isLexed_marker stretch here token marker
      · exact later token after

theorem scan_plain (text read rest : List Char) (plain : IsPlain text) :
    scan (.plain read) (text ++ rest) = scan (.plain (text.reverse ++ read)) rest := by
  induction text generalizing read with
  | nil => rfl
  | cons c text ih =>
      have other := plain c (List.mem_cons_self ..)
      simp only [List.mem_cons, List.not_mem_nil, or_false, not_or] at other
      rw [List.cons_append, scan, if_neg other.1, if_neg other.2.1, if_neg other.2.2,
        ih _ (plain.of_subset (List.subset_cons_self c text))]
      simp

theorem scan_inside (marker : Marker) (text body read rest : List Char)
    (inside : marker.closer ∉ body) :
    scan (.inside marker text read) (body ++ marker.closer :: rest) =
      ⟨text, marker.ending (some (read.reverse ++ body))⟩ :: ofMarkup rest := by
  induction body generalizing read with
  | nil => simp [scan, ofMarkup]
  | cons c body ih =>
      rw [List.mem_cons, not_or] at inside
      rw [List.cons_append, scan, if_neg (Ne.symm inside.1), ih _ inside.2]
      simp

/-- Plain text ends at the filter marker that follows it. -/
theorem ofMarkup_filter (text body rest : List Char) (plain : IsPlain text) (inside : '}' ∉ body) :
    ofMarkup (text ++ '{' :: (body ++ '}' :: rest)) =
      ⟨text, .filter (some body)⟩ :: ofMarkup rest := by
  have cut := scan_inside .filter text body [] rest inside
  rw [ofMarkup, scan_plain text [] _ plain, List.append_nil, scan, if_neg (by decide), if_pos rfl,
    List.reverse_reverse]
  exact cut

theorem ofMarkup_effect (body rest : List Char) (inside : ']' ∉ body) :
    ofMarkup ('[' :: (body ++ ']' :: rest)) = ⟨[], .effect (some body)⟩ :: ofMarkup rest :=
  scan_inside .effect [] body [] rest inside

theorem ofMarkup_colon (text rest : List Char) (plain : IsPlain text) :
    ofMarkup (text ++ ':' :: rest) = ⟨text, .colon⟩ :: ofMarkup rest := by
  rw [ofMarkup, scan_plain text [] _ plain]
  simp [scan, ofMarkup]

theorem tokens_nil (speaker : String) : tokens speaker (ofMarkup []) = [.speech speaker ""] :=
  rfl

/-- A filter marker without a body ends a speech and does nothing else. -/
theorem tokens_speech (speaker name text : String) (rest : List Char) (isWord : IsWord name.toList)
    (plain : IsPlain text.toList) :
    tokens speaker (ofMarkup (name.toList ++ ':' :: (text.toList ++ '{' :: '}' :: rest))) =
      .speech speaker "" :: .speech name text :: tokens name (ofMarkup rest) := by
  rw [ofMarkup_colon _ _ isWord.isPlain]
  have cut := ofMarkup_filter text.toList [] rest plain List.not_mem_nil
  rw [List.nil_append] at cut
  rw [cut]
  simp [tokens, speech, spoken, speakerAfter, marker, lastWord_word _ isWord]

theorem tokens_effect (speaker id : String) (rest : List Char)
    (canonical : Numeral.IsCanonical id.toList) :
    tokens speaker (ofMarkup ('[' :: (id.toList ++ ']' :: rest))) =
      .speech speaker "" :: .effect id :: tokens speaker (ofMarkup rest) := by
  have inside : ']' ∉ id.toList := by
    intro member
    rcases Numeral.minus_or_digit_of_mem _ canonical _ member with minus | digit
    · exact absurd minus (by decide)
    · exact absurd digit (by decide)
  rw [ofMarkup_effect id.toList rest inside]
  simp [tokens, speech, spoken, speakerAfter, marker, Numeral.canonical?_eq_self _ canonical]

theorem marker_opening (text id : List Char) (isFilterId : IsFilterId id) :
    marker ⟨text, .filter (some id)⟩ = some (.opening (String.ofList id)) := by
  cases id with
  | nil => exact absurd rfl isFilterId.1
  | cons c body =>
      have other : c = '.' → body ≠ [] := by
        intro dot empty
        exact isFilterId.2.1 (by rw [dot, empty])
      simp [marker]

theorem tokens_opening (speaker id : String) (rest : List Char)
    (isFilterId : IsFilterId id.toList) :
    tokens speaker (ofMarkup ('{' :: (id.toList ++ '}' :: rest))) =
      .speech speaker "" :: .opening id :: tokens speaker (ofMarkup rest) := by
  have cut := ofMarkup_filter [] id.toList rest isPlain_nil isFilterId.2.2
  rw [List.nil_append] at cut
  rw [cut]
  simp [tokens, speech, spoken, speakerAfter, marker_opening _ _ isFilterId]

theorem tokens_closing (speaker : String) (rest : List Char) :
    tokens speaker (ofMarkup ('{' :: '.' :: '}' :: rest)) =
      .speech speaker "" :: .closing :: tokens speaker (ofMarkup rest) := by
  have cut := ofMarkup_filter [] ['.'] rest isPlain_nil (by decide)
  rw [List.nil_append] at cut
  simp only [List.singleton_append] at cut
  rw [cut]
  rfl

end Stretch

end SpokenMarkup
