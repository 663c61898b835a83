import SpokenMarkup.Proofs.Markup.Integer
import SpokenMarkup.Proofs.Markup.Seam

set_option autoImplicit false

namespace SpokenMarkup

namespace TokenStream

def toList (stream : TokenStream) : List Token :=
  match _given : stream.next with
  | (none, _) => []
  | (some token, rest) => token :: toList rest
termination_by stream.size
decreasing_by exact size_next_lt stream _ _ ‹_›

theorem toList_eq_tokens (stream : TokenStream) :
    stream.toList = stream.queued.toList ++ Stretch.tokens stream.speaker stream.stretches := by
  fun_induction toList stream with
  | case1 stream last given =>
      obtain ⟨idle, empty, -⟩ := next_none given
      rw [idle, empty]
      rfl
  | case2 stream token rest given ih =>
      rw [ih]
      rcases next_some given with ⟨waiting, rfl⟩ | ⟨stretch, others, idle, more, rfl, rfl⟩
      · rw [waiting]
        rfl
      · rw [idle, more]
        rfl

/-- One token at a time or all at once, a markup gives the same tokens. -/
theorem toList_ofMarkup (markup speaker : String) :
    (ofMarkup markup speaker).toList = Token.ofMarkup markup speaker := by
  rw [toList_eq_tokens]
  rfl

end TokenStream

def Marker.opener : Marker → Char
  | .filter => '{'
  | .effect => '['

namespace Stretch

theorem lastWord_append (before : List Char) (separator : Char) (name : List Char)
    (separates : isSeparator separator = true) (solid : ∀ c ∈ name, isSeparator c = false) :
    lastWord (before ++ separator :: name) =
      (before.map fun c => if c = '\n' then ' ' else c, name) := by
  have kept : ∀ c ∈ name.reverse, (!isSeparator c) = true := by
    intro c member
    rw [solid c (List.mem_reverse.mp member)]
    rfl
  have parted : (before ++ separator :: name).reverse =
      name.reverse ++ separator :: before.reverse := by
    simp only [List.reverse_append, List.reverse_cons, List.append_assoc, List.singleton_append]
  rw [lastWord, parted, List.takeWhile_append_of_pos kept, List.dropWhile_append_of_pos kept]
  simp only [List.takeWhile_cons, List.dropWhile_cons, separates, Bool.not_true,
    Bool.false_eq_true, if_false, List.append_nil, List.reverse_reverse, List.tail_cons]

theorem scan_inside_open (marker : Marker) (text body read : List Char)
    (inside : marker.closer ∉ body) :
    scan (.inside marker text read) body = [⟨text, marker.ending none⟩, ⟨[], .input⟩] := by
  induction body generalizing read with
  | nil => rfl
  | cons c body ih =>
      rw [List.mem_cons, not_or] at inside
      rw [scan, if_neg (Ne.symm inside.1), ih _ inside.2]

/-- The last stretch is always the one that ends with the input. -/
theorem scan_ends (place : Place) (markup : List Char) :
    ∃ (init : List Stretch) (text : List Char), scan place markup = init ++ [⟨text, .input⟩] := by
  induction markup generalizing place with
  | nil =>
      cases place with
      | plain read => exact ⟨[], _, rfl⟩
      | inside marker text read => exact ⟨[_], _, rfl⟩
  | cons c markup ih =>
      obtain ⟨front, next, step⟩ := exists_scan_cons place c
      obtain ⟨init, text, ends⟩ := ih next
      exact ⟨front ++ init, text, by rw [step, ends, List.append_assoc]⟩

theorem toList_marker_filter (text : List Char) (id : String) (inside : '}' ∉ id.toList) :
    (marker ⟨text, .filter (some id.toList)⟩).toList =
      if id = "" then [] else if id = "." then [.closing] else [.opening id] := by
  by_cases empty : id = ""
  · rw [empty]
    rfl
  · by_cases dot : id = "."
    · rw [dot]
      rfl
    · have isFilterId : IsFilterId id.toList := by
        refine ⟨fun nil => empty ?_, fun single => dot ?_, inside⟩
        · exact String.toList_injective nil
        · exact String.toList_injective single
      rw [if_neg empty, if_neg dot, marker_opening _ _ isFilterId, String.ofList_toList]
      rfl

theorem tokens_scan_filter (voice : String) (read : List Char) (id rest : String)
    (inside : '}' ∉ id.toList) :
    tokens voice (scan (.plain read) ("\x7b" ++ id ++ "\x7d" ++ rest).toList) =
      .speech voice (String.ofList read.reverse) ::
        ((if id = "" then [] else if id = "." then [.closing] else [.opening id]) ++
          Token.ofMarkup rest voice) := by
  have chars : ("\x7b" ++ id ++ "\x7d" ++ rest).toList =
      '{' :: (id.toList ++ '}' :: rest.toList) := by
    simp [String.toList_append]
  have cut : scan (.plain read) ('{' :: (id.toList ++ '}' :: rest.toList)) =
      ⟨read.reverse, .filter (some id.toList)⟩ :: ofMarkup rest.toList :=
    scan_inside .filter read.reverse id.toList [] rest.toList inside
  rw [chars, cut, tokens, toList_marker_filter _ id inside]
  rfl

theorem tokens_scan_effect (voice : String) (read : List Char) (body rest : String)
    (inside : ']' ∉ body.toList) :
    tokens voice (scan (.plain read) ("[" ++ body ++ "]" ++ rest).toList) =
      .speech voice (String.ofList read.reverse) ::
        (((Numeral.canonical? body.toList).map fun id => .effect (String.ofList id)).toList ++
          Token.ofMarkup rest voice) := by
  have chars : ("[" ++ body ++ "]" ++ rest).toList =
      '[' :: (body.toList ++ ']' :: rest.toList) := by
    simp [String.toList_append]
  have cut : scan (.plain read) ('[' :: (body.toList ++ ']' :: rest.toList)) =
      ⟨read.reverse, .effect (some body.toList)⟩ :: ofMarkup rest.toList :=
    scan_inside .effect read.reverse body.toList [] rest.toList inside
  rw [chars, cut]
  rfl

theorem tokens_scan_colon (voice : String) (read : List Char) (rest : String) :
    tokens voice (scan (.plain read) (":" ++ rest).toList) =
      .speech voice (String.ofList (lastWord read.reverse).1) ::
        Token.ofMarkup rest (String.ofList (lastWord read.reverse).2) := by
  rw [String.toList_append]
  rfl

theorem tokens_scan_open (voice : String) (read : List Char) (marker : Marker) (body : String)
    (inside : marker.closer ∉ body.toList) :
    tokens voice (scan (.plain read) (marker.opener :: body.toList)) =
      [.speech voice (String.ofList read.reverse), .speech voice ""] := by
  have cut : scan (.plain read) (marker.opener :: body.toList) =
      [⟨read.reverse, marker.ending none⟩, ⟨[], .input⟩] := by
    cases marker with
    | filter => exact scan_inside_open .filter read.reverse body.toList [] inside
    | effect => exact scan_inside_open .effect read.reverse body.toList [] inside
  rw [cut]
  cases marker <;> rfl

theorem isSeparator_eq_false_iff (c : Char) : isSeparator c = false ↔ c ≠ ' ' ∧ c ≠ '\n' := by
  rw [isSeparator, Bool.or_eq_false_iff, decide_eq_false_iff_not, decide_eq_false_iff_not]

end Stretch

/-- A markup in which no marker runs into the end. -/
def IsComplete (markup : String) : Prop :=
  ∀ stretch ∈ Stretch.ofMarkup markup.toList, stretch.IsEnded

instance (markup : String) : Decidable (IsComplete markup) :=
  inferInstanceAs (Decidable (∀ stretch ∈ Stretch.ofMarkup markup.toList, stretch.IsEnded))

namespace Token

/-- At its end a markup has these tokens, and this text (newest first) is pending in a voice. -/
structure Leaves (first speaker : String) (init : List Token) (voice : String)
    (read : List Char) : Prop where
  alone : ofMarkup first speaker = init ++ [.speech voice (String.ofList read.reverse)]
  joined (later : String) : ofMarkup (first ++ later) speaker =
    init ++ Stretch.tokens voice (Stretch.scan (.plain read) later.toList)

theorem leaves_of_complete (first speaker : String) (complete : IsComplete first) :
    ∃ init voice read, Leaves first speaker init voice read := by
  obtain ⟨init, read, alone, joined⟩ := Stretch.scan_seam (.plain []) first.toList complete
  refine ⟨Stretch.tokens speaker init, Stretch.lastSpeaker speaker init, read, ?_, ?_⟩
  · rw [ofMarkup, Stretch.ofMarkup, alone, Stretch.tokens_append]
    rfl
  · intro later
    rw [ofMarkup, Stretch.ofMarkup, String.toList_append, joined, Stretch.tokens_append]

section Laws

variable {first speaker : String} {init : List Token} {voice : String} {read : List Char}
  (leaves : Leaves first speaker init voice read)

include leaves

theorem Leaves.filter (id rest : String) (inside : '}' ∉ id.toList) :
    ofMarkup (first ++ "\x7b" ++ id ++ "\x7d" ++ rest) speaker = ofMarkup first speaker ++
      (if id = "" then [] else if id = "." then [.closing] else [.opening id]) ++
      ofMarkup rest voice := by
  have glued := leaves.joined ("\x7b" ++ id ++ "\x7d" ++ rest)
  rw [Stretch.tokens_scan_filter voice read id rest inside] at glued
  simp only [← String.append_assoc] at glued
  rw [glued, leaves.alone, List.append_assoc, List.append_assoc, List.singleton_append]

theorem Leaves.effect (body rest : String) (inside : ']' ∉ body.toList) :
    ofMarkup (first ++ "[" ++ body ++ "]" ++ rest) speaker = ofMarkup first speaker ++
      ((Numeral.canonical? body.toList).map fun id => .effect (String.ofList id)).toList ++
      ofMarkup rest voice := by
  have glued := leaves.joined ("[" ++ body ++ "]" ++ rest)
  rw [Stretch.tokens_scan_effect voice read body rest inside] at glued
  simp only [← String.append_assoc] at glued
  rw [glued, leaves.alone, List.append_assoc, List.append_assoc, List.singleton_append]

theorem Leaves.colon (rest : String) :
    ofMarkup (first ++ ":" ++ rest) speaker =
      init ++ [.speech voice (String.ofList (Stretch.lastWord read.reverse).1)] ++
        ofMarkup rest (String.ofList (Stretch.lastWord read.reverse).2) := by
  have glued := leaves.joined (":" ++ rest)
  rw [Stretch.tokens_scan_colon voice read rest, ← String.append_assoc] at glued
  rw [glued, List.append_assoc, List.singleton_append]

theorem Leaves.unended (marker : Marker) (body : String) (inside : marker.closer ∉ body.toList) :
    ofMarkup (first ++ String.singleton marker.opener ++ body) speaker =
      ofMarkup first speaker ++ [.speech voice ""] := by
  have glued := leaves.joined (String.singleton marker.opener ++ body)
  rw [String.toList_append, String.toList_singleton, List.singleton_append,
    Stretch.tokens_scan_open voice read marker body inside, ← String.append_assoc] at glued
  rw [glued, leaves.alone, List.append_assoc, List.singleton_append]

end Laws

theorem toList_map_canonical? (body : String) (number : Int)
    (denotes : Numeral.Denotes body number) :
    ((Numeral.canonical? body.toList).map fun id => effect (String.ofList id)).toList =
      [.effect (toString number)] := by
  rw [Numeral.canonical?_of_denotes body number denotes, Option.map_some, String.ofList_toList]
  rfl

theorem toList_map_canonical?_eq_nil (body : String)
    (senseless : ∀ number, ¬Numeral.Denotes body number) :
    ((Numeral.canonical? body.toList).map fun id => effect (String.ofList id)).toList = [] := by
  cases canonical : Numeral.canonical? body.toList with
  | none => rfl
  | some id =>
      obtain ⟨number, denotes⟩ := Numeral.denotes_of_canonical? body id canonical
      exact absurd denotes (senseless number)

theorem lastWord_toList (before separator name : String)
    (separates : separator = " " ∨ separator = "\n")
    (solid : ∀ c ∈ name.toList, Stretch.isSeparator c = false) :
    Stretch.lastWord (before ++ separator ++ name).toList =
      ((before.map fun c => if c = '\n' then ' ' else c).toList, name.toList) := by
  have word : ∃ c, Stretch.isSeparator c = true ∧
      (before ++ separator ++ name).toList = before.toList ++ c :: name.toList := by
    rw [String.toList_append, String.toList_append, List.append_assoc]
    rcases separates with rfl | rfl
    · exact ⟨' ', rfl, rfl⟩
    · exact ⟨'\n', rfl, rfl⟩
  obtain ⟨c, separates, chars⟩ := word
  rw [chars, Stretch.lastWord_append before.toList c name.toList separates solid,
    String.toList_map]

theorem ofMarkup_plain (text speaker : String) (plain : IsPlain text.toList) :
    ofMarkup text speaker = [.speech speaker text] := by
  have cut := Stretch.scan_plain text.toList [] [] plain
  rw [List.append_nil, List.append_nil] at cut
  rw [ofMarkup, Stretch.ofMarkup, cut, Stretch.scan, List.reverse_reverse]
  show [speech speaker (String.ofList text.toList)] = _
  rw [String.ofList_toList]

theorem ofMarkup_ends (markup speaker : String) :
    ∃ init voice pending, ofMarkup markup speaker = init ++ [.speech voice pending] := by
  obtain ⟨init, text, cut⟩ := Stretch.scan_ends (.plain []) markup.toList
  refine ⟨Stretch.tokens speaker init, Stretch.lastSpeaker speaker init, String.ofList text, ?_⟩
  rw [ofMarkup, Stretch.ofMarkup, cut, Stretch.tokens_append]
  rfl

/--
Tokens can be taken one at a time, and the last one is the pending text. Let a markup be complete,
with `init` before its pending text in some voice. A filter marker adds its own token to those of
the markup, if it is not empty, and a sound effect the integer that its body stands for, if it is
one; the rest goes on in the same voice. A colon gives the last word of the pending text, after its
last space or newline, to what follows as its voice, and what stands before to the old voice. A
marker that does not end adds an empty speech only. Text without delimiters is one speech.
-/
theorem ofMarkup_delimiters :
    (∀ markup speaker, (TokenStream.ofMarkup markup speaker).toList = ofMarkup markup speaker ∧
      ∃ init voice pending, ofMarkup markup speaker = init ++ [.speech voice pending]) ∧
    (∀ first speaker, IsComplete first → ∃ init voice pending,
      ofMarkup first speaker = init ++ [.speech voice pending] ∧
      (∀ id rest, '}' ∉ id.toList →
        ofMarkup (first ++ "\x7b" ++ id ++ "\x7d" ++ rest) speaker = ofMarkup first speaker ++
          (if id = "" then [] else if id = "." then [.closing] else [.opening id]) ++
          ofMarkup rest voice) ∧
      (∀ body rest, ']' ∉ body.toList →
        (∀ number, Numeral.Denotes body number →
          ofMarkup (first ++ "[" ++ body ++ "]" ++ rest) speaker =
            ofMarkup first speaker ++ [.effect (toString number)] ++ ofMarkup rest voice) ∧
        ((∀ number, ¬Numeral.Denotes body number) →
          ofMarkup (first ++ "[" ++ body ++ "]" ++ rest) speaker =
            ofMarkup first speaker ++ ofMarkup rest voice)) ∧
      (∀ rest, ((∀ c ∈ pending.toList, c ≠ ' ' ∧ c ≠ '\n') →
          ofMarkup (first ++ ":" ++ rest) speaker =
            init ++ [.speech voice ""] ++ ofMarkup rest pending) ∧
        (∀ before separator name, pending = before ++ separator ++ name →
          (separator = " " ∨ separator = "\n") → (∀ c ∈ name.toList, c ≠ ' ' ∧ c ≠ '\n') →
          ofMarkup (first ++ ":" ++ rest) speaker =
            init ++ [.speech voice (before.map fun c => if c = '\n' then ' ' else c)] ++
              ofMarkup rest name)) ∧
      (∀ body, '}' ∉ body.toList →
        ofMarkup (first ++ "\x7b" ++ body) speaker =
          ofMarkup first speaker ++ [.speech voice ""]) ∧
      (∀ body, ']' ∉ body.toList →
        ofMarkup (first ++ "[" ++ body) speaker = ofMarkup first speaker ++ [.speech voice ""])) ∧
    (∀ text speaker, IsPlain text.toList → ofMarkup text speaker = [.speech speaker text]) := by
  refine ⟨?_, ?_, ofMarkup_plain⟩
  · intro markup speaker
    exact ⟨TokenStream.toList_ofMarkup markup speaker, ofMarkup_ends markup speaker⟩
  · intro first speaker complete
    obtain ⟨init, voice, read, leaves⟩ := leaves_of_complete first speaker complete
    refine ⟨init, voice, String.ofList read.reverse, leaves.alone, leaves.filter, ?_, ?_,
      leaves.unended .filter, leaves.unended .effect⟩
    · intro body rest inside
      rw [leaves.effect body rest inside]
      constructor
      · intro number denotes
        rw [toList_map_canonical? body number denotes]
      · intro senseless
        rw [toList_map_canonical?_eq_nil body senseless, List.append_nil]
    · intro rest
      simp only [← Stretch.isSeparator_eq_false_iff]
      constructor
      · intro solid
        rw [String.toList_ofList] at solid
        rw [leaves.colon rest, Stretch.lastWord_solid read.reverse solid]
      · intro before separator name parted separates solid
        have chars : read.reverse = (before ++ separator ++ name).toList := by
          rw [← parted, String.toList_ofList]
        rw [leaves.colon rest, chars, lastWord_toList before separator name separates solid,
          String.ofList_toList, String.ofList_toList]

/-- A sound effect and a colon behind a dialogue. -/
theorem ofMarkup_delimiters_dialogue :
    let dialogue := "hi bob:\x7b1\x7dwait [x]no\nann"
    let before := [speech "me" "hi", speech "bob" "", opening "1", speech "bob" "wait "]
    IsComplete dialogue ∧
      ofMarkup (dialogue ++ "[" ++ " +007 " ++ "]" ++ "go") "me" =
        before ++ [speech "bob" "no\nann", effect "7", speech "bob" "go"] ∧
      ofMarkup (dialogue ++ ":" ++ "go") "me" =
        before ++ [speech "bob" "no", speech "ann" "go"] := by
  intro dialogue before
  have complete : IsComplete dialogue := by decide
  have tokens : ofMarkup dialogue "me" = before ++ [speech "bob" "no\nann"] := by decide
  have seven : Numeral.Denotes " +007 " 7 :=
    ⟨['0', '0', '7'], by decide, by decide, Or.inl ⟨Or.inr (by decide), by decide⟩⟩
  have word : IsPlain "go".toList := by
    apply Stretch.isPlain_cons 'g' ['o'] _ (by decide)
    exact Stretch.isPlain_cons 'o' [] Stretch.isPlain_nil (by decide)
  obtain ⟨-, laws, plain⟩ := ofMarkup_delimiters
  obtain ⟨init, voice, pending, ends, -, effects, colons, -⟩ := laws dialogue "me" complete
  obtain ⟨rfl, last⟩ := List.append_inj' (tokens.symm.trans ends) rfl
  cases last
  refine ⟨complete, ?_, ?_⟩
  · rw [(effects " +007 " "go" (by decide)).1 7 seven, tokens, plain "go" "bob" word]
    rfl
  · have spoken : ("no".map fun c => if c = '\n' then ' ' else c) = "no" := by
      apply String.toList_injective
      rw [String.toList_map]
      rfl
    rw [(colons "go").2 "no" "\n" "ann" (by decide) (by decide) (by simp),
      plain "go" "ann" word, spoken]
    rfl

end Token

end SpokenMarkup
