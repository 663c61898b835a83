import Mathlib.Logic.Function.Iterate
import SpokenMarkup.Proofs.Markup.Delimiters

set_option autoImplicit false

namespace SpokenMarkup

namespace Stretch

/-- The body up to a closing delimiter and what is behind it; without the delimiter there is no body
and nothing is left. -/
def bodyTo (closing : Char) : List Char → Option (List Char) × List Char
  | [] => (none, [])
  | c :: rest =>
    if c = closing then (some [], rest)
    else
      let (body, left) := bodyTo closing rest
      (body.map (c :: ·), left)

/-- The first stretch and what is behind it; `read` is plain text already read, newest first. -/
def cut (read : List Char) : List Char → Stretch × List Char
  | [] => (⟨read.reverse, .input⟩, [])
  | c :: rest =>
    if c = ':' then (⟨read.reverse, .colon⟩, rest)
    else if c = '{' then
      let (body, left) := bodyTo '}' rest
      (⟨read.reverse, .filter body⟩, left)
    else if c = '[' then
      let (body, left) := bodyTo ']' rest
      (⟨read.reverse, .effect body⟩, left)
    else cut (c :: read) rest

theorem scan_inside_bodyTo (marker : Marker) (text read chars : List Char) :
    scan (.inside marker text read) chars =
      ⟨text, marker.ending ((bodyTo marker.closer chars).1.map (read.reverse ++ ·))⟩ ::
        scan (.plain []) (bodyTo marker.closer chars).2 := by
  induction chars generalizing read with
  | nil => rfl
  | cons c rest ih =>
      rw [scan, bodyTo]
      by_cases closing : c = marker.closer
      · rw [if_pos closing, if_pos closing, Option.map_some, List.append_nil]
      · rw [if_neg closing, if_neg closing, ih]
        simp [Function.comp_def]

/-- To cut the first stretch and then the rest is to cut all. -/
theorem scan_plain_eq_cut (read chars : List Char) :
    scan (.plain read) chars = (cut read chars).1 ::
      if (cut read chars).1.ending = .input then [] else ofMarkup (cut read chars).2 := by
  induction chars generalizing read with
  | nil => rfl
  | cons c rest ih =>
      rw [scan, cut]
      by_cases colon : c = ':'
      · rw [if_pos colon, if_pos colon]
        rfl
      · by_cases filter : c = '{'
        · rw [if_neg colon, if_neg colon, if_pos filter, if_pos filter, scan_inside_bodyTo]
          simp [ofMarkup, Marker.ending, Marker.closer]
        · by_cases effect : c = '['
          · rw [if_neg colon, if_neg colon, if_neg filter, if_neg filter, if_pos effect,
              if_pos effect, scan_inside_bodyTo]
            simp [ofMarkup, Marker.ending, Marker.closer]
          · rw [if_neg colon, if_neg colon, if_neg filter, if_neg filter, if_neg effect,
              if_neg effect, ih]

theorem bodyTo_cases (closing : Char) (chars : List Char) :
    bodyTo closing chars = (none, []) ∨
      ∃ body left, bodyTo closing chars = (some body, left) ∧ left.length < chars.length := by
  induction chars with
  | nil => exact Or.inl rfl
  | cons c rest ih =>
      rw [bodyTo]
      by_cases closed : c = closing
      · exact Or.inr ⟨[], rest, if_pos closed, Nat.lt_succ_self _⟩
      · rw [if_neg closed]
        rcases ih with unended | ⟨body, left, ended, shorter⟩
        · rw [unended]
          exact Or.inl rfl
        · rw [ended]
          exact Or.inr ⟨c :: body, left, rfl, Nat.lt_succ_of_lt shorter⟩

theorem length_marker_le (stretch : Stretch) : stretch.marker.toList.length ≤ 1 := by
  cases stretch.marker with
  | none => exact Nat.zero_le 1
  | some token => exact Nat.le_refl 1

theorem marker_ne_speech (stretch : Stretch) (speaker text : String) :
    Token.speech speaker text ∉ stretch.marker.toList := by
  rw [Option.mem_toList, marker]
  intro given
  split at given
  · cases given
  · cases given
  · obtain ⟨id, -, effect⟩ := Option.map_eq_some_iff.mp given
    cases effect
  · cases given

/-- A stretch is the last one and holds all, or it takes up more characters than tokens wait. -/
theorem cut_cases (read chars : List Char) :
    cut read chars = (⟨read.reverse ++ chars, .input⟩, []) ∨
      (cut read chars).1.ending ≠ .input ∧
        (cut read chars).2.length + (cut read chars).1.marker.toList.length < chars.length := by
  induction chars generalizing read with
  | nil =>
      rw [List.append_nil]
      exact Or.inl rfl
  | cons c rest ih =>
      rw [cut]
      by_cases colon : c = ':'
      · rw [if_pos colon]
        exact Or.inr ⟨nofun, Nat.lt_succ_self _⟩
      · rw [if_neg colon]
        by_cases filter : c = '{'
        · rw [if_pos filter]
          right
          rcases bodyTo_cases '}' rest with unended | ⟨body, left, ended, shorter⟩
          · rw [unended]
            exact ⟨nofun, Nat.succ_pos _⟩
          · rw [ended]
            have single := length_marker_le ⟨read.reverse, .filter (some body)⟩
            refine ⟨nofun, ?_⟩
            dsimp only
            rw [List.length_cons]
            omega
        · rw [if_neg filter]
          by_cases effect : c = '['
          · rw [if_pos effect]
            right
            rcases bodyTo_cases ']' rest with unended | ⟨body, left, ended, shorter⟩
            · rw [unended]
              exact ⟨nofun, Nat.succ_pos _⟩
            · rw [ended]
              have single := length_marker_le ⟨read.reverse, .effect (some body)⟩
              refine ⟨nofun, ?_⟩
              dsimp only
              rw [List.length_cons]
              omega
          · rw [if_neg effect]
            rcases ih (c :: read) with last | ⟨more, shorter⟩
            · rw [last, List.reverse_cons, List.append_assoc]
              exact Or.inl rfl
            · exact Or.inr ⟨more, Nat.lt_succ_of_lt shorter⟩

end Stretch

namespace TokenStream

def after (stream : TokenStream) (calls : Nat) : TokenStream :=
  (fun stream => stream.next.2)^[calls] stream

theorem toList_of_none {stream : TokenStream} (ended : stream.next.1 = none) :
    stream.toList = [] := by
  rw [toList]
  split
  case h_1 => rfl
  case h_2 token rest given =>
    rw [given] at ended
    cases ended

theorem toList_of_some {stream : TokenStream} {token : Token}
    (given : stream.next.1 = some token) : stream.toList = token :: stream.next.2.toList := by
  rw [toList]
  split
  case h_1 last ended =>
    rw [ended] at given
    cases given
  case h_2 first rest step =>
    rw [step] at given ⊢
    cases given
    rfl

end TokenStream

/-- A reader of markup, as it is left between two calls. -/
structure Reader where
  /-- What is left to read. -/
  chars : List Char
  /-- Plain text that was read but not given, newest first. -/
  text : List Char
  /-- The speaker of the text that is read next. -/
  speaker : String
  /-- Markers that were read with a speech. -/
  queue : List Token
  /-- Whether the last text was given. -/
  finished : Bool

namespace Reader

def ofMarkup (markup speaker : String) : Reader :=
  ⟨markup.toList, [], speaker, [], false⟩

/-- A queued marker goes first; else the reader reads on to the next delimiter. -/
def next (reader : Reader) : Option Token × Reader :=
  match reader.queue with
  | token :: queue => (some token, { reader with queue })
  | [] =>
    if reader.finished then (none, reader)
    else
      let (stretch, rest) := Stretch.cut reader.text reader.chars
      (some (stretch.speech reader.speaker),
        ⟨rest, [], stretch.speakerAfter reader.speaker, stretch.marker.toList,
          stretch.ending = .input⟩)

def after (reader : Reader) (calls : Nat) : Reader :=
  (fun reader => reader.next.2)^[calls] reader

theorem after_succ (reader : Reader) (calls : Nat) :
    reader.after (calls + 1) = (reader.after calls).next.2 :=
  Function.iterate_succ_apply' _ calls reader

/-- The three things that a call can do. -/
theorem next_cases (reader : Reader) :
    (∃ token queue, reader.queue = token :: queue ∧
      reader.next = (some token, { reader with queue })) ∨
    (reader.queue = [] ∧ reader.finished = true ∧ reader.next = (none, reader)) ∨
    (reader.queue = [] ∧ reader.finished = false ∧
      ∃ stretch rest, Stretch.cut reader.text reader.chars = (stretch, rest) ∧
        reader.next = (some (stretch.speech reader.speaker),
          ⟨rest, [], stretch.speakerAfter reader.speaker, stretch.marker.toList,
            stretch.ending = .input⟩)) := by
  obtain ⟨chars, text, speaker, queue, finished⟩ := reader
  cases queue with
  | cons token queue => exact Or.inl ⟨token, queue, rfl, rfl⟩
  | nil =>
      cases finished with
      | true => exact Or.inr (Or.inl ⟨rfl, rfl, rfl⟩)
      | false => exact Or.inr (Or.inr ⟨rfl, rfl, _, _, rfl, rfl⟩)

/-- What holds of a reader between any two calls. -/
structure Sound (reader : Reader) : Prop where
  taken : reader.text = []
  single : reader.queue.length ≤ 1
  marked : ∀ speaker text, Token.speech speaker text ∉ reader.queue
  ended : reader.finished = true → reader.queue = []

theorem sound_ofMarkup (markup speaker : String) : (ofMarkup markup speaker).Sound :=
  ⟨rfl, Nat.zero_le 1, fun _ _ => List.not_mem_nil, nofun⟩

theorem Sound.next {reader : Reader} (sound : reader.Sound) : reader.next.2.Sound := by
  rcases next_cases reader with ⟨token, queue, queued, next⟩ | ⟨-, -, next⟩ |
    ⟨-, -, stretch, rest, cut, next⟩
  · have single := sound.single
    rw [queued, List.length_cons] at single
    have last : queue = [] := List.length_eq_zero_iff.mp (by omega)
    rw [next, last]
    exact ⟨sound.taken, Nat.zero_le 1, fun _ _ => List.not_mem_nil, fun _ => rfl⟩
  · rw [next]
    exact sound
  · rw [next]
    refine ⟨rfl, stretch.length_marker_le, stretch.marker_ne_speech, ?_⟩
    intro ended
    have input : stretch.ending = .input := of_decide_eq_true ended
    show stretch.marker.toList = []
    rw [Stretch.marker, input]
    rfl

theorem Sound.after {reader : Reader} (sound : reader.Sound) (calls : Nat) :
    (reader.after calls).Sound :=
  Function.Iterate.rec Sound sound (fun _ sound => sound.next) calls

theorem Sound.speaker_of_speech {reader : Reader} (sound : reader.Sound) {voice text : String}
    (given : reader.next.1 = some (.speech voice text)) : voice = reader.speaker := by
  rcases next_cases reader with ⟨token, queue, queued, next⟩ | ⟨-, -, next⟩ |
    ⟨-, -, stretch, rest, -, next⟩
  · rw [next] at given
    cases given
    exact absurd (queued ▸ List.mem_cons_self) (sound.marked voice text)
  · rw [next] at given
    cases given
  · rw [next] at given
    cases given
    rfl

/-- A marker waits only behind a speech. -/
theorem Sound.speech_of_queue {reader : Reader} (sound : reader.Sound)
    (waits : reader.next.2.queue ≠ []) :
    ∃ text, reader.next.1 = some (.speech reader.speaker text) := by
  rcases next_cases reader with ⟨token, queue, queued, next⟩ | ⟨empty, -, next⟩ |
    ⟨-, -, stretch, rest, -, next⟩
  · have single := sound.single
    rw [queued, List.length_cons] at single
    have last : queue = [] := List.length_eq_zero_iff.mp (by omega)
    rw [next] at waits
    exact absurd last waits
  · rw [next] at waits
    exact absurd empty waits
  · exact ⟨_, congrArg Prod.fst next⟩

theorem Sound.final_flush {reader : Reader} (sound : reader.Sound)
    (unfinished : reader.finished = false) (finished : reader.next.2.finished = true) :
    reader.next.1 = some (.speech reader.speaker (String.ofList reader.chars)) := by
  rcases next_cases reader with ⟨token, queue, -, next⟩ | ⟨-, already, -⟩ |
    ⟨-, -, stretch, rest, cut, next⟩
  · rw [next] at finished
    exact absurd finished (Bool.eq_false_iff.mp unfinished)
  · exact absurd already (Bool.eq_false_iff.mp unfinished)
  · rw [next] at finished
    have input : stretch.ending = .input := of_decide_eq_true finished
    rcases Stretch.cut_cases reader.text reader.chars with last | ⟨more, -⟩
    · rw [last, sound.taken] at cut
      cases cut
      rw [next]
      rfl
    · rw [cut] at more
      exact absurd input more

/-- A finished reader has nothing more to give. -/
theorem Sound.unfinished {reader : Reader} (sound : reader.Sound)
    (given : reader.next.1 ≠ none) : reader.finished = false := by
  rcases next_cases reader with ⟨token, queue, queued, -⟩ | ⟨-, -, next⟩ | ⟨-, unfinished, -⟩
  · rw [Bool.eq_false_iff]
    intro finished
    rw [sound.ended finished] at queued
    cases queued
  · exact absurd (congrArg Prod.fst next) given
  · exact unfinished

theorem next_eq_of_none {reader : Reader} (ended : reader.next.1 = none) :
    reader.finished = true ∧ reader.next = (none, reader) := by
  rcases next_cases reader with ⟨token, queue, -, next⟩ | ⟨-, finished, next⟩ |
    ⟨-, -, stretch, rest, -, next⟩
  · rw [next] at ended
    cases ended
  · exact ⟨finished, next⟩
  · rw [next] at ended
    cases ended

theorem after_of_none {reader : Reader} (ended : reader.next.1 = none) (calls : Nat) :
    reader.after calls = reader :=
  Function.iterate_fixed (congrArg Prod.snd (next_eq_of_none ended).2) calls

def size (reader : Reader) : Nat :=
  reader.chars.length + reader.queue.length + (if reader.finished then 0 else 1)

theorem size_next_lt (reader : Reader) (token : Token) (rest : Reader)
    (given : reader.next = (some token, rest)) : rest.size < reader.size := by
  rcases next_cases reader with ⟨first, queue, queued, next⟩ | ⟨-, -, next⟩ |
    ⟨empty, unfinished, stretch, left, cut, next⟩
  · rw [next] at given
    cases given
    rw [size, size, queued, List.length_cons]
    dsimp only
    omega
  · rw [next] at given
    cases given
  · rw [next] at given
    cases given
    rw [size, size, empty, unfinished]
    rcases Stretch.cut_cases reader.text reader.chars with last | ⟨more, shorter⟩
    · rw [last] at cut
      cases cut
      exact Nat.succ_pos _
    · simp only [cut] at more shorter
      simp only [more, decide_false, Bool.false_eq_true, if_false, List.length_nil]
      omega

def toList (reader : Reader) : List Token :=
  match _given : reader.next with
  | (none, _) => []
  | (some token, rest) => token :: toList rest
termination_by reader.size
decreasing_by exact size_next_lt reader _ _ ‹_›

theorem length_toList_le (reader : Reader) : reader.toList.length ≤ reader.size := by
  fun_induction toList reader with
  | case1 reader last given => exact Nat.zero_le _
  | case2 reader token rest given ih =>
      have smaller := size_next_lt reader token rest given
      rw [List.length_cons]
      omega

theorem next_after (reader : Reader) (calls : Nat) :
    (reader.after calls).next.1 = reader.toList[calls]? := by
  fun_induction toList reader generalizing calls with
  | case1 reader last given =>
      have ended : reader.next.1 = none := congrArg Prod.fst given
      rw [after_of_none ended, ended]
      rfl
  | case2 reader token rest given ih =>
      cases calls with
      | zero =>
          rw [List.getElem?_cons_zero]
          exact congrArg Prod.fst given
      | succ calls =>
          rw [List.getElem?_cons_succ, ← ih]
          show ((fun reader => reader.next.2)^[calls] reader.next.2).next.1 = _
          rw [given]
          rfl

/-- Reader and stream stand at the same place. -/
structure InStep (reader : Reader) (stream : TokenStream) : Prop where
  speaker : stream.speaker = reader.speaker
  queued : stream.queued.toList = reader.queue
  stretches : stream.stretches =
    if reader.finished then [] else Stretch.scan (.plain reader.text) reader.chars

theorem inStep_ofMarkup (markup speaker : String) :
    InStep (ofMarkup markup speaker) (TokenStream.ofMarkup markup speaker) :=
  ⟨rfl, rfl, rfl⟩

theorem InStep.next {reader : Reader} {stream : TokenStream} (inStep : InStep reader stream) :
    stream.next.1 = reader.next.1 ∧ InStep reader.next.2 stream.next.2 := by
  obtain ⟨stretches, voice, queued⟩ := stream
  obtain ⟨rfl, queue, left⟩ := inStep
  rcases next_cases reader with ⟨token, behind, waiting, next⟩ | ⟨empty, finished, next⟩ |
    ⟨empty, unfinished, stretch, rest, cut, next⟩
  · rw [waiting] at queue
    cases queued with
    | none => cases queue
    | some marker =>
        cases queue
        rw [next]
        exact ⟨rfl, rfl, rfl, left⟩
  · rw [empty] at queue
    cases queued with
    | some marker => cases queue
    | none =>
        rw [finished, if_pos rfl] at left
        cases left
        rw [next]
        exact ⟨rfl, rfl, empty.symm, by rw [finished, if_pos rfl]; rfl⟩
  · rw [empty] at queue
    cases queued with
    | some marker => cases queue
    | none =>
        rw [unfinished, if_neg Bool.false_ne_true, Stretch.scan_plain_eq_cut, cut] at left
        cases left
        rw [next]
        refine ⟨rfl, rfl, rfl, ?_⟩
        simp only [decide_eq_true_eq]
        rfl

theorem InStep.after {reader : Reader} {stream : TokenStream} (inStep : InStep reader stream)
    (calls : Nat) : InStep (reader.after calls) (stream.after calls) := by
  induction calls generalizing reader stream with
  | zero => exact inStep
  | succ calls ih => exact ih inStep.next.2

theorem InStep.toList_eq {reader : Reader} {stream : TokenStream} (inStep : InStep reader stream) :
    reader.toList = stream.toList := by
  fun_induction toList reader generalizing stream with
  | case1 reader last given =>
      have ended : stream.next.1 = none := inStep.next.1.trans (congrArg Prod.fst given)
      rw [TokenStream.toList_of_none ended]
  | case2 reader token rest given ih =>
      obtain ⟨same, inStep⟩ := inStep.next
      rw [given] at same inStep
      rw [TokenStream.toList_of_some same, ih inStep]

theorem toList_ofMarkup (markup speaker : String) :
    (ofMarkup markup speaker).toList = Token.ofMarkup markup speaker :=
  (inStep_ofMarkup markup speaker).toList_eq.trans (TokenStream.toList_ofMarkup markup speaker)

theorem length_tokens_le (markup speaker : String) :
    (Token.ofMarkup markup speaker).length ≤ markup.length + 1 := by
  rw [← toList_ofMarkup]
  exact length_toList_le (ofMarkup markup speaker)

def reached (markup speaker : String) (calls : Nat) : Reader :=
  (ofMarkup markup speaker).after calls

section Calls

variable (markup speaker : String)

theorem reached_succ (calls : Nat) :
    reached markup speaker (calls + 1) = (reached markup speaker calls).next.2 :=
  after_succ (ofMarkup markup speaker) calls

theorem sound_reached (calls : Nat) : (reached markup speaker calls).Sound :=
  (sound_ofMarkup markup speaker).after calls

theorem next_reached (calls : Nat) :
    (reached markup speaker calls).next.1 = (Token.ofMarkup markup speaker)[calls]? := by
  rw [reached, next_after, toList_ofMarkup]

/-- The last call with a token is the one that finishes the reader. -/
theorem last_flush :
    ∃ before, (Token.ofMarkup markup speaker).length = before + 1 ∧
      (reached markup speaker before).finished = false ∧
      (reached markup speaker (before + 1)).finished = true ∧
      (reached markup speaker before).next.1 =
        some (.speech (reached markup speaker before).speaker
          (String.ofList (reached markup speaker before).chars)) := by
  have finished : (reached markup speaker (Token.ofMarkup markup speaker).length).finished := by
    apply And.left (next_eq_of_none _)
    rw [next_reached, List.getElem?_eq_none (Nat.le_refl _)]
  cases count : (Token.ofMarkup markup speaker).length with
  | zero =>
      rw [count] at finished
      cases finished
  | succ before =>
      rw [count] at finished
      have given : (reached markup speaker before).next.1 ≠ none := by
        rw [next_reached, List.getElem?_eq_getElem (by omega)]
        exact Option.some_ne_none _
      have sound := sound_reached markup speaker before
      refine ⟨before, rfl, sound.unfinished given, finished,
        sound.final_flush (sound.unfinished given) ?_⟩
      rw [← reached_succ]
      exact finished

/-- A token that is no speech follows one. -/
theorem speech_or_follows (calls : Nat) (token : Token)
    (given : (reached markup speaker calls).next.1 = some token) :
    (∃ text, token = .speech (reached markup speaker calls).speaker text) ∨
      ∃ earlier text, calls = earlier + 1 ∧ (reached markup speaker earlier).next.1 =
        some (.speech (reached markup speaker earlier).speaker text) := by
  rcases next_cases (reached markup speaker calls) with
    ⟨first, queue, queued, -⟩ | ⟨-, -, next⟩ | ⟨-, -, stretch, rest, -, next⟩
  · right
    cases calls with
    | zero => cases queued
    | succ earlier =>
        rw [reached_succ] at queued
        have waits : (reached markup speaker earlier).next.2.queue ≠ [] := by
          rw [queued]
          exact List.cons_ne_nil first queue
        obtain ⟨text, speech⟩ := (sound_reached markup speaker earlier).speech_of_queue waits
        exact ⟨earlier, text, rfl, speech⟩
  · rw [next] at given
    cases given
  · rw [next] at given
    cases given
    exact Or.inl ⟨_, rfl⟩

theorem fused {calls more : Nat} (ended : (reached markup speaker calls).next.1 = none)
    (later : calls ≤ more) : reached markup speaker more = reached markup speaker calls := by
  obtain ⟨others, rfl⟩ := Nat.exists_eq_add_of_le' later
  have split : reached markup speaker (others + calls) =
      (reached markup speaker calls).after others :=
    Function.iterate_add_apply _ others calls _
  rw [split]
  exact after_of_none ended others

end Calls

/--
Reading comes to an end and stays there. The reader gives the tokens of the markup, one a call, and
these are at most one more than its characters. The last one is the speech of all that is left, in
the call that finishes the reader. A token that is no speech comes right after a speech, and a
speech has the speaker that the reader stood at. Never is more than one marker in the queue. A call
without a token changes nothing from there on. A stream of the markup, cut in advance, is after as
many calls at the same speaker, with the same queue and the same next token.
-/
theorem reading_ends (markup speaker : String) :
    let tokens := Token.ofMarkup markup speaker
    let reader := reached markup speaker
    let stream := (TokenStream.ofMarkup markup speaker).after
    tokens.length ≤ markup.length + 1 ∧
    (∀ calls, (reader calls).next.1 = tokens[calls]?) ∧
    (∃ before, tokens.length = before + 1 ∧
      (reader before).finished = false ∧ (reader (before + 1)).finished = true ∧
      tokens[before]? =
        some (.speech (reader before).speaker (String.ofList (reader before).chars))) ∧
    (∀ calls token, tokens[calls]? = some token →
      (∃ voice text, token = .speech voice text) ∨
        ∃ earlier voice text, calls = earlier + 1 ∧
          tokens[earlier]? = some (.speech voice text)) ∧
    (∀ calls voice text, (reader calls).next.1 = some (.speech voice text) →
      voice = (reader calls).speaker) ∧
    (∀ calls, (reader calls).queue.length ≤ 1) ∧
    (∀ calls, (reader calls).next.1 = none → ∀ more, calls ≤ more →
      (reader more).next.1 = none ∧ (reader more).speaker = (reader calls).speaker) ∧
    ∀ calls, (stream calls).speaker = (reader calls).speaker ∧
      (stream calls).queued.toList = (reader calls).queue ∧
      (stream calls).next.1 = (reader calls).next.1 := by
  intro tokens reader stream
  have next (calls : Nat) : (reader calls).next.1 = tokens[calls]? :=
    next_reached markup speaker calls
  refine ⟨length_tokens_le markup speaker, next, ?_, ?_, ?_, ?_, ?_, ?_⟩
  · obtain ⟨before, count, unfinished, finished, flush⟩ := last_flush markup speaker
    exact ⟨before, count, unfinished, finished, (next before).symm.trans flush⟩
  · intro calls token given
    rcases speech_or_follows markup speaker calls token ((next calls).trans given) with
      ⟨text, speech⟩ | ⟨earlier, text, after, speech⟩
    · exact Or.inl ⟨_, text, speech⟩
    · exact Or.inr ⟨earlier, _, text, after, (next earlier).symm.trans speech⟩
  · intro calls voice text given
    exact (sound_reached markup speaker calls).speaker_of_speech given
  · intro calls
    exact (sound_reached markup speaker calls).single
  · intro calls ended more later
    have same : reader more = reader calls := fused markup speaker ended later
    rw [same]
    exact ⟨ended, rfl⟩
  · intro calls
    have inStep := (inStep_ofMarkup markup speaker).after calls
    exact ⟨inStep.speaker, inStep.queued, inStep.next.1⟩

/-- A sound effect in the voice of a new speaker, and the calls after the last token. -/
theorem reading_ends_dialogue :
    let reader := reached "ann:hi[+7]" "me"
    (∀ calls, (reader calls).next.1 =
      [.speech "me" "", .speech "ann" "hi", .effect "7", .speech "ann" ""][calls]?) ∧
    (reader 1).speaker = "ann" ∧ (reader 2).queue = [.effect "7"] ∧
    (∃ earlier voice text, 2 = earlier + 1 ∧
      (reader earlier).next.1 = some (.speech voice text)) ∧
    ∀ more, 4 ≤ more → (reader more).next.1 = none ∧ (reader more).speaker = "ann" := by
  intro reader
  obtain ⟨-, next, -, follows, voices, -, fused, -⟩ := reading_ends "ann:hi[+7]" "me"
  have tokens : Token.ofMarkup "ann:hi[+7]" "me" =
      [.speech "me" "", .speech "ann" "hi", .effect "7", .speech "ann" ""] := by decide
  rw [tokens] at next follows
  have effect := (follows 2 (.effect "7") rfl).resolve_left nofun
  simp only [← next] at effect
  refine ⟨next, (voices 1 "ann" "hi" (next 1)).symm, by decide, effect, ?_⟩
  have last : (reader 4).speaker = "ann" := by decide
  rw [← last]
  exact fused 4 (next 4)

end Reader

end SpokenMarkup
