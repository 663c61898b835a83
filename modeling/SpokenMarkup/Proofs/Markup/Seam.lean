import SpokenMarkup.Proofs.Markup.Lexing

set_option autoImplicit false

namespace SpokenMarkup

namespace Stretch

/-- The marker of the stretch, if it has one, does not run into the end of the input. -/
def IsEnded (stretch : Stretch) : Prop :=
  stretch.ending ≠ .filter none ∧ stretch.ending ≠ .effect none

instance (stretch : Stretch) : Decidable stretch.IsEnded :=
  inferInstanceAs (Decidable (_ ∧ _))

/-- The speaker after some stretches. -/
def lastSpeaker (speaker : String) (stretches : List Stretch) : String :=
  stretches.foldl (fun current stretch => stretch.speakerAfter current) speaker

end Stretch

namespace TokenStream

def size (stream : TokenStream) : Nat :=
  2 * stream.stretches.length + stream.queued.toList.length

theorem next_none {stream last : TokenStream} (given : stream.next = (none, last)) :
    stream.queued = none ∧ stream.stretches = [] ∧ last = stream := by
  obtain ⟨stretches, speaker, queued⟩ := stream
  cases queued with
  | some waiting => cases given
  | none =>
      cases stretches with
      | nil =>
          cases given
          exact ⟨rfl, rfl, rfl⟩
      | cons stretch others => cases given

/-- A marker that waits comes first, and then the speech of the next stretch. -/
theorem next_some {stream rest : TokenStream} {token : Token}
    (given : stream.next = (some token, rest)) :
    (stream.queued = some token ∧ rest = { stream with queued := none }) ∨
      ∃ stretch others, stream.queued = none ∧ stream.stretches = stretch :: others ∧
        token = stretch.speech stream.speaker ∧
        rest = ⟨others, stretch.speakerAfter stream.speaker, stretch.marker⟩ := by
  obtain ⟨stretches, speaker, queued⟩ := stream
  cases queued with
  | some waiting =>
      cases given
      exact Or.inl ⟨rfl, rfl⟩
  | none =>
      cases stretches with
      | nil => cases given
      | cons stretch others =>
          cases given
          exact Or.inr ⟨stretch, others, rfl, rfl, rfl, rfl⟩

theorem size_next_lt (stream : TokenStream) (token : Token) (rest : TokenStream)
    (given : stream.next = (some token, rest)) : rest.size < stream.size := by
  rcases next_some given with ⟨waiting, rfl⟩ | ⟨stretch, others, idle, more, -, rfl⟩
  · simp [size, waiting]
  · have one : stretch.marker.toList.length ≤ 1 := by
      cases stretch.marker <;> simp
    simp only [size, idle, more, List.length_cons, Option.toList_none, List.length_nil]
    omega

def drain (stream : TokenStream) : TokenStream :=
  match _given : stream.next with
  | (none, last) => last
  | (some _, rest) => drain rest
termination_by stream.size
decreasing_by exact size_next_lt stream _ _ ‹_›

theorem speaker_drain (stream : TokenStream) :
    stream.drain.speaker = Stretch.lastSpeaker stream.speaker stream.stretches := by
  fun_induction drain stream with
  | case1 stream last given =>
      obtain ⟨-, empty, rfl⟩ := next_none given
      rw [empty]
      rfl
  | case2 stream token rest given ih =>
      rw [ih]
      rcases next_some given with ⟨-, rfl⟩ | ⟨stretch, others, -, more, -, rfl⟩
      · rfl
      · rw [more]
        rfl

end TokenStream

namespace Stretch

/-- Each character adds at most one stretch in front, and leads to the same place whatever follows. -/
theorem exists_scan_cons (place : Place) (c : Char) :
    ∃ (front : List Stretch) (next : Place), ∀ later,
      scan place (c :: later) = front ++ scan next later := by
  cases place with
  | plain read =>
      by_cases colon : c = ':'
      · refine ⟨[⟨read.reverse, .colon⟩], .plain [], fun later => ?_⟩
        rw [scan, if_pos colon]
        rfl
      · by_cases filter : c = '{'
        · refine ⟨[], .inside .filter read.reverse [], fun later => ?_⟩
          rw [scan, if_neg colon, if_pos filter]
          rfl
        · by_cases effect : c = '['
          · refine ⟨[], .inside .effect read.reverse [], fun later => ?_⟩
            rw [scan, if_neg colon, if_neg filter, if_pos effect]
            rfl
          · refine ⟨[], .plain (c :: read), fun later => ?_⟩
            rw [scan, if_neg colon, if_neg filter, if_neg effect]
            rfl
  | inside marker text read =>
      by_cases closing : c = marker.closer
      · refine ⟨[⟨text, marker.ending (some read.reverse)⟩], .plain [], fun later => ?_⟩
        rw [scan, if_pos closing]
        rfl
      · refine ⟨[], .inside marker text (c :: read), fun later => ?_⟩
        rw [scan, if_neg closing]
        rfl

/-- Where all markers end, a scan comes to plain text, from where it reads what follows. -/
theorem scan_seam (place : Place) (markup : List Char)
    (ended : ∀ stretch ∈ scan place markup, stretch.IsEnded) :
    ∃ (init : List Stretch) (read : List Char),
      scan place markup = init ++ [⟨read.reverse, .input⟩] ∧
      ∀ later, scan place (markup ++ later) = init ++ scan (.plain read) later := by
  induction markup generalizing place with
  | nil =>
      cases place with
      | plain read => exact ⟨[], read, rfl, fun _ => rfl⟩
      | inside marker text read =>
          have first := ended ⟨text, marker.ending none⟩ (List.mem_cons_self ..)
          cases marker with
          | filter => exact absurd rfl first.1
          | effect => exact absurd rfl first.2
  | cons c markup ih =>
      obtain ⟨front, next, step⟩ := exists_scan_cons place c
      rw [step] at ended
      obtain ⟨init, read, alone, joined⟩ := ih next fun stretch member =>
        ended stretch (List.mem_append_right _ member)
      refine ⟨front ++ init, read, ?_, ?_⟩
      · rw [step, alone, List.append_assoc]
      · intro later
        rw [List.cons_append, step, joined later, List.append_assoc]

theorem tokens_append (speaker : String) (first second : List Stretch) :
    tokens speaker (first ++ second) =
      tokens speaker first ++ tokens (lastSpeaker speaker first) second := by
  induction first generalizing speaker with
  | nil => rfl
  | cons stretch rest ih =>
      rw [List.cons_append, tokens, tokens, ih]
      simp [lastSpeaker]

/-- The tokens across a seam: those of the first markup, the marker, and those of the second. -/
theorem tokens_seam (speaker : String) (first body rest : List Char)
    (ended : ∀ stretch ∈ ofMarkup first, stretch.IsEnded) (inside : '}' ∉ body) :
    tokens speaker (ofMarkup (first ++ '{' :: (body ++ '}' :: rest))) =
      tokens speaker (ofMarkup first) ++ ((marker ⟨[], .filter (some body)⟩).toList ++
        tokens (lastSpeaker speaker (ofMarkup first)) (ofMarkup rest)) := by
  obtain ⟨init, read, alone, joined⟩ := scan_seam (.plain []) first ended
  have whole := joined ('{' :: (body ++ '}' :: rest))
  have cut : scan (.plain read) ('{' :: (body ++ '}' :: rest)) =
      ⟨read.reverse, .filter (some body)⟩ :: ofMarkup rest :=
    scan_inside .filter read.reverse body [] rest inside
  rw [← ofMarkup] at alone whole
  have speaks : lastSpeaker speaker (init ++ [⟨read.reverse, .input⟩]) =
      lastSpeaker speaker init := by
    simp [lastSpeaker, speakerAfter]
  rw [whole, alone, cut, tokens_append, tokens_append, speaks, tokens, tokens]
  simp [speech, spoken, speakerAfter, marker, tokens]

end Stretch

end SpokenMarkup
