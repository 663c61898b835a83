import SpokenMarkup.Markup.Stretch

set_option autoImplicit false

namespace SpokenMarkup

/--
A stretch gives its speech first; its marker, if it has one, waits in the stream for the next call.
An exhausted stream stays exhausted.
-/
structure TokenStream where
  /-- What is left to read. -/
  stretches : List Stretch
  /-- The speaker of the text that is read next. -/
  speaker : String
  /-- A marker that was read with the last speech. -/
  queued : Option Token

namespace TokenStream

def ofMarkup (markup speaker : String) : TokenStream :=
  ⟨Stretch.ofMarkup markup.toList, speaker, none⟩

def next (stream : TokenStream) : Option Token × TokenStream :=
  match stream.queued, stream.stretches with
  | some token, _ => (some token, { stream with queued := none })
  | none, [] => (none, stream)
  | none, stretch :: rest =>
    (some (stretch.speech stream.speaker),
      ⟨rest, stretch.speakerAfter stream.speaker, stretch.marker⟩)

end TokenStream

/-- The tokens of a list of stretches that starts in the voice of `speaker`. -/
def Stretch.tokens (speaker : String) : List Stretch → List Token
  | [] => []
  | stretch :: rest =>
    stretch.speech speaker :: (stretch.marker.toList ++ tokens (stretch.speakerAfter speaker) rest)

def Token.ofMarkup (markup speaker : String) : List Token :=
  Stretch.tokens speaker (Stretch.ofMarkup markup.toList)

end SpokenMarkup
