import SpokenMarkup.Markup.Numeral
import SpokenMarkup.Markup.Token

set_option autoImplicit false

namespace SpokenMarkup

/--
What ends a stretch of plain text. The body of a marker is `none` when the input ends before the
closing delimiter.
-/
inductive Ending where
  | input
  | colon
  | filter (body : Option (List Char))
  | effect (body : Option (List Char))
deriving DecidableEq, Repr

structure Stretch where
  text : List Char
  ending : Ending
deriving DecidableEq, Repr

inductive Marker where
  | filter
  | effect

namespace Marker

def closer : Marker → Char
  | filter => '}'
  | effect => ']'

def ending : Marker → Option (List Char) → Ending
  | filter => .filter
  | effect => .effect

end Marker

/-- Where a scan stands: in plain text, or in the body of a marker after plain text. -/
inductive Place where
  | plain (read : List Char)
  | inside (marker : Marker) (text read : List Char)

namespace Stretch

/-- Cuts the rest of a markup; `read` holds what was read at this place, newest first. -/
def scan : Place → List Char → List Stretch
  | .plain read, [] => [⟨read.reverse, .input⟩]
  | .inside marker text _, [] => [⟨text, marker.ending none⟩, ⟨[], .input⟩]
  | .plain read, c :: rest =>
    if c = ':' then ⟨read.reverse, .colon⟩ :: scan (.plain []) rest
    else if c = '{' then scan (.inside .filter read.reverse []) rest
    else if c = '[' then scan (.inside .effect read.reverse []) rest
    else scan (.plain (c :: read)) rest
  | .inside marker text read, c :: rest =>
    if c = marker.closer then
      ⟨text, marker.ending (some read.reverse)⟩ :: scan (.plain []) rest
    else scan (.inside marker text (c :: read)) rest

def ofMarkup (markup : List Char) : List Stretch :=
  scan (.plain []) markup

def isSeparator (c : Char) : Bool :=
  c = ' ' || c = '\n'

/-- The text before the last separator, each newline turned into a space, and the word after it. -/
def lastWord (text : List Char) : List Char × List Char :=
  let word := (text.reverse.takeWhile (!isSeparator ·)).reverse
  let before := (text.reverse.dropWhile (!isSeparator ·)).tail.reverse
  (before.map fun c => if c = '\n' then ' ' else c, word)

def spoken (stretch : Stretch) : List Char :=
  match stretch.ending with
  | .colon => (lastWord stretch.text).1
  | _ => stretch.text

def speech (stretch : Stretch) (speaker : String) : Token :=
  .speech speaker (String.ofList stretch.spoken)

/-- A colon makes the last word of the text the speaker of what follows. -/
def speakerAfter (stretch : Stretch) (speaker : String) : String :=
  match stretch.ending with
  | .colon => String.ofList (lastWord stretch.text).2
  | _ => speaker

/--
The marker that follows the speech of a stretch. A filter marker without a body, a sound effect
whose body is no integer and an unterminated marker are dropped.
-/
def marker (stretch : Stretch) : Option Token :=
  match stretch.ending with
  | .filter (some ['.']) => some .closing
  | .filter (some (c :: body)) => some (.opening (String.ofList (c :: body)))
  | .effect (some body) => (Numeral.canonical? body).map fun id => .effect (String.ofList id)
  | _ => none

end Stretch

end SpokenMarkup
