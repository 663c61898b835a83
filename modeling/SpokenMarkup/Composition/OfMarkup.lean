import SpokenMarkup.Composition.NormalForm
import SpokenMarkup.Composition.Numbering
import SpokenMarkup.Composition.Scopes
import SpokenMarkup.Event

set_option autoImplicit false

namespace SpokenMarkup

/-- The normal tree of a markup that starts in the voice of `speaker`; its root is a group. -/
def Node.ofMarkup (markup speaker : String) : Node :=
  (Node.ofTokens (Token.ofMarkup markup speaker)).normalizeRoot

/-- The normal tree of a markup, its nodes numbered in `dir` from zero on. -/
def Node.ofMarkupIn (dir : Path) (markup speaker : String) : Node :=
  (Node.ofMarkup markup speaker).number dir 0

namespace Scopes

/-- What is reported about tokens that leave no trace in the tree. -/
def events (scopes : Scopes) : List Event :=
  (if scopes.skipped > 0 then [.filtersSkipped scopes.skipped maxFilterDepth] else []) ++
    (if scopes.ignored > 0 then [.tokensIgnored scopes.ignored] else [])

end Scopes

namespace Normalizer

def events (state : Normalizer) : List Event :=
  state.emptied.reverse.map .emptyFilterDropped

end Normalizer

def compositionEvents (markup speaker : String) : List Event :=
  let stretches := Stretch.ofMarkup markup.toList
  let scopes := Scopes.readAll (Stretch.tokens speaker stretches)
  stretches.filterMap Stretch.event? ++ scopes.events ++
    (Normalizer.ofNode scopes.tree true).finish.events

end SpokenMarkup
