import SpokenMarkup.Composition.Tree
import SpokenMarkup.Markup.Token

set_option autoImplicit false

namespace SpokenMarkup

def maxFilterDepth : Nat := 256

/-- An open filter scope and its children, newest first. -/
structure Scope where
  id : String
  children : List Node

def Scope.node (scope : Scope) : Node :=
  .filter scope.id (.group scope.children.reverse)

/--
The scopes of a run over tokens. Markers beyond the bound are skipped together with their closing
markers, so that their content joins the innermost scope that is kept. A closing marker without an
open scope closes the root, and all tokens after it are ignored.
-/
structure Scopes where
  /-- The children of the root, newest first. -/
  root : List Node := []
  /-- The open scopes, innermost first. -/
  opened : List Scope := []
  /-- Skipped markers that still wait for their closing markers. -/
  skipping : Nat := 0
  /-- All markers that were skipped. -/
  skipped : Nat := 0
  closed : Bool := false
  /-- Tokens after the end of the root. -/
  ignored : Nat := 0

namespace Scopes

def add (scopes : Scopes) (node : Node) : Scopes :=
  match scopes.opened with
  | [] => { scopes with root := node :: scopes.root }
  | scope :: outer =>
    { scopes with opened := { scope with children := node :: scope.children } :: outer }

def openScope (scopes : Scopes) (id : String) : Scopes :=
  if scopes.opened.length < maxFilterDepth then
    { scopes with opened := ⟨id, []⟩ :: scopes.opened }
  else { scopes with skipping := scopes.skipping + 1, skipped := scopes.skipped + 1 }

def closeScope (scopes : Scopes) : Scopes :=
  if scopes.skipping > 0 then { scopes with skipping := scopes.skipping - 1 }
  else match scopes.opened with
    | [] => { scopes with closed := true }
    | scope :: outer => { scopes with opened := outer }.add scope.node

def read (scopes : Scopes) (token : Token) : Scopes :=
  if scopes.closed then { scopes with ignored := scopes.ignored + 1 }
  else match token with
    | .speech speaker text => scopes.add (.speech speaker text)
    | .effect id => scopes.add (.effect id)
    | .opening id => scopes.openScope id
    | .closing => scopes.closeScope

def readAll (tokens : List Token) : Scopes :=
  tokens.foldl read {}

/-- Closes the open scopes, innermost first; `inner` is what the last one left, newest first. -/
def closeAll (inner : List Node) : List Scope → List Node
  | [] => inner
  | scope :: outer => closeAll [Scope.node { scope with children := inner ++ scope.children }] outer

/-- The children of the root, in order. Scopes that are still open keep what they received. -/
def children (scopes : Scopes) : List Node :=
  (closeAll [] scopes.opened ++ scopes.root).reverse

def tree (scopes : Scopes) : Node :=
  .group scopes.children

end Scopes

/-- The raw tree of a list of tokens: always a group. -/
def Node.ofTokens (tokens : List Token) : Node :=
  (Scopes.readAll tokens).tree

end SpokenMarkup
