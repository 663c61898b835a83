set_option autoImplicit false

namespace SpokenMarkup

/-- A path keeps its text, so that messages show what the user wrote. -/
structure Path where
  text : String
deriving DecidableEq, Repr, Inhabited

namespace Path

/-- Cuts a text at every slash; `read` holds the current piece, newest first. -/
def cut (read : List Char) : List Char → List String
  | [] => [String.ofList read.reverse]
  | c :: rest =>
    if c = '/' then String.ofList read.reverse :: cut [] rest else cut (c :: read) rest

def pieces (path : Path) : List String :=
  cut [] path.text.toList

def isAbsolute (path : Path) : Bool :=
  path.text.toList.head? = some '/'

def endsWithSlash (path : Path) : Bool :=
  path.text.toList.getLast? = some '/'

def names (path : Path) : List String :=
  path.pieces.filter (· ≠ "")

def hasNul (path : Path) : Bool :=
  path.text.toList.contains '\x00'

/-- A name placed in a directory. An absolute name stands for itself. -/
def join (dir : Path) (name : String) : Path :=
  if name.toList.head? = some '/' then ⟨name⟩
  else if dir.text = "" || dir.endsWithSlash then ⟨dir.text ++ name⟩
  else ⟨dir.text ++ "/" ++ name⟩

/--
The prefixes of a path that end in a component, longest first; `pieces` is given last piece first.
Empty pieces are no components, and a lone dot is one only at the start of the path.
-/
def chain : List String → List (List String)
  | [] => []
  | piece :: outer =>
    if piece = "" || (piece = "." && !outer.isEmpty) then chain outer
    else (piece :: outer) :: chain outer

def ofPieces (reversed : List String) : Path :=
  ⟨String.intercalate "/" reversed.reverse⟩

/-- The path and the directories above it, innermost first, without the starting directory. -/
def ancestors (path : Path) : List Path :=
  (chain path.pieces.reverse).map ofPieces

/-- The directory a path lies in: empty for a lone name, none for the root and the empty path. -/
def parent? (path : Path) : Option Path :=
  match path.ancestors with
  | [] => none
  | [_] => some ⟨if path.isAbsolute then "/" else ""⟩
  | _ :: parent :: _ => some parent

/--
A name that stays inside the directory it is placed in: not empty, not a dot or two dots, and
without slash, backslash and NUL.
-/
def isPlainName (name : String) : Bool :=
  name ≠ "" && name ≠ "." && name ≠ ".." &&
    name.toList.all fun c => c ≠ '/' && c ≠ '\\' && c ≠ '\x00'

end Path

end SpokenMarkup
