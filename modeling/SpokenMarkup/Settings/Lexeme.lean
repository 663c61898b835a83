set_option autoImplicit false

namespace SpokenMarkup

/-- Settings need no negative numbers, fractions and exponents, so these are no lexemes. -/
inductive Lexeme where
  | openBrace | closeBrace | openBracket | closeBracket | comma | colon
  | text (content : String)
  | natural (value : Nat)
  | bool (value : Bool)
  | null
deriving DecidableEq, Repr

namespace Lexeme

/-- Where a scan stands: between lexemes or inside one. What was read of it is newest first. -/
inductive Place where
  | between
  | digits (read : List Char)
  | letters (read : List Char)
  /-- In a text; `high` is the first half of a surrogate pair whose second half has to follow. -/
  | text (read : List Char) (high : Option Nat)
  | escape (read : List Char) (high : Option Nat)
  | unicode (read : List Char) (high : Option Nat) (digits : List Nat)

structure Scan where
  /-- Finished lexemes, newest first. -/
  lexemes : List Lexeme := []
  place : Place := .between

def isSpace (c : Char) : Bool :=
  c = ' ' || c = '\n' || c = '\t' || c = '\r'

def hexDigit? (c : Char) : Option Nat :=
  if c.isDigit then some (c.toNat - '0'.toNat)
  else if 'a' ≤ c ∧ c ≤ 'f' then some (c.toNat - 'a'.toNat + 10)
  else if 'A' ≤ c ∧ c ≤ 'F' then some (c.toNat - 'A'.toNat + 10)
  else none

def escaped? : Char → Option Char
  | '"' => some '"'
  | '\\' => some '\\'
  | '/' => some '/'
  | 'b' => some '\x08'
  | 'f' => some '\x0c'
  | 'n' => some '\n'
  | 'r' => some '\r'
  | 't' => some '\t'
  | _ => none

/-- Adds a code unit to a text: a character, or one half of a surrogate pair. -/
def addUnit (read : List Char) (high : Option Nat) (unit : Nat) : Option Place :=
  let isHigh := 0xD800 ≤ unit ∧ unit < 0xDC00
  let isLow := 0xDC00 ≤ unit ∧ unit < 0xE000
  match high with
  | none =>
    if isHigh then some (.text read (some unit))
    else if isLow then none
    else some (.text (Char.ofNat unit :: read) none)
  | some first =>
    if isLow then
      some (.text (Char.ofNat (0x10000 + (first - 0xD800) * 0x400 + (unit - 0xDC00)) :: read) none)
    else none

/-- Finishes a lexeme that ends where another begins. -/
def Scan.settle (scan : Scan) : Option Scan :=
  match scan.place with
  | .between => some scan
  | .digits read =>
    if read.length > 1 ∧ read.getLast? = some '0' then none
    else
      let value := read.foldr (fun c value => 10 * value + (c.toNat - '0'.toNat)) 0
      some { lexemes := .natural value :: scan.lexemes }
  | .letters read =>
    match String.ofList read.reverse with
    | "true" => some { lexemes := .bool true :: scan.lexemes }
    | "false" => some { lexemes := .bool false :: scan.lexemes }
    | "null" => some { lexemes := .null :: scan.lexemes }
    | _ => none
  | .text _ _ | .escape _ _ | .unicode _ _ _ => none

def Scan.begin (scan : Scan) (c : Char) : Option Scan :=
  let single := fun lexeme => some { lexemes := lexeme :: scan.lexemes }
  if isSpace c then some scan
  else if c = '"' then some { scan with place := .text [] none }
  else if c.isDigit then some { scan with place := .digits [c] }
  else if c.isAlpha then some { scan with place := .letters [c] }
  else match c with
    | '{' => single .openBrace
    | '}' => single .closeBrace
    | '[' => single .openBracket
    | ']' => single .closeBracket
    | ',' => single .comma
    | ':' => single .colon
    | _ => none

def Scan.read (scan : Scan) (c : Char) : Option Scan :=
  match scan.place with
  | .between => scan.begin c
  | .digits read =>
    if c.isDigit then some { scan with place := .digits (c :: read) }
    else scan.settle.bind (·.begin c)
  | .letters read =>
    if c.isAlpha then some { scan with place := .letters (c :: read) }
    else scan.settle.bind (·.begin c)
  | .text read high =>
    if c = '\\' then some { scan with place := .escape read high }
    else if high.isSome || c.toNat < 0x20 then none
    else if c = '"' then some { lexemes := .text (String.ofList read.reverse) :: scan.lexemes }
    else some { scan with place := .text (c :: read) none }
  | .escape read high =>
    if c = 'u' then some { scan with place := .unicode read high [] }
    else if high.isSome then none
    else (escaped? c).map fun c => { scan with place := .text (c :: read) none }
  | .unicode read high digits => do
    let digits := digits ++ [← hexDigit? c]
    if digits.length < 4 then some { scan with place := .unicode read high digits }
    else
      let place ← addUnit read high (digits.foldl (16 * · + ·) 0)
      some { scan with place }

def ofDocument? (document : String) : Option (List Lexeme) := do
  let scan ← document.toList.foldlM Scan.read {}
  let scan ← scan.settle
  some scan.lexemes.reverse

end Lexeme

end SpokenMarkup
