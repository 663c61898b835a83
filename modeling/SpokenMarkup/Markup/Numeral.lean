import SpokenMarkup.Text.Blank

set_option autoImplicit false

namespace SpokenMarkup.Numeral

/-- Splits off one sign; `true` stands for minus. -/
def sign : List Char → Bool × List Char
  | '-' :: digits => (true, digits)
  | '+' :: digits => (false, digits)
  | digits => (false, digits)

def assemble (negative : Bool) (digits : List Char) : List Char :=
  match digits.dropWhile (· = '0') with
  | [] => ['0']
  | significant => if negative then '-' :: significant else significant

/--
Canonical form of an integer: blanks around it are allowed, then one optional sign and ASCII
digits. Anything else is no integer.
-/
def canonical? (body : List Char) : Option (List Char) :=
  let (negative, digits) := sign (Text.trimBlanks body)
  if digits ≠ [] ∧ digits.all Char.isDigit then some (assemble negative digits) else none

end SpokenMarkup.Numeral
