import SpokenMarkup.Decimal.Single

set_option autoImplicit false

namespace SpokenMarkup.Decimal

def bitsOfInfinity : Nat := 255 * Nat.pow 2 23

def bitsNearest (numerator denominator : Nat) : Nat :=
  let near (exponent : Int) : Nat :=
    roundDiv (numerator * Nat.pow 2 (-exponent).toNat) (denominator * Nat.pow 2 exponent.toNat)
  let estimate : Int := (numerator.log2 : Int) - denominator.log2 - 24
  let exponent := max leastExponent estimate
  let exponent := if near exponent ≥ Nat.pow 2 24 then exponent + 1 else exponent
  let coefficient := near exponent
  let bits := if coefficient < Nat.pow 2 23 then coefficient
    else (exponent - leastExponent).toNat * Nat.pow 2 23 + coefficient
  min bits bitsOfInfinity

def bitsOfScientific (digits : Nat) (exponent : Int) : Nat :=
  if digits = 0 then 0
  else if exponent > 100 then bitsOfInfinity
  else if exponent + digits.log2 < -100 then 0
  else bitsNearest (digits * Nat.pow 10 exponent.toNat) (Nat.pow 10 (-exponent).toNat)

def natOfDigits (digits : List Char) : Nat :=
  digits.foldl (fun value c => 10 * value + (c.toNat - '0'.toNat)) 0

def splitSign : List Char → Bool × List Char
  | '-' :: rest => (true, rest)
  | '+' :: rest => (false, rest)
  | rest => (false, rest)

/-- The exponent after the digits, zero if there is none. -/
def exponent? : List Char → Option Int
  | [] => some 0
  | mark :: rest =>
    let (negative, digits) := splitSign rest
    if (mark = 'e' ∨ mark = 'E') ∧ digits ≠ [] ∧ digits.all Char.isDigit then
      some (if negative then -(natOfDigits digits : Int) else natOfDigits digits)
    else none

/-- The bits of an unsigned decimal. -/
def bits? (text : List Char) : Option Nat :=
  let whole := text.takeWhile Char.isDigit
  let rest := text.dropWhile Char.isDigit
  let (places, rest) := match rest with
    | '.' :: rest => (rest.takeWhile Char.isDigit, rest.dropWhile Char.isDigit)
    | rest => ([], rest)
  if whole ++ places = [] then none
  else (exponent? rest).map fun exponent =>
    bitsOfScientific (natOfDigits (whole ++ places)) (exponent - places.length)

def read? (text : String) : Option Float32 :=
  let (negative, rest) := splitSign text.toList
  let sign := if negative then Nat.pow 2 31 else 0
  let bits := match String.ofList (rest.map Char.toLower) with
    | "inf" | "infinity" => some bitsOfInfinity
    | "nan" => some (bitsOfInfinity + Nat.pow 2 22)
    | _ => bits? rest
  bits.map fun bits => Float32.ofBits (sign + bits).toUInt32

end SpokenMarkup.Decimal
