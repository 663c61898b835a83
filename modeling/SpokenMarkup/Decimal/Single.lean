set_option autoImplicit false

namespace SpokenMarkup.Decimal

/-- A finite magnitude is `coefficient * 2 ^ exponent`. -/
inductive Magnitude where
  | nan
  | infinite
  | finite (coefficient : Nat) (exponent : Int)
deriving DecidableEq, Repr

structure Single where
  negative : Bool
  magnitude : Magnitude
deriving DecidableEq, Repr

def leastExponent : Int := -149

def Single.ofFloat (value : Float32) : Single :=
  let bits := value.toBits.toNat
  let fraction := bits % Nat.pow 2 23
  let biased := bits / Nat.pow 2 23 % 256
  ⟨bits / Nat.pow 2 31 = 1,
    if biased = 255 then if fraction = 0 then .infinite else .nan
    else if biased = 0 then .finite fraction leastExponent
    else .finite (fraction + Nat.pow 2 23) (leastExponent + (biased - 1 : Nat))⟩

/-- The quotient rounded to the nearest natural, a half to the even neighbour. -/
def roundDiv (numerator denominator : Nat) : Nat :=
  let quotient := numerator / denominator
  let twice := 2 * (numerator % denominator)
  if twice > denominator ∨ (twice = denominator ∧ quotient % 2 = 1) then quotient + 1 else quotient

/--
The digits of `value / 10 ^ places`, with a point in front of the last `places` of them, if there
are any, and at least one digit in front of the point.
-/
def placed (value places : Nat) : List Char :=
  let digits := Nat.toDigits 10 value
  let digits := List.replicate (places + 1 - digits.length) '0' ++ digits
  let whole := digits.take (digits.length - places)
  if places = 0 then whole else whole ++ '.' :: digits.drop (digits.length - places)

def signed (negative : Bool) (digits : List Char) : String :=
  String.ofList (if negative then '-' :: digits else digits)

end SpokenMarkup.Decimal
