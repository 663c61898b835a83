import SpokenMarkup.Decimal.Single

set_option autoImplicit false

namespace SpokenMarkup.Decimal

/-- The unit of comparison is `2 ^ -151 * 10 ^ -62`. -/
def binaryShift : Nat := 151

def decimalShift : Nat := 62

def binaryUnits (coefficient : Nat) (exponent quarters : Int) : Nat :=
  ((4 * coefficient + quarters) * Nat.pow 2 (exponent - 2 + binaryShift).toNat).toNat *
    Nat.pow 10 decimalShift

def decimalUnits (digits : Nat) (exponent : Int) : Nat :=
  digits * Nat.pow 10 (exponent + decimalShift).toNat * Nat.pow 2 binaryShift

/-- What reads back as one number: all between two bounds, themselves included or not. -/
structure Interval where
  low : Nat
  value : Nat
  high : Nat
  closed : Bool

def Interval.holds (interval : Interval) (units : Nat) : Bool :=
  if interval.closed then interval.low ≤ units && units ≤ interval.high
  else interval.low < units && units < interval.high

/-- The bounds lie half a step away; below a power of two the steps are half as wide. -/
def Interval.around (coefficient : Nat) (exponent : Int) : Interval where
  low := binaryUnits coefficient exponent
    (if coefficient = Nat.pow 2 23 ∧ exponent > leastExponent then -1 else -2)
  value := binaryUnits coefficient exponent 0
  high := binaryUnits coefficient exponent 2
  closed := coefficient % 2 = 0

/-- The better of the two neighbours of a value on the decimal grid with this exponent. -/
def Interval.onGrid? (interval : Interval) (exponent : Int) : Option Nat :=
  let step := decimalUnits 1 exponent
  let below := interval.value / step
  let holdsBelow := interval.holds (decimalUnits below exponent)
  let holdsAbove := interval.holds (decimalUnits (below + 1) exponent)
  if holdsAbove && (!holdsBelow || step ≤ 2 * (interval.value % step)) then some (below + 1)
  else if holdsBelow then some below
  else none

/-- Searches finer and finer grids; nine digits are always enough. -/
def Interval.search (interval : Interval) (exponent : Int) : Nat → Nat × Int
  | 0 => (interval.value / decimalUnits 1 exponent, exponent)
  | finer + 1 =>
    match interval.onGrid? exponent with
    | some digits => (digits, exponent)
    | none => interval.search (exponent - 1) finer

def shortestDigits (coefficient : Nat) (exponent : Int) : Nat × Int :=
  let interval := Interval.around coefficient exponent
  let length := (Nat.toDigits 10 (interval.value / Nat.pow 2 binaryShift)).length
  interval.search ((length : Int) - 1 - decimalShift) 9

def dropZeros (digits : Nat) (exponent : Int) : Nat → Nat × Int
  | 0 => (digits, exponent)
  | more + 1 =>
    if digits % 10 = 0 then dropZeros (digits / 10) (exponent + 1) more else (digits, exponent)

def shortest (value : Float32) : String :=
  let single := Single.ofFloat value
  match single.magnitude with
  | .nan => "NaN"
  | .infinite => signed single.negative ['i', 'n', 'f']
  | .finite 0 _ => signed single.negative ['0']
  | .finite coefficient exponent =>
    let (digits, exponent) := shortestDigits coefficient exponent
    let (digits, exponent) := dropZeros digits exponent 9
    signed single.negative (placed (digits * Nat.pow 10 exponent.toNat) (-exponent).toNat)

end SpokenMarkup.Decimal
