import SpokenMarkup.Decimal.Single

set_option autoImplicit false

namespace SpokenMarkup.Decimal

/-- The natural nearest to `coefficient * 2 ^ exponent * 10 ^ places`. -/
def scaled (coefficient : Nat) (exponent : Int) (places : Nat) : Nat :=
  roundDiv (coefficient * Nat.pow 10 places * Nat.pow 2 exponent.toNat)
    (Nat.pow 2 (-exponent).toNat)

def fixed (value : Float32) (places : Nat) : String :=
  let single := Single.ofFloat value
  match single.magnitude with
  | .nan => "NaN"
  | .infinite => signed single.negative ['i', 'n', 'f']
  | .finite coefficient exponent =>
    signed single.negative (placed (scaled coefficient exponent places) places)

end SpokenMarkup.Decimal
