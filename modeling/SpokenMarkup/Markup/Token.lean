set_option autoImplicit false

namespace SpokenMarkup

inductive Token where
  /-- Text in the voice of `speaker`. It may be empty or blank. -/
  | speech (speaker text : String)
  /-- A marker that opens the scope of a filter. -/
  | opening (id : String)
  /-- The marker that closes the innermost open scope. -/
  | closing
  /-- A numbered sound effect, its number in canonical form. -/
  | effect (id : String)
deriving DecidableEq, Repr

end SpokenMarkup
