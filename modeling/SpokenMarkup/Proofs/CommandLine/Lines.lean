import SpokenMarkup.CommandLine.Transcript

set_option autoImplicit false

namespace SpokenMarkup.CommandLine

/-- Lines that an input is cut into. -/
inductive AreLines : List (List UInt8) → List UInt8 → Prop
  | none : AreLines [] []
  | unended (line : List UInt8) (long : line ≠ []) (unfed : 10 ∉ line) : AreLines [line] line
  | ended (line : List UInt8) (unfed : 10 ∉ line) {lines : List (List UInt8)} {later : List UInt8}
    (rest : AreLines lines later) : AreLines ((line ++ [10]) :: lines) (line ++ 10 :: later)

theorem AreLines.flatten {lines : List (List UInt8)} {input : List UInt8}
    (areLines : AreLines lines input) : lines.flatten = input := by
  induction areLines with
  | none => rfl
  | unended line long unfed => rw [List.flatten_singleton]
  | ended line unfed rest ih =>
      rw [List.flatten_cons, ih, List.append_assoc, List.singleton_append]

theorem AreLines.cons {byte : UInt8} (other : byte ≠ 10) {line : List UInt8}
    {lines : List (List UInt8)} {input : List UInt8} (areLines : AreLines (line :: lines) input) :
    AreLines ((byte :: line) :: lines) (byte :: input) := by
  have more : ∀ {bytes : List UInt8}, 10 ∉ bytes → 10 ∉ byte :: bytes := by
    intro bytes unfed
    rw [List.mem_cons, not_or]
    exact ⟨Ne.symm other, unfed⟩
  cases areLines with
  | unended _ long unfed => exact .unended _ (List.cons_ne_nil _ _) (more unfed)
  | ended front unfed rest => exact .ended (byte :: front) (more unfed) rest

end SpokenMarkup.CommandLine
