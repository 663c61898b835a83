import SpokenMarkup.Proofs.Markup.Numeral

set_option autoImplicit false

namespace SpokenMarkup.Numeral

/-- The integer of a text: decimal digits after one optional sign, with blanks around them. -/
def Denotes (body : String) (number : Int) : Prop :=
  ∃ digits : List Char, digits ≠ [] ∧ digits.all Char.isDigit ∧
    (((Text.trim body).toList = digits ∨ (Text.trim body).toList = '+' :: digits) ∧
        number = Nat.ofDigitChars 10 digits 0 ∨
      (Text.trim body).toList = '-' :: digits ∧ number = -(Nat.ofDigitChars 10 digits 0 : Int))

theorem digitChar_of_isDigit (c : Char) (digit : c.isDigit) :
    c.toNat - '0'.toNat < 10 ∧ Nat.digitChar (c.toNat - '0'.toNat) = c := by
  have bounds : 48 ≤ c.toNat ∧ c.toNat ≤ 57 := by
    simpa [Char.isDigit, UInt32.le_iff_toNat_le] using digit
  have code : ∀ value < 10, (Nat.digitChar value).toNat = 48 + value := by decide
  have zero : '0'.toNat = 48 := rfl
  have small : c.toNat - '0'.toNat < 10 := by omega
  refine ⟨small, ?_⟩
  rw [← Char.toNat_inj, code _ small]
  omega

theorem ofDigitChars_dropWhile (digits : List Char) :
    Nat.ofDigitChars 10 (digits.dropWhile (· = '0')) 0 = Nat.ofDigitChars 10 digits 0 := by
  induction digits with
  | nil => rfl
  | cons digit rest ih =>
      by_cases zero : digit = '0'
      · rw [List.dropWhile_cons_of_pos (by simpa using zero), ih, zero, Nat.ofDigitChars_cons]
        rfl
      · rw [List.dropWhile_cons_of_neg (by simpa using zero)]

theorem ofDigitChars_pos {digits : List Char} (first : digits.head? ≠ some '0')
    (printed : Nat.toDigits 10 (Nat.ofDigitChars 10 digits 0) = digits) :
    0 < Nat.ofDigitChars 10 digits 0 := by
  apply Nat.pos_of_ne_zero
  intro zero
  rw [zero] at printed
  rw [← printed] at first
  exact first rfl

/-- Digits without a zero in front are what their number is printed as. -/
theorem toDigits_ofDigitChars (digits : List Char) (all : digits.all Char.isDigit)
    (long : digits ≠ []) (first : digits.head? ≠ some '0') :
    Nat.toDigits 10 (Nat.ofDigitChars 10 digits 0) = digits := by
  induction digits using List.reverseRecOn with
  | nil => contradiction
  | append_singleton front digit ih =>
      rw [List.all_append, Bool.and_eq_true, List.all_cons, List.all_nil, Bool.and_true] at all
      obtain ⟨small, printed⟩ := digitChar_of_isDigit digit all.2
      have last : Nat.toDigits 10 (digit.toNat - '0'.toNat) = [digit] := by
        rw [Nat.toDigits_of_lt_base small, printed]
      rw [Nat.ofDigitChars_append, Nat.ofDigitChars_cons, Nat.ofDigitChars_nil]
      by_cases alone : front = []
      · rw [alone, Nat.ofDigitChars_nil, Nat.mul_zero, Nat.zero_add, last, List.nil_append]
      · have head : front.head? ≠ some '0' := by
          rwa [List.head?_append_of_ne_nil _ alone] at first
        have whole := ih all.1 alone head
        have positive := ofDigitChars_pos head whole
        rw [← Nat.toDigits_append_toDigits (by decide) positive small, whole, last]

theorem toList_toString_neg (number : Nat) (positive : 0 < number) :
    (toString (-(number : Int))).toList = '-' :: Nat.toDigits 10 number := by
  obtain ⟨before, rfl⟩ := Nat.exists_eq_succ_of_ne_zero (Nat.pos_iff_ne_zero.mp positive)
  show ("-" ++ String.ofList (Nat.toDigits 10 before.succ)).toList = _
  rw [String.toList_append, String.toList_ofList, String.toList_ofList]
  rfl

theorem toList_toString_natCast (number : Nat) :
    (toString (number : Int)).toList = Nat.toDigits 10 number := by
  show (String.ofList (Nat.toDigits 10 number)).toList = _
  rw [String.toList_ofList]

/-- Sign and digits are assembled to what their integer is printed as. -/
theorem assemble_eq_toString (negative : Bool) (digits : List Char)
    (all : digits.all Char.isDigit) :
    assemble negative digits = (toString (if negative then -(Nat.ofDigitChars 10 digits 0 : Int)
      else (Nat.ofDigitChars 10 digits 0 : Int))).toList := by
  have start := List.head?_dropWhile_not (· = '0') digits
  have kept := isDigit_dropWhile all
  rw [← ofDigitChars_dropWhile, assemble]
  cases equal : digits.dropWhile (· = '0') with
  | nil => cases negative <;> rfl
  | cons first rest =>
      rw [equal] at start kept
      have nonzero : (first :: rest).head? ≠ some '0' := by
        intro zero
        simp_all
      have whole := toDigits_ofDigitChars (first :: rest) kept (List.cons_ne_nil first rest) nonzero
      cases negative with
      | false =>
          rw [if_neg Bool.false_ne_true, toList_toString_natCast, whole]
          rfl
      | true =>
          have positive := ofDigitChars_pos nonzero whole
          rw [if_pos rfl, toList_toString_neg _ positive, whole]
          rfl

theorem sign_cases (chars : List Char) :
    (sign chars).1 = true ∧ chars = '-' :: (sign chars).2 ∨
      (sign chars).1 = false ∧ (chars = (sign chars).2 ∨ chars = '+' :: (sign chars).2) := by
  unfold sign
  split
  · exact Or.inl ⟨rfl, rfl⟩
  · exact Or.inr ⟨rfl, Or.inr rfl⟩
  · exact Or.inr ⟨rfl, Or.inl rfl⟩

theorem toList_trim (body : String) : (Text.trim body).toList = Text.trimBlanks body.toList := by
  rw [Text.trim, String.toList_ofList]

theorem sign_of_denotes (body : String) (number : Int) (denotes : Denotes body number) :
    ∃ (negative : Bool) (digits : List Char),
      sign (Text.trimBlanks body.toList) = (negative, digits) ∧ digits ≠ [] ∧
      digits.all Char.isDigit ∧ number = if negative then -(Nat.ofDigitChars 10 digits 0 : Int)
        else (Nat.ofDigitChars 10 digits 0 : Int) := by
  obtain ⟨digits, long, all, read⟩ := denotes
  rw [toList_trim] at read
  rcases read with ⟨bare | plus, equal⟩ | ⟨minus, equal⟩
  · exact ⟨false, digits, by rw [bare, sign_digits digits all], long, all, equal⟩
  · exact ⟨false, digits, by rw [plus, sign], long, all, equal⟩
  · exact ⟨true, digits, by rw [minus, sign], long, all, equal⟩

/-- The canonical form of a text is its integer, printed. -/
theorem canonical?_of_denotes (body : String) (number : Int) (denotes : Denotes body number) :
    canonical? body.toList = some (toString number).toList := by
  obtain ⟨negative, digits, signed, long, all, value⟩ := sign_of_denotes body number denotes
  rw [canonical?, signed]
  dsimp only
  rw [if_pos ⟨long, all⟩, assemble_eq_toString negative digits all, value]

/-- Without an integer, there is no canonical form. -/
theorem denotes_of_canonical? (body : String) (id : List Char)
    (read : canonical? body.toList = some id) : ∃ number, Denotes body number := by
  have written := sign_cases (Text.trimBlanks body.toList)
  rw [canonical?] at read
  generalize sign (Text.trimBlanks body.toList) = parts at read written
  obtain ⟨negative, digits⟩ := parts
  dsimp only at read written
  split at read
  next numeral =>
    rw [← toList_trim] at written
    obtain ⟨-, minus⟩ | ⟨-, plain⟩ := written
    · exact ⟨_, digits, numeral.1, numeral.2, Or.inr ⟨minus, rfl⟩⟩
    · exact ⟨_, digits, numeral.1, numeral.2, Or.inl ⟨plain, rfl⟩⟩
  next => cases read

end SpokenMarkup.Numeral
