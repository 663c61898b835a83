import Mathlib.Data.List.DropRight
import SpokenMarkup.Markup.Numeral

set_option autoImplicit false

namespace SpokenMarkup

namespace Text

theorem trimBlanks_eq_rdropWhile (chars : List Char) :
    trimBlanks chars = (chars.dropWhile isBlank).rdropWhile isBlank :=
  rfl

/-- A text is trimmed already when no blank stands at either end of it. -/
theorem trimBlanks_eq_self (chars : List Char)
    (first : ∀ long : chars ≠ [], isBlank (chars.head long) = false)
    (last : ∀ long : chars ≠ [], isBlank (chars.getLast long) = false) :
    trimBlanks chars = chars := by
  have kept : chars.dropWhile isBlank = chars := by
    apply List.dropWhile_eq_self_iff.mpr
    intro long
    rw [← List.head_eq_getElem (List.ne_nil_of_length_pos long), first]
    exact Bool.false_ne_true
  rw [trimBlanks_eq_rdropWhile, kept]
  apply List.rdropWhile_eq_self_iff.mpr
  intro long
  rw [last long]
  exact Bool.false_ne_true

theorem trimBlanks_eq_of_not_blank (chars : List Char) (none : ∀ c ∈ chars, isBlank c = false) :
    trimBlanks chars = chars :=
  trimBlanks_eq_self chars (fun long => none _ (List.head_mem long))
    fun long => none _ (List.getLast_mem long)

theorem trimBlanks_subset (chars : List Char) : trimBlanks chars ⊆ chars :=
  ((List.rdropWhile_prefix isBlank _).sublist.trans (List.dropWhile_sublist isBlank)).subset

theorem trimBlanks_trimBlanks (chars : List Char) :
    trimBlanks (trimBlanks chars) = trimBlanks chars := by
  apply trimBlanks_eq_self
  · intro long
    have start : (trimBlanks chars).head long = _ :=
      (List.rdropWhile_prefix isBlank (chars.dropWhile isBlank)).head long
    rw [start]
    exact List.head_dropWhile_not isBlank _
  · intro long
    exact Bool.eq_false_iff.mpr (List.rdropWhile_last_not isBlank _ long)

theorem trim_trim (text : String) : trim (trim text) = trim text := by
  rw [trim, trim, String.toList_ofList, trimBlanks_trimBlanks]

end Text

namespace Numeral

/--
An integer as it is printed: zero, or digits of which the first is not zero, after a minus sign
when it is negative.
-/
def IsCanonical (id : List Char) : Prop :=
  id = ['0'] ∨ ∃ digits : List Char, (id = digits ∨ id = '-' :: digits) ∧
    digits.all Char.isDigit ∧ digits ≠ [] ∧ digits.head? ≠ some '0'

/-- Nothing but a sign and digits stands in a canonical form. -/
theorem minus_or_digit_of_mem (id : List Char) (canonical : IsCanonical id) :
    ∀ c ∈ id, c = '-' ∨ c.isDigit := by
  intro c member
  rcases canonical with zero | ⟨digits, written, all, -, -⟩
  · rw [zero, List.mem_singleton] at member
    exact Or.inr (member ▸ rfl)
  · rw [List.all_eq_true] at all
    rcases written with plus | minus
    · exact Or.inr (all c (plus ▸ member))
    · rw [minus] at member
      exact (List.mem_cons.mp member).imp_right (all c)

theorem isBlank_of_isDigit (c : Char) (digit : c.isDigit) : Text.isBlank c = false := by
  have bounds : 48 ≤ c.toNat ∧ c.toNat ≤ 57 := by
    simpa [Char.isDigit, UInt32.le_iff_toNat_le] using digit
  simp only [Text.isBlank, Text.blankRanges, List.any_cons, List.any_nil, Bool.or_false,
    Bool.or_eq_false_iff, Bool.and_eq_false_iff, decide_eq_false_iff_not]
  omega

theorem isDigit_dropWhile {digits : List Char} (all : digits.all Char.isDigit) :
    (digits.dropWhile (· = '0')).all Char.isDigit :=
  List.all_eq_true.mpr fun c member => List.all_eq_true.mp all c
    ((List.dropWhile_sublist _).subset member)

theorem isCanonical_assemble (negative : Bool) (digits : List Char)
    (all : digits.all Char.isDigit) : IsCanonical (assemble negative digits) := by
  have start := List.head?_dropWhile_not (· = '0') digits
  have kept := isDigit_dropWhile all
  rw [assemble]
  cases equal : digits.dropWhile (· = '0') with
  | nil => exact Or.inl rfl
  | cons first rest =>
      rw [equal] at start kept
      right
      refine ⟨first :: rest, ?_, kept, List.cons_ne_nil first rest, ?_⟩
      · cases negative with
        | true => exact Or.inr rfl
        | false => exact Or.inl rfl
      · intro zero
        simp_all

/-- A canonical form has no leading zeros to lose. -/
theorem assemble_eq (negative : Bool) (digits : List Char) (long : digits ≠ [])
    (first : digits.head? ≠ some '0') :
    assemble negative digits = if negative then '-' :: digits else digits := by
  have kept : digits.dropWhile (· = '0') = digits := by
    cases digits with
    | nil => rfl
    | cons digit rest =>
        have other : digit ≠ '0' := fun zero => first (congrArg some zero)
        exact List.dropWhile_cons_of_neg (by simpa using other)
  rw [assemble, kept]
  cases digits with
  | nil => contradiction
  | cons digit rest => rfl

theorem sign_digits (digits : List Char) (all : digits.all Char.isDigit) :
    sign digits = (false, digits) := by
  unfold sign
  split
  · simp at all
  · simp at all
  · rfl

theorem isCanonical_of_canonical? (body id : List Char) (read : canonical? body = some id) :
    IsCanonical id := by
  rw [canonical?] at read
  generalize sign (Text.trimBlanks body) = parts at read
  obtain ⟨negative, digits⟩ := parts
  dsimp only at read
  split at read
  · rename_i numeral
    cases read
    exact isCanonical_assemble negative digits numeral.2
  · cases read

theorem trimBlanks_canonical (id : List Char) (canonical : IsCanonical id) :
    Text.trimBlanks id = id := by
  apply Text.trimBlanks_eq_of_not_blank
  intro c member
  rcases minus_or_digit_of_mem id canonical c member with minus | digit
  · rw [minus]
    rfl
  · exact isBlank_of_isDigit c digit

/-- An integer in canonical form is read as itself. -/
theorem canonical?_eq_self (id : List Char) (canonical : IsCanonical id) :
    canonical? id = some id := by
  rw [canonical?, trimBlanks_canonical id canonical]
  rcases canonical with zero | ⟨digits, written, all, long, first⟩
  · rw [zero]
    rfl
  · rcases written with plus | minus
    · rw [plus, sign_digits digits all]
      simp [long, all, assemble_eq false digits long first]
    · rw [minus]
      simp [sign, long, all, assemble_eq true digits long first]

end Numeral

end SpokenMarkup
