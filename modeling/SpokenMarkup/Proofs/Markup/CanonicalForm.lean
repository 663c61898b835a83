import SpokenMarkup.Proofs.Markup.Integer

set_option autoImplicit false

namespace SpokenMarkup

namespace Text

theorem dropWhile_isBlank_append (before chars : List Char) (blank : before.all isBlank = true)
    (first : ∀ c ∈ chars.head?, isBlank c = false) :
    (before ++ chars).dropWhile isBlank = chars := by
  rw [List.dropWhile_append_of_pos (List.all_eq_true.mp blank)]
  cases chars with
  | nil => rfl
  | cons c rest =>
      apply List.dropWhile_cons_of_neg
      rw [first c rfl]
      exact Bool.false_ne_true

theorem trimBlanks_append (before chars after : List Char) (blankBefore : before.all isBlank = true)
    (blankAfter : after.all isBlank = true) (none : ∀ c ∈ chars, isBlank c = false)
    (long : chars ≠ []) : trimBlanks (before ++ chars ++ after) = chars := by
  have start : (before ++ (chars ++ after)).dropWhile isBlank = chars ++ after := by
    apply dropWhile_isBlank_append before _ blankBefore
    rw [List.head?_append_of_ne_nil _ long]
    exact fun c member => none c (List.mem_of_mem_head? member)
  have finish : (after.reverse ++ chars.reverse).dropWhile isBlank = chars.reverse := by
    apply dropWhile_isBlank_append _ _ (by rwa [List.all_reverse])
    exact fun c member => none c (List.mem_reverse.mp (List.mem_of_mem_head? member))
  rw [trimBlanks, List.append_assoc, start, List.reverse_append, finish, List.reverse_reverse]

theorem exists_blanks_trimBlanks (chars : List Char) :
    ∃ before after : List Char, chars = before ++ trimBlanks chars ++ after ∧
      before.all isBlank = true ∧ after.all isBlank = true := by
  refine ⟨chars.takeWhile isBlank, (chars.dropWhile isBlank).rtakeWhile isBlank, ?_, ?_, ?_⟩
  · rw [List.append_assoc, trimBlanks_eq_rdropWhile, List.rdropWhile_append_rtakeWhile,
      List.takeWhile_append_dropWhile]
  · exact List.all_takeWhile
  · rw [List.all_eq_true]
    intro c member
    exact List.mem_rtakeWhile_imp member

theorem trimBlanks_sublist (chars : List Char) : (trimBlanks chars).Sublist chars :=
  (List.rdropWhile_prefix isBlank _).sublist.trans (List.dropWhile_sublist isBlank)

end Text

namespace Numeral

/-- One optional sign and ASCII digits, with blanks around them and none in between. -/
def IsInteger (body : List Char) : Prop :=
  ∃ before sign digits after : List Char, body = before ++ (sign ++ digits) ++ after ∧
    before.all Text.isBlank = true ∧ after.all Text.isBlank = true ∧
    (sign = [] ∨ sign = ['+'] ∨ sign = ['-']) ∧ digits ≠ [] ∧ digits.all Char.isDigit = true

theorem isInteger_iff_trimBlanks (body : List Char) :
    IsInteger body ↔ ∃ sign digits : List Char, Text.trimBlanks body = sign ++ digits ∧
      (sign = [] ∨ sign = ['+'] ∨ sign = ['-']) ∧ digits ≠ [] ∧
      digits.all Char.isDigit = true := by
  constructor
  · rintro ⟨before, sign, digits, after, rfl, blankBefore, blankAfter, signed, long, all⟩
    have none : ∀ c ∈ sign ++ digits, Text.isBlank c = false := by
      intro c member
      rcases List.mem_append.mp member with inSign | inDigits
      · rcases signed with rfl | rfl | rfl
        · cases inSign
        · rw [List.mem_singleton.mp inSign]
          rfl
        · rw [List.mem_singleton.mp inSign]
          rfl
      · exact isBlank_of_isDigit c (List.all_eq_true.mp all c inDigits)
    have some : sign ++ digits ≠ [] := List.append_ne_nil_of_right_ne_nil sign long
    exact ⟨sign, digits, Text.trimBlanks_append _ _ _ blankBefore blankAfter none some, signed,
      long, all⟩
  · rintro ⟨sign, digits, trimmed, written⟩
    obtain ⟨before, after, whole, blankBefore, blankAfter⟩ := Text.exists_blanks_trimBlanks body
    exact ⟨before, sign, digits, after, trimmed ▸ whole, blankBefore, blankAfter, written⟩

theorem isInteger_iff_denotes (body : String) :
    IsInteger body.toList ↔ ∃ number, Denotes body number := by
  rw [isInteger_iff_trimBlanks, ← toList_trim]
  constructor
  · rintro ⟨sign, digits, written, rfl | rfl | rfl, long, all⟩
    · exact ⟨_, digits, long, all, Or.inl ⟨Or.inl written, rfl⟩⟩
    · exact ⟨_, digits, long, all, Or.inl ⟨Or.inr written, rfl⟩⟩
    · exact ⟨_, digits, long, all, Or.inr ⟨written, rfl⟩⟩
  · rintro ⟨number, digits, long, all, ⟨bare | plus, -⟩ | ⟨minus, -⟩⟩
    · exact ⟨[], digits, bare, Or.inl rfl, long, all⟩
    · exact ⟨['+'], digits, plus, Or.inr (Or.inl rfl), long, all⟩
    · exact ⟨['-'], digits, minus, Or.inr (Or.inr rfl), long, all⟩

/-- A text of the integer that is shorter than all its other texts. -/
structure IsShortest (numeral : String) (number : Int) : Prop where
  denotes : Denotes numeral number
  length_lt : ∀ text, Denotes text number → text ≠ numeral → numeral.length < text.length

/-- Of the digits, zeros in front are left out, but for the last one of several zeros. -/
theorem assemble_sublist (negative : Bool) (digits : List Char) (long : digits ≠ []) :
    (assemble negative digits).Sublist (if negative then '-' :: digits else digits) := by
  have significant : (digits.dropWhile (· = '0')).Sublist digits := List.dropWhile_sublist _
  rw [assemble]
  cases equal : digits.dropWhile (· = '0') with
  | nil =>
      have zeros := List.dropWhile_eq_nil_iff.mp equal
      have first := List.head_mem long
      have zero : '0' ∈ digits := by
        have same : digits.head long = '0' := by simpa using zeros _ first
        rwa [same] at first
      have single := List.singleton_sublist.mpr zero
      cases negative with
      | true => exact single.cons '-'
      | false => exact single
  | cons first rest =>
      rw [equal] at significant
      cases negative with
      | true => exact significant.cons_cons '-'
      | false => exact significant

/-- A canonical form comes of its text by leaving characters out. -/
theorem canonical?_sublist (body id : List Char) (read : canonical? body = some id) :
    id.Sublist body := by
  have written := sign_cases (Text.trimBlanks body)
  rw [canonical?] at read
  generalize sign (Text.trimBlanks body) = parts at read written
  obtain ⟨negative, digits⟩ := parts
  dsimp only at read written
  split at read
  next numeral =>
    cases read
    have kept := assemble_sublist negative digits numeral.1
    have inside : (if negative then '-' :: digits else digits).Sublist
        (Text.trimBlanks body) := by
      obtain ⟨rfl, minus⟩ | ⟨rfl, bare | plus⟩ := written
      · rw [minus]
        exact List.Sublist.refl _
      · rw [bare]
        exact List.Sublist.refl _
      · rw [plus]
        exact List.sublist_cons_self '+' digits
    exact (kept.trans inside).trans (Text.trimBlanks_sublist body)
  next => cases read

theorem denotes_unique {body : String} {number another : Int} (denotes : Denotes body number)
    (denotesToo : Denotes body another) : number = another := by
  obtain ⟨negative, digits, signed, -, -, rfl⟩ := sign_of_denotes body number denotes
  obtain ⟨negativeToo, digitsToo, signedToo, -, -, rfl⟩ := sign_of_denotes body another denotesToo
  obtain ⟨rfl, rfl⟩ := Prod.mk.inj (signed.symm.trans signedToo)
  rfl

theorem denotes_toString (number : Int) : Denotes (toString number) number := by
  have natural (value : Nat) : Nat.toDigits 10 value ≠ [] ∧
      (Nat.toDigits 10 value).all Char.isDigit = true := by
    refine ⟨Nat.toDigits_ne_nil, List.all_eq_true.mpr fun c member => ?_⟩
    exact Nat.isDigit_of_mem_toDigits (by decide) (by decide) member
  have solid (value : Nat) : ∀ c ∈ Nat.toDigits 10 value, Text.isBlank c = false :=
    fun c member => isBlank_of_isDigit c (List.all_eq_true.mp (natural value).2 c member)
  cases number with
  | ofNat value =>
      refine ⟨Nat.toDigits 10 value, (natural value).1, (natural value).2, Or.inl ⟨Or.inl ?_, ?_⟩⟩
      · rw [toList_trim]
        change Text.trimBlanks (toString (value : Int)).toList = _
        rw [toList_toString_natCast, Text.trimBlanks_eq_of_not_blank _ (solid value)]
      · rw [Nat.ofDigitChars_ten_toDigits]
        rfl
  | negSucc value =>
      refine ⟨Nat.toDigits 10 (value + 1), (natural _).1, (natural _).2, Or.inr ⟨?_, ?_⟩⟩
      · rw [toList_trim]
        change Text.trimBlanks (toString (-((value + 1 : Nat) : Int))).toList = _
        rw [toList_toString_neg _ (Nat.succ_pos value)]
        apply Text.trimBlanks_eq_of_not_blank
        exact List.forall_mem_cons.mpr ⟨rfl, solid _⟩
      · rw [Nat.ofDigitChars_ten_toDigits]
        rfl

theorem isShortest_toString (number : Int) : IsShortest (toString number) number where
  denotes := denotes_toString number
  length_lt text denotes other := by
    have left := canonical?_sublist _ _ (canonical?_of_denotes text number denotes)
    have unequal : (toString number).toList ≠ text.toList :=
      fun same => other (String.toList_injective same).symm
    rw [← String.length_toList, ← String.length_toList]
    exact Nat.lt_of_le_of_ne left.length_le fun same => unequal (left.eq_of_length same)

/-- A canonical form has no plus sign, and no zero in front of other digits or behind a sign. -/
theorem IsCanonical.unadorned {id : List Char} (canonical : IsCanonical id) :
    '+' ∉ id ∧ (∀ rest, id = '0' :: rest → rest = []) ∧ ∀ rest, id ≠ '-' :: '0' :: rest := by
  refine ⟨fun member => ?_, fun rest zero => ?_, fun rest minus => ?_⟩
  · rcases minus_or_digit_of_mem id canonical '+' member with minus | digit
    · exact absurd minus (by decide)
    · exact absurd digit (by decide)
  · rcases canonical with single | ⟨digits, rfl | rfl, -, -, first⟩
    · rw [zero] at single
      exact (List.cons.inj single).2
    · rw [zero] at first
      exact absurd rfl first
    · exact absurd (List.cons.inj zero).1 (by decide)
  · rcases canonical with single | ⟨digits, rfl | rfl, all, -, first⟩
    · rw [minus] at single
      exact absurd (List.cons.inj single).1 (by decide)
    · rw [minus, List.all_cons, Bool.and_eq_true] at all
      exact absurd all.1 (by decide)
    · rw [(List.cons.inj minus).2] at first
      exact absurd rfl first

/--
A text has a canonical form just when it is an integer: one optional sign and ASCII digits, with
blanks around them. The canonical form is the shortest text of that integer, which is the integer
as it is printed, without a plus sign, zeros in front or a negative zero. It is its own canonical
form, and two texts have the same one just when their integers are the same.
-/
theorem canonical?_of_integers :
    (∀ body : String, (∃ id, canonical? body.toList = some id) ↔ IsInteger body.toList) ∧
    (∀ body id : String, canonical? body.toList = some id.toList →
      (∃ number, Denotes body number ∧ IsShortest id number ∧ id = toString number) ∧
      '+' ∉ id.toList ∧ (∀ rest, id.toList = '0' :: rest → id = "0") ∧
      (∀ rest, id.toList ≠ '-' :: '0' :: rest) ∧
      canonical? id.toList = some id.toList) ∧
    (∀ (first second id other : String) (number another : Int),
      canonical? first.toList = some id.toList → canonical? second.toList = some other.toList →
      Denotes first number → Denotes second another → (id = other ↔ number = another)) := by
  have printed {body id : String} {number : Int} (read : canonical? body.toList = some id.toList)
      (denotes : Denotes body number) : id = toString number := by
    rw [canonical?_of_denotes body number denotes] at read
    exact String.toList_injective (Option.some.inj read).symm
  refine ⟨?_, ?_, ?_⟩
  · intro body
    rw [isInteger_iff_denotes]
    constructor
    · rintro ⟨id, read⟩
      exact denotes_of_canonical? body id read
    · rintro ⟨number, denotes⟩
      exact ⟨_, canonical?_of_denotes body number denotes⟩
  · intro body id read
    have canonical := isCanonical_of_canonical? body.toList id.toList read
    obtain ⟨number, denotes⟩ := denotes_of_canonical? body id.toList read
    obtain ⟨noPlus, zero, noMinusZero⟩ := canonical.unadorned
    refine ⟨⟨number, denotes, ?_, printed read denotes⟩, noPlus, ?_, noMinusZero,
      canonical?_eq_self id.toList canonical⟩
    · rw [printed read denotes]
      exact isShortest_toString number
    · intro rest leading
      apply String.toList_injective
      rw [leading, zero rest leading]
      rfl
  · intro first second id other number another readFirst readSecond denotes denotesToo
    rw [printed readFirst denotes, printed readSecond denotesToo]
    constructor
    · intro same
      exact denotes_unique (denotes_toString number) (same ▸ denotes_toString another)
    · intro same
      rw [same]

/-- Blanks of any kind, a sign and zeros make no difference; two signs are one too many. -/
theorem canonical?_of_integers_minus_seven :
    canonical? "\u3000-007\n".toList = some "-7".toList ∧
      canonical? "-7".toList = some "-7".toList ∧
      IsShortest "-7" (-7) ∧ ¬∃ id, canonical? "+-7".toList = some id := by
  obtain ⟨-, shapes, tells⟩ := canonical?_of_integers
  have read : canonical? "\u3000-007\n".toList = some "-7".toList := by decide
  have seven : Denotes "\u3000-007\n" (-7) :=
    ⟨['0', '0', '7'], by decide, by decide, Or.inr ⟨by decide, by decide⟩⟩
  obtain ⟨⟨number, denotes, shortest, -⟩, -, -, -, again⟩ := shapes _ _ read
  obtain rfl := (tells _ _ _ _ _ _ read read denotes seven).mp rfl
  refine ⟨read, again, shortest, fun accepted => ?_⟩
  obtain ⟨id, form⟩ := accepted
  cases form

end Numeral

end SpokenMarkup
