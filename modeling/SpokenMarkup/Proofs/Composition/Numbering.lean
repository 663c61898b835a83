import SpokenMarkup.Composition.Numbering
import SpokenMarkup.Proofs.Disk.Folder

set_option autoImplicit false

namespace SpokenMarkup

def numberedName (number : Nat) : String :=
  zeroPadded 3 number ++ ".wav"

theorem numberedFile_eq_join (dir : Path) (number : Nat) :
    numberedFile dir number = dir.join (numberedName number) := rfl

theorem toList_zeroPadded (width number : Nat) :
    (zeroPadded width number).toList =
      List.replicate (width - (Nat.toDigits 10 number).length) '0' ++ Nat.toDigits 10 number := by
  simp [zeroPadded]

theorem isDigit_of_mem_zeroPadded (width number : Nat) (c : Char)
    (member : c ∈ (zeroPadded width number).toList) : c.isDigit = true := by
  rw [toList_zeroPadded, List.mem_append] at member
  rcases member with zero | digit
  · rw [List.eq_of_mem_replicate zero]
    rfl
  · exact Nat.isDigit_of_mem_toDigits (by decide) (by decide) digit

/-- The zeros in front do not change what the digits stand for. -/
theorem ofDigitChars_zeroPadded (width number : Nat) :
    Nat.ofDigitChars 10 (zeroPadded width number).toList 0 = number := by
  rw [toList_zeroPadded, Nat.ofDigitChars_append, Nat.ofDigitChars_replicate_zero, Nat.mul_zero,
    Nat.ofDigitChars_ten_toDigits]

theorem zeroPadded_injective (width : Nat) {first second : Nat}
    (equal : zeroPadded width first = zeroPadded width second) : first = second := by
  rw [← ofDigitChars_zeroPadded width first, equal, ofDigitChars_zeroPadded]

theorem numberedName_injective {first second : Nat}
    (equal : numberedName first = numberedName second) : first = second := by
  have chars := congrArg String.toList equal
  simp only [numberedName, String.toList_append] at chars
  exact zeroPadded_injective 3 (String.toList_injective (List.append_cancel_right chars))

theorem isPlainName_numberedName (number : Nat) :
    Path.isPlainName (numberedName number) = true := by
  have long : 4 ≤ (numberedName number).toList.length := by
    simp [numberedName]
  have letters : ∀ c ∈ (numberedName number).toList,
      c.isDigit = true ∨ c ∈ ['.', 'w', 'a', 'v'] := by
    intro c member
    simp only [numberedName, String.toList_append, List.mem_append] at member
    rcases member with digit | letter
    · exact Or.inl (isDigit_of_mem_zeroPadded 3 number c digit)
    · exact Or.inr letter
  apply Path.isPlainName_of_length _ (by omega)
  all_goals
    intro member
    rcases letters _ member with digit | letter
    · exact absurd digit (by decide)
    · exact absurd letter (by decide)

namespace Node

mutual

def size : Node → Nat
  | group children _ => 1 + sizeAll children
  | speech _ _ _ | effect _ _ => 1
  | filter _ child _ => 1 + size child

def sizeAll : List Node → Nat
  | [] => 0
  | node :: rest => size node + sizeAll rest

end

mutual

/-- Numbering by recursion: a node, and then those below it from left to right. -/
def numberFrom (dir : Path) (number : Nat) : Node → Node × Nat
  | group children _ =>
    let (children, next) := numberAllFrom dir (number + 1) children
    (group children (numberedFile dir number), next)
  | speech speaker text _ => (speech speaker text (numberedFile dir number), number + 1)
  | effect id _ => (effect id (numberedFile dir number), number + 1)
  | filter id child _ =>
    let (child, next) := numberFrom dir (number + 1) child
    (filter id child (numberedFile dir number), next)

def numberAllFrom (dir : Path) (number : Nat) : List Node → List Node × Nat
  | [] => ([], number)
  | node :: rest =>
    let (node, next) := numberFrom dir number node
    let (rest, last) := numberAllFrom dir next rest
    (node :: rest, last)

end

mutual

theorem numberFrom_snd (dir : Path) (number : Nat) (node : Node) :
    (node.numberFrom dir number).2 = number + node.size := by
  cases node with
  | group children target =>
      simp only [numberFrom, size]
      rw [numberAllFrom_snd dir (number + 1) children, Nat.add_assoc]
  | speech speaker text target => rfl
  | effect id target => rfl
  | filter id child target =>
      simp only [numberFrom, size]
      rw [numberFrom_snd dir (number + 1) child, Nat.add_assoc]

theorem numberAllFrom_snd (dir : Path) (number : Nat) (nodes : List Node) :
    (numberAllFrom dir number nodes).2 = number + sizeAll nodes := by
  cases nodes with
  | nil => rfl
  | cons node rest =>
      simp only [numberAllFrom, sizeAll]
      rw [numberAllFrom_snd, numberFrom_snd dir number node, Nat.add_assoc]

end

theorem size_pos (node : Node) : 0 < node.size := by
  cases node <;> simp only [size] <;> omega

theorem numberFrom_eq (dir : Path) (number : Nat) (node : Node) :
    node.numberFrom dir number =
      ((node.withTarget (numberedFile dir number)).withChildren
          (numberAllFrom dir (number + 1) node.children).1,
        (numberAllFrom dir (number + 1) node.children).2) := by
  cases node <;> rfl

theorem numberAllFrom_append (dir : Path) (number : Nat) (front back : List Node) :
    numberAllFrom dir number (front ++ back) =
      ((numberAllFrom dir number front).1 ++
          (numberAllFrom dir (numberAllFrom dir number front).2 back).1,
        (numberAllFrom dir (numberAllFrom dir number front).2 back).2) := by
  induction front generalizing number with
  | nil => rfl
  | cons node rest ih =>
      simp only [List.cons_append, numberAllFrom]
      rw [ih]

theorem length_numberAllFrom (dir : Path) (number : Nat) (nodes : List Node) :
    (numberAllFrom dir number nodes).1.length = nodes.length := by
  induction nodes generalizing number with
  | nil => rfl
  | cons node rest ih => simp only [numberAllFrom, List.length_cons, ih]

/-- The nodes below a node are numbered before those that lie under it on the stack, so the stack
keeps the order of the recursion. -/
theorem assign_eq_numberAllFrom (dir : Path) (number : Nat) (stack : List Node) :
    assign dir number stack = numberAllFrom dir number stack := by
  fun_induction assign dir number stack with
  | case1 number => rfl
  | case2 number node stack count named next assigned numbered ih =>
      rw [assigned, pushAll_eq, List.reverse_reverse, numberAllFrom_append] at ih
      obtain ⟨rfl, rfl⟩ := Prod.mk.inj ih
      have below : (numberAllFrom dir (number + 1) node.children).1.length = count :=
        length_numberAllFrom dir (number + 1) node.children
      rw [numberAllFrom, numberFrom_eq]
      simp only [numbered, List.take_left' below, List.drop_left' below]

theorem assignNames_eq_numberFrom (node : Node) (dir : Path) (start : Nat) :
    node.assignNames dir start = node.numberFrom dir start := by
  rw [assignNames, assign_eq_numberAllFrom]
  rfl

theorem number_eq_numberFrom (node : Node) (dir : Path) (start : Nat) :
    node.number dir start = (node.numberFrom dir start).1 := by
  rw [number, assignNames_eq_numberFrom]

end Node

end SpokenMarkup
