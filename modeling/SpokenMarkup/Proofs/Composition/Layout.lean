import Mathlib.Data.List.Infix
import SpokenMarkup.Composition.Layout

set_option autoImplicit false

namespace SpokenMarkup.Node

def margin (depth : Nat) : String :=
  String.join (List.replicate depth "  ")

def pointer : Option Path → String
  | none => ""
  | some file => " -> " ++ file.text

mutual

/-- The layout by recursion: one line for a leaf, and an opening and a closing line around the
children of a group or a filter. -/
def display (depth : Nat) : Node → String
  | group children target =>
    margin depth ++ "Group(" ++ pointer target ++ "\n" ++ displayAll (depth + 1) children ++
      margin depth ++ ")\n"
  | speech speaker text target =>
    margin depth ++ "Speech(" ++ speaker ++ ", " ++ text ++ ")" ++ pointer target ++ "\n"
  | effect id target => margin depth ++ "SoundEffect(" ++ id ++ ")" ++ pointer target ++ "\n"
  | filter id child target =>
    margin depth ++ "SoundFilter(" ++ id ++ "," ++ pointer target ++ "\n" ++
      display (depth + 1) child ++ margin depth ++ ")\n"

def displayAll (depth : Nat) : List Node → String
  | [] => ""
  | node :: rest => display depth node ++ displayAll depth rest

end

theorem toList_indent (depth : Nat) : (indent depth).toList = List.replicate (2 * depth) ' ' := by
  have spaces (count : Nat) : ("".pushn ' ' count).toList = List.replicate count ' ' := by
    induction count with
    | zero => rfl
    | succ count ih =>
        rw [List.replicate_succ', ← ih]
        exact String.toList_push ' '
  exact spaces (2 * depth)

theorem margin_eq_indent (depth : Nat) : margin depth = indent depth := by
  apply String.toList_injective
  rw [toList_indent]
  induction depth with
  | zero => rfl
  | succ depth ih =>
      rw [margin, List.replicate_succ, String.join_cons, String.toList_append, ← margin, ih,
        Nat.mul_succ, Nat.add_comm, List.replicate_add]
      rfl

theorem pointer_target (node : Node) : pointer node.target = node.arrow := by
  unfold arrow
  cases node.target <;> rfl

def displayBelow (depth : Nat) : Node → String
  | group children _ => displayAll (depth + 1) children ++ closingLine depth
  | filter _ child _ => display (depth + 1) child ++ closingLine depth
  | speech _ _ _ | effect _ _ => ""

theorem display_eq (depth : Nat) (node : Node) :
    node.display depth = node.line depth ++ node.displayBelow depth := by
  have arrow := node.pointer_target
  cases node with
  | group | speech | effect | filter =>
      rw [target] at arrow
      simp only [display, displayBelow, line, closingLine, heading, arrow, margin_eq_indent,
        String.append_assoc, String.append_empty]

def Pending.display : Pending → String
  | .node subtree depth => subtree.display depth
  | .closing depth => closingLine depth

theorem join_pendingBelow (node : Node) (depth : Nat) :
    String.join ((node.pendingBelow depth).map Pending.display) = node.displayBelow depth := by
  have all (children : List Node) :
      String.join ((children.map (Pending.node · (depth + 1))).map Pending.display) =
        displayAll (depth + 1) children := by
    induction children with
    | nil => rfl
    | cons child rest ih =>
        simp only [List.map_cons, String.join_cons, ih, displayAll, Pending.display]
  cases node with
  | group children target =>
      rw [pendingBelow, List.map_append, String.join_append, all, displayBelow]
      simp [Pending.display]
  | filter id child target => simp [pendingBelow, Pending.display, displayBelow]
  | speech | effect => rfl

/-- The lines of what is pending are those of the recursion, in the order of the list. -/
theorem join_lines (pending : List Pending) :
    String.join (lines pending) = String.join (pending.map Pending.display) := by
  fun_induction lines pending with
  | case1 => rfl
  | case2 pending depth ih => simp only [List.map_cons, String.join_cons, ih, Pending.display]
  | case3 pending node depth ih =>
      rw [String.join_cons, ih, List.map_append, String.join_append, join_pendingBelow,
        ← String.append_assoc, ← display_eq, List.map_cons, String.join_cons]
      rfl

theorem layout_eq_display (node : Node) : node.layout = node.display 0 := by
  rw [layout, join_lines, List.map_singleton, Pending.display]
  simp

mutual

/-- A tree without files, whose texts and ids are lines and whose speakers are not cut by a comma
and a space. -/
def IsPrintable : Node → Prop
  | group children target => target = none ∧ ArePrintable children
  | speech speaker text target =>
    target = none ∧ '\n' ∉ speaker.toList ∧ '\n' ∉ text.toList ∧ ¬[',', ' '] <:+: speaker.toList
  | effect id target => target = none ∧ '\n' ∉ id.toList
  | filter id child target => target = none ∧ '\n' ∉ id.toList ∧ IsPrintable child

def ArePrintable : List Node → Prop
  | [] => True
  | node :: rest => IsPrintable node ∧ ArePrintable rest

end

def alone : Node → Node
  | group _ target => group [] target
  | speech speaker text target => speech speaker text target
  | effect id target => effect id target
  | filter id _ target => filter id (group []) target

/-- What stands before the first of two equal characters is told by what they are part of. -/
theorem eq_of_first {c : Char} {left right rest other : List Char} (notLeft : c ∉ left)
    (notRight : c ∉ right) (same : left ++ c :: rest = right ++ c :: other) :
    left = right ∧ rest = other := by
  rcases List.append_eq_append_iff.mp same with ⟨between, rfl, tail⟩ | ⟨between, rfl, tail⟩
  · cases between with
    | nil => exact ⟨(List.append_nil left).symm, (List.cons.inj tail).2⟩
    | cons first others =>
        obtain ⟨rfl, -⟩ := List.cons.inj tail
        exact absurd (List.mem_append_right _ List.mem_cons_self) notRight
  · cases between with
    | nil => exact ⟨List.append_nil right, (List.cons.inj tail).2.symm⟩
    | cons first others =>
        obtain ⟨rfl, -⟩ := List.cons.inj tail
        exact absurd (List.mem_append_right _ List.mem_cons_self) notLeft

theorem eq_of_comma {left right rest other : List Char} (uncutLeft : ¬[',', ' '] <:+: left)
    (uncutRight : ¬[',', ' '] <:+: right)
    (same : left ++ ',' :: ' ' :: rest = right ++ ',' :: ' ' :: other) :
    left = right ∧ rest = other := by
  -- a longer speaker would hold a comma, or the comma and the space, of the shorter one
  have apart (short between rest other : List Char) (uncut : ¬[',', ' '] <:+: short ++ between)
      (tail : ',' :: ' ' :: rest = between ++ ',' :: ' ' :: other) :
      between = [] ∧ rest = other := by
    match between with
    | [] => exact ⟨rfl, (List.cons.inj (List.cons.inj tail).2).2⟩
    | [first] => simp at tail
    | first :: second :: others =>
        obtain ⟨rfl, later⟩ := List.cons.inj tail
        obtain ⟨rfl, -⟩ := List.cons.inj later
        exact absurd ⟨short, others, by simp⟩ uncut
  rcases List.append_eq_append_iff.mp same with ⟨between, rfl, tail⟩ | ⟨between, rfl, tail⟩
  · obtain ⟨rfl, rest⟩ := apart left between rest other uncutRight tail
    exact ⟨(List.append_nil left).symm, rest⟩
  · obtain ⟨rfl, rest⟩ := apart right between other rest uncutLeft tail
    exact ⟨List.append_nil right, rest.symm⟩

theorem IsPrintable.target_eq_none {node : Node} (printable : node.IsPrintable) :
    node.target = none := by
  cases node <;> exact printable.1

theorem IsPrintable.heading {node : Node} (printable : node.IsPrintable) :
    '\n' ∉ node.heading.toList := by
  cases node with
  | group children target => simp [Node.heading]
  | speech speaker text target => simp [Node.heading, printable.2.1, printable.2.2.1]
  | effect id target => simp [Node.heading, printable.2]
  | filter id child target => simp [Node.heading, printable.2.1]

/-- A heading tells all that there is to a node alone. -/
theorem alone_eq_of_heading {left right : Node} (printableLeft : left.IsPrintable)
    (printableRight : right.IsPrintable) (same : left.heading = right.heading) :
    left.alone = right.alone := by
  have unnamedLeft := printableLeft.target_eq_none
  have unnamedRight := printableRight.target_eq_none
  rw [← String.toList_inj] at same
  cases left with
  | group children target =>
      cases unnamedLeft
      cases right with
      | group => cases unnamedRight; rfl
      | speech | effect | filter => simp [heading] at same
  | speech speaker text target =>
      cases unnamedLeft
      cases right with
      | speech name said =>
          cases unnamedRight
          simp only [heading, String.toList_append, List.append_assoc] at same
          have inside := List.append_cancel_left same
          obtain ⟨speakers, texts⟩ := eq_of_comma printableLeft.2.2.2 printableRight.2.2.2 inside
          rw [String.toList_injective speakers,
            String.toList_injective (List.append_cancel_right texts)]
      | group | effect | filter => simp [heading] at same
  | effect id target =>
      cases unnamedLeft
      cases right with
      | effect number =>
          cases unnamedRight
          simp only [heading, String.toList_append, List.append_assoc] at same
          have inside := List.append_cancel_right (List.append_cancel_left same)
          rw [String.toList_injective inside]
      | group | speech | filter => simp [heading] at same
  | filter id child target =>
      cases unnamedLeft
      cases right with
      | filter name =>
          cases unnamedRight
          simp only [heading, String.toList_append, List.append_assoc] at same
          have inside := List.append_cancel_right (List.append_cancel_left same)
          rw [alone, alone, String.toList_injective inside]
      | group | speech | effect => simp [heading] at same

theorem toList_line {node : Node} (printable : node.IsPrintable) (depth : Nat) :
    (node.line depth).toList =
      List.replicate (2 * depth) ' ' ++ (node.heading.toList ++ ['\n']) := by
  rw [line, arrow, printable.target_eq_none]
  simp [toList_indent]

/-- Lines of one level, whatever comes after them, tell their nodes. -/
theorem alone_eq_of_line {left right : Node} (printableLeft : left.IsPrintable)
    (printableRight : right.IsPrintable) {depth : Nat} {rest other : List Char}
    (same : (left.line depth).toList ++ rest = (right.line depth).toList ++ other) :
    left.alone = right.alone ∧ rest = other := by
  rw [toList_line printableLeft, toList_line printableRight] at same
  simp only [List.append_assoc, List.singleton_append] at same
  obtain ⟨headings, rests⟩ :=
    eq_of_first printableLeft.heading printableRight.heading (List.append_cancel_left same)
  exact ⟨alone_eq_of_heading printableLeft printableRight (String.toList_injective headings), rests⟩

theorem line_ne_closingLine {node : Node} (printable : node.IsPrintable) (depth : Nat)
    (rest other : List Char) :
    (node.line (depth + 1)).toList ++ rest ≠ (closingLine depth).toList ++ other := by
  intro same
  rw [toList_line printable, Nat.mul_succ, List.replicate_add, closingLine, String.toList_append,
    toList_indent] at same
  simp only [List.append_assoc] at same
  have first := List.append_cancel_left same
  simp [List.replicate_succ] at first

mutual

/-- A tree is read off its layout, whatever comes after it. -/
theorem eq_of_display (left right : Node) (printableLeft : left.IsPrintable)
    (printableRight : right.IsPrintable) (depth : Nat) {rest other : List Char}
    (same : (left.display depth).toList ++ rest = (right.display depth).toList ++ other) :
    left = right ∧ rest = other := by
  rw [display_eq, display_eq, String.toList_append, String.toList_append, List.append_assoc,
    List.append_assoc] at same
  obtain ⟨equal, below⟩ := alone_eq_of_line printableLeft printableRight same
  cases left with
  | group children target =>
      cases right with
      | group others target =>
          obtain rfl := (Node.group.inj equal).2
          rw [displayBelow, displayBelow, String.toList_append, String.toList_append,
            List.append_assoc, List.append_assoc] at below
          obtain ⟨rfl, rests⟩ :=
            eq_of_displayAll children others printableLeft.2 printableRight.2 depth below
          exact ⟨rfl, rests⟩
      | speech | effect | filter => cases equal
  | speech speaker text target =>
      cases right with
      | speech =>
          obtain ⟨rfl, rfl, rfl⟩ := Node.speech.inj equal
          exact ⟨rfl, below⟩
      | group | effect | filter => cases equal
  | effect id target =>
      cases right with
      | effect =>
          obtain ⟨rfl, rfl⟩ := Node.effect.inj equal
          exact ⟨rfl, below⟩
      | group | speech | filter => cases equal
  | filter id child target =>
      cases right with
      | filter name inner target =>
          obtain ⟨rfl, -, rfl⟩ := Node.filter.inj equal
          rw [displayBelow, displayBelow, String.toList_append, String.toList_append,
            List.append_assoc, List.append_assoc] at below
          obtain ⟨rfl, rests⟩ :=
            eq_of_display child inner printableLeft.2.2 printableRight.2.2 (depth + 1) below
          exact ⟨rfl, List.append_cancel_left rests⟩
      | group | speech | effect => cases equal

theorem eq_of_displayAll (left right : List Node) (printableLeft : ArePrintable left)
    (printableRight : ArePrintable right) (depth : Nat) {rest other : List Char}
    (same : (displayAll (depth + 1) left).toList ++ ((closingLine depth).toList ++ rest) =
      (displayAll (depth + 1) right).toList ++ ((closingLine depth).toList ++ other)) :
    left = right ∧ rest = other := by
  cases left with
  | nil =>
      cases right with
      | nil => exact ⟨rfl, List.append_cancel_left same⟩
      | cons node others =>
          rw [displayAll, displayAll, display_eq, String.toList_append, String.toList_append,
            List.append_assoc, List.append_assoc] at same
          exact absurd same.symm (line_ne_closingLine printableRight.1 depth _ _)
  | cons node nodes =>
      cases right with
      | nil =>
          rw [displayAll, displayAll, display_eq, String.toList_append, String.toList_append,
            List.append_assoc, List.append_assoc] at same
          exact absurd same (line_ne_closingLine printableLeft.1 depth _ _)
      | cons other others =>
          rw [displayAll, displayAll, String.toList_append, String.toList_append,
            List.append_assoc, List.append_assoc] at same
          obtain ⟨rfl, later⟩ :=
            eq_of_display node other printableLeft.1 printableRight.1 (depth + 1) same
          obtain ⟨rfl, rests⟩ :=
            eq_of_displayAll nodes others printableLeft.2 printableRight.2 depth later
          exact ⟨rfl, rests⟩

end

/--
The layout of a tree is what the recursion displays from depth zero on. No two trees without files
have the same layout, as long as their speakers, texts and ids are lines and no speaker has a comma
with a space behind it.
-/
theorem layout_tells_tree :
    (∀ node : Node, node.layout = node.display 0) ∧
      ∀ left right : Node, left.IsPrintable → right.IsPrintable → left.layout = right.layout →
        left = right := by
  refine ⟨layout_eq_display, ?_⟩
  intro left right printableLeft printableRight same
  rw [layout_eq_display, layout_eq_display] at same
  have glued : (left.display 0).toList ++ [] = (right.display 0).toList ++ [] := by rw [same]
  exact (eq_of_display left right printableLeft printableRight 0 glued).1

/-- Texts that look like other nodes do not deceive. -/
theorem layout_tells_tree_of_lookalikes :
    let spoken := group [filter "1" (group [speech "a," "b), ", speech "" "SoundEffect(5)"])]
    let inserted := group [filter "1," (group [speech "a" ", b), "]), effect "5"]
    spoken.IsPrintable ∧ inserted.IsPrintable ∧ spoken.layout ≠ inserted.layout := by
  intro spoken inserted
  have printable : spoken.IsPrintable := by
    refine ⟨rfl, ⟨rfl, by decide, ⟨rfl, ⟨rfl, by decide, by decide, by decide⟩,
      ⟨rfl, by decide, by decide, by decide⟩, trivial⟩⟩, trivial⟩
  have printable' : inserted.IsPrintable := by
    refine ⟨rfl, ⟨rfl, by decide, ⟨rfl, ⟨rfl, by decide, by decide, by decide⟩, trivial⟩⟩,
      ⟨rfl, by decide⟩, trivial⟩
  refine ⟨printable, printable', ?_⟩
  intro same
  have equal := layout_tells_tree.2 spoken inserted printable printable' same
  exact absurd equal (by decide)

end SpokenMarkup.Node
