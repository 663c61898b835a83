import SpokenMarkup.Composition.Scopes
import SpokenMarkup.Proofs.Composition.NormalForm
import SpokenMarkup.Proofs.Markup.Lexing

set_option autoImplicit false

namespace SpokenMarkup

/-- Text that is left when a speech is trimmed: not blank, trimmed already, and plain. -/
def IsSpoken (text : String) : Prop :=
  text ≠ "" ∧ Text.trim text = text ∧ IsPlain text.toList

/-- Who speaks in a tree, what is said, and the fewest children of a group below the root. -/
structure Rules where
  speaks : String → Prop
  spoken : String → Prop
  fewest : Nat

def Rules.raw (speaks : String → Prop) : Rules :=
  ⟨speaks, (IsPlain ·.toList), 0⟩

def Rules.normal (speaks : String → Prop) : Rules :=
  ⟨speaks, IsSpoken, 2⟩

namespace Node

mutual

/-- A subtree below the root, without files, keeps the rules. -/
def Keeps (rules : Rules) : Node → Prop
  | group children target =>
    target = none ∧ rules.fewest ≤ children.length ∧ KeepAll rules children
  | speech speaker text target => target = none ∧ rules.speaks speaker ∧ rules.spoken text
  | effect id target => target = none ∧ Numeral.IsCanonical id.toList
  | filter id child target => target = none ∧ IsFilterId id.toList ∧ Keeps rules child

def KeepAll (rules : Rules) : List Node → Prop
  | [] => True
  | node :: rest => (node.isGroup = false ∧ Keeps rules node) ∧ KeepAll rules rest

end

mutual

def filterDepth : Node → Nat
  | group children _ => filterDepthAll children
  | speech _ _ _ | effect _ _ => 0
  | filter _ child _ => filterDepth child + 1

def filterDepthAll : List Node → Nat
  | [] => 0
  | node :: rest => max (filterDepth node) (filterDepthAll rest)

end

mutual

def height : Node → Nat
  | group children _ => heightAll children + 1
  | speech _ _ _ | effect _ _ => 1
  | filter _ child _ => height child + 1

def heightAll : List Node → Nat
  | [] => 0
  | node :: rest => max (height node) (heightAll rest)

end

/--
A normal tree: a group without a file, below it no group among the children of a group and no group
of fewer than two, and no path through more than 256 filters.
-/
structure IsNormal (speaks : String → Prop) (root : Node) : Prop where
  isGroup : root.isGroup = true
  unnamed : root.target = none
  keepAll : KeepAll (.normal speaks) root.children
  shallow : root.filterDepth ≤ 256

variable {rules : Rules} {speaks : String → Prop}

theorem keepAll_iff (nodes : List Node) :
    KeepAll rules nodes ↔ ∀ node ∈ nodes, node.isGroup = false ∧ Keeps rules node := by
  induction nodes with
  | nil => simp [KeepAll]
  | cons node rest ih => rw [KeepAll, ih, List.forall_mem_cons]

theorem filterDepthAll_le_iff (nodes : List Node) (bound : Nat) :
    filterDepthAll nodes ≤ bound ↔ ∀ node ∈ nodes, node.filterDepth ≤ bound := by
  induction nodes with
  | nil => simp [filterDepthAll]
  | cons node rest ih => rw [filterDepthAll, Nat.max_le, ih, List.forall_mem_cons]

theorem filterDepth_le_of_mem (nodes : List Node) (node : Node) (member : node ∈ nodes) :
    node.filterDepth ≤ filterDepthAll nodes :=
  (filterDepthAll_le_iff nodes _).mp (Nat.le_refl _) node member

theorem settleAll_append (left right : List Node) :
    settleAll (left ++ right) = settleAll left ++ settleAll right := by
  simp only [settleAll_eq_filterMap, List.map_append, List.filterMap_append]

theorem keeps_regroup (nodes : List Node) (all : KeepAll (.normal speaks) nodes) :
    ∀ kept ∈ Normalizer.regroup false nodes,
      Keeps (.normal speaks) kept ∧ kept.filterDepth ≤ filterDepthAll nodes := by
  intro kept found
  match nodes with
  | [] => cases found
  | [only] =>
      cases found
      exact ⟨all.1.2, filterDepth_le_of_mem [kept] kept (List.mem_singleton_self kept)⟩
  | first :: second :: others =>
      cases found
      refine ⟨⟨rfl, ?_, all⟩, Nat.le_refl _⟩
      simp [Rules.normal]

mutual

/-- A raw subtree settles to a normal one, no deeper, and to a group only if it was one. -/
theorem keeps_settle (node : Node) (raw : Keeps (.raw speaks) node) :
    ∀ kept ∈ node.settle false, Keeps (.normal speaks) kept ∧
      kept.filterDepth ≤ node.filterDepth ∧ (node.isGroup = false → kept.isGroup = false) := by
  intro kept found
  cases node with
  | group children target =>
      have below := keepAll_settleAll children raw.2.2
      have whole := keeps_regroup _ below.1 kept found
      exact ⟨whole.1, Nat.le_trans whole.2 below.2, nofun⟩
  | speech speaker text target =>
      rw [settle] at found
      by_cases blank : Text.trim text = ""
      · rw [if_pos blank] at found
        cases found
      · rw [if_neg blank] at found
        cases found
        refine ⟨⟨rfl, raw.2.1, blank, Text.trim_trim text, ?_⟩, Nat.le_refl 0, fun _ => rfl⟩
        rw [Text.trim, String.toList_ofList]
        exact IsPlain.of_subset raw.2.2 (Text.trimBlanks_subset text.toList)
  | effect id target =>
      cases found
      exact ⟨⟨rfl, raw.2⟩, Nat.le_refl 0, fun _ => rfl⟩
  | filter id child target =>
      rw [settle, Option.mem_def, Option.map_eq_some_iff] at found
      rcases found with ⟨inner, settled, rfl⟩
      have below := keeps_settle child raw.2.2 inner settled
      exact ⟨⟨rfl, raw.2.1, below.1⟩, Nat.succ_le_succ below.2.1, fun _ => rfl⟩

theorem keepAll_settleAll (nodes : List Node) (raw : KeepAll (.raw speaks) nodes) :
    KeepAll (.normal speaks) (settleAll nodes) ∧
      filterDepthAll (settleAll nodes) ≤ filterDepthAll nodes := by
  cases nodes with
  | nil => exact ⟨trivial, Nat.le_refl 0⟩
  | cons node rest =>
      have here := keeps_settle node raw.1.2
      have others := keepAll_settleAll rest raw.2
      rw [settleAll]
      cases settled : node.settle false with
      | none => exact ⟨others.1, Nat.le_trans others.2 (Nat.le_max_right ..)⟩
      | some kept =>
          have first := here kept settled
          refine ⟨⟨⟨first.2.2 raw.1.1, first.1⟩, others.1⟩, ?_⟩
          have := first.2.1
          have := others.2
          simp only [Option.toList_some, List.singleton_append, filterDepthAll]
          omega

end

theorem asRoot_regroup (nodes : List Node) :
    asRoot (Normalizer.regroup true nodes) = group nodes := by
  match nodes with
  | [] => rfl
  | [only] => rfl
  | first :: second :: others => rfl

theorem normalizeRoot_group (children : List Node) (target : Option Path) :
    (group children target).normalizeRoot = group (settleAll children) := by
  rw [normalizeRoot_eq_asRoot, settle, asRoot_regroup]

theorem isNormal_normalizeRoot (children : List Node) (raw : KeepAll (.raw speaks) children)
    (shallow : filterDepthAll children ≤ 256) :
    (group children).normalizeRoot.IsNormal speaks := by
  have settled := keepAll_settleAll children raw
  rw [normalizeRoot_group]
  exact ⟨rfl, rfl, settled.1, Nat.le_trans settled.2 shallow⟩

mutual

/-- Between two filters on a path, and below the last one, there is at most one group. -/
theorem height_le (node : Node) (keeps : Keeps rules node) :
    node.height ≤ 2 * node.filterDepth + (if node.isGroup then 2 else 1) := by
  cases node with
  | group children target =>
      have below := heightAll_le children keeps.2.2
      simp only [height, filterDepth, isGroup, if_true]
      omega
  | speech speaker text target => exact Nat.le_refl 1
  | effect id target => exact Nat.le_refl 1
  | filter id child target =>
      have below := height_le child keeps.2.2
      have level : (if child.isGroup = true then 2 else 1) ≤ 2 := by
        split <;> decide
      simp only [height, filterDepth, isGroup, Bool.false_eq_true, if_false]
      omega

theorem heightAll_le (nodes : List Node) (keep : KeepAll rules nodes) :
    heightAll nodes ≤ 2 * filterDepthAll nodes + 1 := by
  cases nodes with
  | nil => exact Nat.zero_le _
  | cons node rest =>
      have here := height_le node keep.1.2
      have others := heightAll_le rest keep.2
      rw [keep.1.1] at here
      simp only [heightAll, filterDepthAll, Bool.false_eq_true, if_false] at here ⊢
      omega

end

theorem IsNormal.eq_group {root : Node} (normal : root.IsNormal speaks) :
    root = group root.children := by
  have unnamed := normal.unnamed
  have isGroup := normal.isGroup
  cases root with
  | group children target => rw [show target = none from unnamed, Node.children]
  | speech | effect | filter => cases isGroup

theorem IsNormal.height_le {root : Node} (normal : root.IsNormal speaks) : root.height ≤ 514 := by
  have below := heightAll_le root.children normal.keepAll
  have shallow := normal.shallow
  rw [normal.eq_group] at shallow ⊢
  simp only [filterDepth, height, children] at shallow below ⊢
  omega

end Node

end SpokenMarkup
