import SpokenMarkup.Proofs.Composition.Numbering
import SpokenMarkup.Proofs.Disk.Ancestry

set_option autoImplicit false

namespace SpokenMarkup.Node

mutual

/-- All nodes of a tree by recursion: a node, and then those of its children from left to right. -/
def preorder : Node → List Node
  | group children target => group children target :: preorderAll children
  | speech speaker text target => [speech speaker text target]
  | effect id target => [effect id target]
  | filter id child target => filter id child target :: preorder child

def preorderAll : List Node → List Node
  | [] => []
  | node :: rest => preorder node ++ preorderAll rest

end

mutual

def bare : Node → Node
  | group children _ => group (bareAll children)
  | speech speaker text _ => speech speaker text
  | effect id _ => effect id
  | filter id child _ => filter id (bare child)

def bareAll : List Node → List Node
  | [] => []
  | node :: rest => bare node :: bareAll rest

end

theorem preorderAll_append (left right : List Node) :
    preorderAll (left ++ right) = preorderAll left ++ preorderAll right := by
  induction left with
  | nil => rfl
  | cons node rest ih => simp only [List.cons_append, preorderAll, ih, List.append_assoc]

theorem preorder_eq_cons (node : Node) : node.preorder = node :: preorderAll node.children := by
  cases node with
  | group children target => rfl
  | speech speaker text target => rfl
  | effect id target => rfl
  | filter id child target => simp only [preorder, children, preorderAll, List.append_nil]

/-- The list of pending subtrees keeps the order of the recursion. -/
theorem visit_eq_preorderAll (pending : List Node) : visit pending = preorderAll pending := by
  fun_induction visit pending with
  | case1 => rfl
  | case2 node pending ih =>
      rw [ih, preorderAll_append, preorderAll, preorder_eq_cons, List.cons_append]

theorem toList_eq_preorder (node : Node) : node.toList = node.preorder := by
  rw [toList, visit_eq_preorderAll, preorderAll, preorderAll, List.append_nil]

mutual

theorem length_preorder (node : Node) : node.preorder.length = node.size := by
  cases node with
  | group children target =>
      have below := length_preorderAll children
      simp only [preorder, size, List.length_cons]
      omega
  | speech speaker text target => rfl
  | effect id target => rfl
  | filter id child target =>
      have below := length_preorder child
      simp only [preorder, size, List.length_cons]
      omega

theorem length_preorderAll (nodes : List Node) : (preorderAll nodes).length = sizeAll nodes := by
  cases nodes with
  | nil => rfl
  | cons node rest =>
      simp only [preorderAll, sizeAll, List.length_append, length_preorder node,
        length_preorderAll rest]

end

mutual

theorem bare_numberFrom (dir : Path) (number : Nat) (node : Node) :
    (node.numberFrom dir number).1.bare = node.bare := by
  cases node with
  | group children target => simp only [numberFrom, bare, bareAll_numberAllFrom]
  | speech speaker text target => rfl
  | effect id target => rfl
  | filter id child target => simp only [numberFrom, bare, bare_numberFrom dir (number + 1) child]

theorem bareAll_numberAllFrom (dir : Path) (number : Nat) (nodes : List Node) :
    bareAll (numberAllFrom dir number nodes).1 = bareAll nodes := by
  cases nodes with
  | nil => rfl
  | cons node rest =>
      simp only [numberAllFrom, bareAll, bare_numberFrom dir number node, bareAll_numberAllFrom]

end

mutual

theorem bare_of_unnamed (node : Node) (unnamed : ∀ inner ∈ node.preorder, inner.target = none) :
    node.bare = node := by
  cases node with
  | group children target =>
      obtain rfl : target = none := unnamed _ List.mem_cons_self
      have below := bareAll_of_unnamed children fun inner member =>
        unnamed inner (List.mem_cons_of_mem _ member)
      rw [bare, below]
  | speech speaker text target =>
      obtain rfl : target = none := unnamed _ List.mem_cons_self
      rfl
  | effect id target =>
      obtain rfl : target = none := unnamed _ List.mem_cons_self
      rfl
  | filter id child target =>
      obtain rfl : target = none := unnamed _ List.mem_cons_self
      have below := bare_of_unnamed child fun inner member =>
        unnamed inner (List.mem_cons_of_mem _ member)
      rw [bare, below]

theorem bareAll_of_unnamed (nodes : List Node)
    (unnamed : ∀ inner ∈ preorderAll nodes, inner.target = none) : bareAll nodes = nodes := by
  cases nodes with
  | nil => rfl
  | cons node rest =>
      rw [preorderAll, List.forall_mem_append] at unnamed
      rw [bareAll, bare_of_unnamed node unnamed.1, bareAll_of_unnamed rest unnamed.2]

end

def filesFrom (dir : Path) (number count : Nat) : List (Option Path) :=
  (List.range' number count).map fun number => some (numberedFile dir number)

theorem filesFrom_succ (dir : Path) (number count : Nat) :
    filesFrom dir number (1 + count) =
      some (numberedFile dir number) :: filesFrom dir (number + 1) count := by
  rw [filesFrom, Nat.add_comm 1 count, List.range'_succ]
  rfl

theorem filesFrom_add (dir : Path) (number first second : Nat) :
    filesFrom dir number (first + second) =
      filesFrom dir number first ++ filesFrom dir (number + first) second := by
  rw [filesFrom, filesFrom, filesFrom, ← List.map_append, List.range'_append_1]

mutual

/-- A tree uses up the numbers from its own on, in pre-order. -/
theorem targets_numberFrom (dir : Path) (number : Nat) (node : Node) :
    (node.numberFrom dir number).1.preorder.map target = filesFrom dir number node.size := by
  cases node with
  | group children _ =>
      have below := targets_numberAllFrom dir (number + 1) children
      simp only [numberFrom, preorder, List.map_cons, below, size, filesFrom_succ, target]
  | speech speaker text _ => rfl
  | effect id _ => rfl
  | filter id child _ =>
      have below := targets_numberFrom dir (number + 1) child
      simp only [numberFrom, preorder, List.map_cons, below, size, filesFrom_succ, target]

theorem targets_numberAllFrom (dir : Path) (number : Nat) (nodes : List Node) :
    (preorderAll (numberAllFrom dir number nodes).1).map target =
      filesFrom dir number (sizeAll nodes) := by
  cases nodes with
  | nil => rfl
  | cons node rest =>
      have first := targets_numberFrom dir number node
      have others := targets_numberAllFrom dir (number + node.size) rest
      simp only [numberAllFrom, numberFrom_snd, preorderAll, List.map_append, first, others,
        sizeAll, filesFrom_add]

end

theorem names_numberedFile (dir : Path) (number : Nat) :
    (numberedFile dir number).names = dir.names ++ [numberedName number] ∧
      (numberedFile dir number).isAbsolute = dir.isAbsolute := by
  obtain ⟨nonempty, -, -, plain, -, -⟩ :=
    (Path.isPlainName_iff _).mp (isPlainName_numberedName number)
  exact Disk.names_join dir nonempty plain

/-- No two numbers lead to one file, however the two paths are written. -/
theorem names_numberedFile_injective (dir : Path) {first second : Nat}
    (same : (numberedFile dir first).names = (numberedFile dir second).names) : first = second := by
  rw [(names_numberedFile dir first).1, (names_numberedFile dir second).1] at same
  have last := List.append_cancel_left same
  exact numberedName_injective (List.cons.inj last).1

theorem nodup_filesFrom (dir : Path) (number count : Nat) :
    (((filesFrom dir number count).filterMap id).map Path.names).Nodup := by
  have distinct : (List.range' number count).Nodup := List.nodup_range'
  rw [filesFrom, List.filterMap_map, List.map_filterMap, List.Nodup, List.pairwise_filterMap]
  apply distinct.imp
  intro first second apart one found other held same
  simp only [Function.comp_apply, id_eq, Option.map_some, Option.some.injEq] at found held
  rw [← found, ← held] at same
  exact apart (names_numberedFile_injective dir same)

/--
Numbering an unnamed tree gives its nodes the files from `start` on. Trees list their nodes in
pre-order. The first number that is left comes after one for each node; the node at each place of
the list has the file that its place says; no kind, text, id or shape is changed; each file is a
plain name placed in the directory; and no two files have the same names on the way to them.
-/
theorem numbering_follows_preorder (dir : Path) (start : Nat) (node : Node)
    (unnamed : ∀ inner ∈ node.toList, inner.target = none) :
    let named := (node.assignNames dir start).1
    (∀ tree : Node, tree.toList = tree.preorder) ∧
      (node.assignNames dir start).2 = start + node.toList.length ∧
      named.toList.length = node.toList.length ∧
      (∀ place (inside : place < named.toList.length),
        named.toList[place].target = some (numberedFile dir (start + place))) ∧
      named.bare = node ∧
      (∀ inner ∈ named.toList, ∃ name file, inner.target = some file ∧ file = dir.join name ∧
        Path.isPlainName name = true ∧ file.names = dir.names ++ [name] ∧
        file.isAbsolute = dir.isAbsolute) ∧
      ((named.toList.filterMap target).map Path.names).Nodup := by
  rw [assignNames_eq_numberFrom]
  intro named
  have targets : named.toList.map target = filesFrom dir start node.size := by
    rw [toList_eq_preorder]
    exact targets_numberFrom dir start node
  have total : named.toList.length = node.size := by
    have lengths := congrArg List.length targets
    simpa [filesFrom] using lengths
  have count : node.toList.length = node.size := by
    rw [toList_eq_preorder, length_preorder]
  have files : ∀ place (inside : place < named.toList.length),
      named.toList[place].target = some (numberedFile dir (start + place)) := by
    intro place inside
    have told : (named.toList.map target)[place]? = (filesFrom dir start node.size)[place]? := by
      rw [targets]
    rw [total] at inside
    simpa [filesFrom, total, inside] using told
  refine ⟨toList_eq_preorder, ?_, ?_, files, ?_, ?_, ?_⟩
  · rw [numberFrom_snd, count]
  · rw [total, count]
  · rw [toList_eq_preorder] at unnamed
    exact (bare_numberFrom dir start node).trans (bare_of_unnamed node unnamed)
  · intro inner member
    obtain ⟨place, inside, rfl⟩ := List.mem_iff_getElem.mp member
    have names := names_numberedFile dir (start + place)
    exact ⟨numberedName (start + place), _, files place inside, rfl,
      isPlainName_numberedName (start + place), names.1, names.2⟩
  · have distinct := nodup_filesFrom dir start node.size
    rw [← targets, List.filterMap_map] at distinct
    exact distinct

/-- Numbers may grow longer than three digits on the way. -/
theorem numbering_follows_preorder_past_999 :
    let node := group [speech "a" "hi", filter "1" (group [effect "5"]), speech "b" "yo"]
    let named := (node.assignNames ⟨"out/"⟩ 998).1
    (∀ inner ∈ node.toList, inner.target = none) ∧ named.toList.length = 6 ∧
      named.toList.filterMap target = [⟨"out/998.wav"⟩, ⟨"out/999.wav"⟩, ⟨"out/1000.wav"⟩,
        ⟨"out/1001.wav"⟩, ⟨"out/1002.wav"⟩, ⟨"out/1003.wav"⟩] ∧ named.bare = node := by
  have unnamed : ∀ inner ∈ (group [speech "a" "hi", filter "1" (group [effect "5"]),
      speech "b" "yo"]).toList, inner.target = none := by
    rw [toList_eq_preorder]
    decide
  have holds := numbering_follows_preorder ⟨"out/"⟩ 998 _ unnamed
  obtain ⟨-, -, total, -, bare, -, -⟩ := holds
  refine ⟨unnamed, ?_, ?_, bare⟩
  · rw [total, toList_eq_preorder]
    rfl
  · rw [toList_eq_preorder, assignNames_eq_numberFrom]
    decide

end SpokenMarkup.Node
