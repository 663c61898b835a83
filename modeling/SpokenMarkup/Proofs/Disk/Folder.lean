import Mathlib.Data.List.Basic
import SpokenMarkup.Proofs.Disk.Agreement

set_option autoImplicit false

namespace SpokenMarkup

namespace Path

theorem cut_eq_splitOn (read chars : List Char) :
    cut read chars = (chars.splitOnPPrepend (· == '/') read).map String.ofList := by
  induction chars generalizing read with
  | nil => simp [cut]
  | cons c rest ih =>
      rw [cut, List.splitOnPPrepend_cons_eq_if]
      by_cases slash : c = '/'
      · simp only [slash, if_true, beq_self_eq_true, ih, List.map_cons,
          List.splitOnPPrepend_nil_right]
      · simp only [slash, if_false, beq_iff_eq, ih]

theorem pieces_eq_splitOn (path : Path) :
    path.pieces = (path.text.toList.splitOn '/').map String.ofList :=
  cut_eq_splitOn [] path.text.toList

theorem pieces_ne_nil (path : Path) : path.pieces ≠ [] := by
  rw [pieces_eq_splitOn]
  simp

theorem not_mem_slash_of_mem_cut (read chars : List Char) (fresh : '/' ∉ read) (piece : String)
    (member : piece ∈ cut read chars) : '/' ∉ piece.toList := by
  induction chars generalizing read with
  | nil =>
      simp only [cut, List.mem_singleton] at member
      simpa [member] using fresh
  | cons c rest ih =>
      simp only [cut] at member
      split at member
      · rcases List.mem_cons.mp member with equal | later
        · simpa [equal] using fresh
        · exact ih [] (by simp) later
      · rename_i other
        refine ih (c :: read) ?_ member
        simp only [List.mem_cons, not_or]
        exact ⟨fun equal => other equal.symm, fresh⟩

theorem pieces_append_slash (left right : List Char) :
    pieces ⟨String.ofList (left ++ '/' :: right)⟩ =
      pieces ⟨String.ofList left⟩ ++ pieces ⟨String.ofList right⟩ := by
  simp only [pieces_eq_splitOn, String.toList_ofList, List.splitOn_append_cons_self,
    List.map_append]

theorem pieces_of_plain (text : String) (plain : '/' ∉ text.toList) : pieces ⟨text⟩ = [text] := by
  rw [pieces_eq_splitOn, List.splitOn_eq_singleton plain]
  simp

/-- The text of a path is its pieces with slashes between them. -/
theorem text_eq_intercalate (path : Path) : path.text = String.intercalate "/" path.pieces := by
  apply String.toList_injective
  rw [String.toList_intercalate, pieces_eq_splitOn, List.map_map]
  have unwrap : String.toList ∘ String.ofList = id := by
    funext chars
    simp
  rw [unwrap, List.map_id]
  exact (List.intercalate_splitOn '/').symm

theorem pieces_ofPieces (reversed : List String) (nonempty : reversed ≠ [])
    (plain : ∀ piece ∈ reversed, '/' ∉ piece.toList) :
    (ofPieces reversed).pieces = reversed.reverse := by
  have slash : "/".toList = ['/'] := rfl
  rw [pieces_eq_splitOn, ofPieces, String.toList_intercalate, slash,
    List.splitOn_intercalate '/' (by simpa using plain) (by simpa using nonempty), List.map_map]
  have wrap : String.ofList ∘ String.toList = id := by
    funext text
    simp
  rw [wrap, List.map_id]

theorem isPlainName_iff (name : String) :
    isPlainName name = true ↔ name ≠ "" ∧ name ≠ "." ∧ name ≠ ".." ∧
      '/' ∉ name.toList ∧ '\\' ∉ name.toList ∧ '\x00' ∉ name.toList := by
  simp only [isPlainName, Bool.and_eq_true, decide_eq_true_eq, List.all_eq_true, and_assoc]
  refine and_congr Iff.rfl (and_congr Iff.rfl (and_congr Iff.rfl ?_))
  constructor
  · intro all
    exact ⟨fun member => (all _ member).1 rfl, fun member => (all _ member).2.1 rfl,
      fun member => (all _ member).2.2 rfl⟩
  · intro absent c member
    rcases absent with ⟨slash, backslash, nul⟩
    refine ⟨?_, ?_, ?_⟩ <;> (intro equal; subst equal)
    · exact slash member
    · exact backslash member
    · exact nul member

theorem isPlainName_of_length (name : String) (long : 2 < name.toList.length)
    (noSlash : '/' ∉ name.toList) (noBackslash : '\\' ∉ name.toList)
    (noNul : '\x00' ∉ name.toList) : isPlainName name = true := by
  rw [isPlainName_iff]
  refine ⟨?_, ?_, ?_, noSlash, noBackslash, noNul⟩ <;>
    (intro equal; rw [equal] at long; exact absurd long (by decide))

def stem (dir : Path) : Path :=
  if dir.endsWithSlash then ⟨String.ofList dir.text.toList.dropLast⟩ else dir

theorem text_eq_stem_append (dir : Path) :
    dir.text.toList = dir.stem.text.toList ++ (if dir.endsWithSlash then ['/'] else []) := by
  unfold stem
  by_cases slash : dir.endsWithSlash = true
  · have last : dir.text.toList.getLast? = some '/' := by simpa [endsWithSlash] using slash
    simp only [slash, if_true, String.toList_ofList]
    exact (List.dropLast_append_getLast? '/' (Option.mem_def.mpr last)).symm
  · simp only [slash, if_false, Bool.false_eq_true, List.append_nil]

theorem text_join (dir : Path) (name : String) (proper : dir.text ≠ "")
    (plain : '/' ∉ name.toList) :
    (dir.join name).text.toList = dir.stem.text.toList ++ '/' :: name.toList := by
  have relative : name.toList.head? ≠ some '/' := fun first => plain (List.mem_of_mem_head? first)
  have split := text_eq_stem_append dir
  by_cases slash : dir.endsWithSlash = true
  · simp only [slash, if_true] at split
    simp [join, relative, slash, String.toList_append, split]
  · simp only [slash, Bool.false_eq_true, if_false, List.append_nil] at split
    simp [join, relative, slash, proper, String.toList_append, split]

theorem pieces_join (dir : Path) (name : String) (proper : dir.text ≠ "")
    (plain : '/' ∉ name.toList) : (dir.join name).pieces = dir.stem.pieces ++ [name] := by
  have whole : dir.join name = ⟨String.ofList (dir.stem.text.toList ++ '/' :: name.toList)⟩ := by
    rw [← text_join dir name proper plain, String.ofList_toList]
  rw [whole, pieces_append_slash, String.ofList_toList, String.ofList_toList,
    pieces_of_plain name plain]

theorem names_stem (dir : Path) : dir.stem.names = dir.names := by
  by_cases slash : dir.endsWithSlash = true
  · have split := text_eq_stem_append dir
    simp only [slash, if_true] at split
    have whole : dir = ⟨String.ofList (dir.stem.text.toList ++ '/' :: [])⟩ := by
      rw [← split, String.ofList_toList]
    have pieces : dir.pieces = dir.stem.pieces ++ [""] := by
      rw [whole, pieces_append_slash, ← whole, String.ofList_toList]
      rfl
    simp only [names, pieces, List.filter_append]
    simp
  · simp only [stem, slash, Bool.false_eq_true, if_false]

theorem names_join (dir : Path) (name : String) (proper : dir.text ≠ "") (nonempty : name ≠ "")
    (plain : '/' ∉ name.toList) : (dir.join name).names = dir.names ++ [name] := by
  rw [← names_stem dir, names, pieces_join dir name proper plain, List.filter_append]
  simp [names, nonempty]

theorem text_prefix_join (dir : Path) (name : String) (proper : dir.text ≠ "")
    (plain : '/' ∉ name.toList) : dir.text.toList <+: (dir.join name).text.toList := by
  rw [text_join dir name proper plain, text_eq_stem_append dir]
  split
  · exact ⟨name.toList, by simp⟩
  · exact ⟨'/' :: name.toList, by simp⟩

theorem endsWithSlash_join (dir : Path) (name : String) (proper : dir.text ≠ "")
    (nonempty : name ≠ "") (plain : '/' ∉ name.toList) :
    (dir.join name).endsWithSlash = false := by
  have letters : name.toList ≠ [] := by simpa using nonempty
  simp only [endsWithSlash, text_join dir name proper plain, decide_eq_false_iff_not]
  intro last
  rw [List.getLast?_append, List.getLast?_cons, List.getLast?_eq_getLast_of_ne_nil letters] at last
  simp only [Option.getD_some, Option.some_or, Option.some.injEq] at last
  exact plain (last ▸ List.getLast_mem letters)

theorem head?_of_front {α : Type} {front whole : List α} (start : front <+: whole)
    (nonempty : front ≠ []) : whole.head? = front.head? := by
  obtain ⟨rest, rfl⟩ := start
  exact List.head?_append_of_ne_nil front nonempty

section Front

variable {front whole : Path} (start : front.text.toList <+: whole.text.toList)
include start

theorem isAbsolute_of_front (proper : front.text ≠ "") : whole.isAbsolute = front.isAbsolute := by
  simp only [isAbsolute]
  rw [head?_of_front start (by simpa using proper)]

theorem size_of_front : front.text.utf8ByteSize ≤ whole.text.utf8ByteSize := by
  obtain ⟨rest, equal⟩ := start
  have split : whole.text = front.text ++ String.ofList rest := by
    apply String.toList_injective
    rw [String.toList_append, String.toList_ofList, equal]
  rw [split, String.utf8ByteSize_append]
  omega

theorem hasNul_of_front (clean : whole.hasNul = false) : front.hasNul = false := by
  obtain ⟨rest, equal⟩ := start
  simp only [hasNul, ← equal, List.contains_append, Bool.or_eq_false_iff] at clean ⊢
  exact clean.1

end Front

theorem isAbsolute_join (dir : Path) (name : String) (proper : dir.text ≠ "")
    (plain : '/' ∉ name.toList) : (dir.join name).isAbsolute = dir.isAbsolute :=
  isAbsolute_of_front (text_prefix_join dir name proper plain) proper

theorem hasNul_join (dir : Path) (name : String) (proper : dir.text ≠ "")
    (plain : '/' ∉ name.toList) (clean : '\x00' ∉ name.toList) :
    (dir.join name).hasNul = dir.hasNul := by
  have split := text_eq_stem_append dir
  simp only [hasNul, text_join dir name proper plain, split]
  by_cases slash : dir.endsWithSlash = true <;> simp [slash, clean]

theorem getLast?_of_chain_nil (reversed : List String) (nonempty : reversed ≠ [])
    (nothing : chain reversed = []) : reversed.getLast? = some "" := by
  induction reversed with
  | nil => contradiction
  | cons piece outer ih =>
      simp only [chain] at nothing
      split at nothing
      · rename_i skip
        cases outer with
        | nil => simpa using skip
        | cons next further =>
            rw [List.getLast?_cons_cons]
            exact ih (by simp) nothing
      · cases nothing

/-- The longest prefix that ends in a component leaves out empty pieces and dots only. -/
theorem split_of_chain_cons (reversed kept : List String) (rest : List (List String))
    (found : chain reversed = kept :: rest) :
    ∃ skipped, reversed = skipped ++ kept ∧ (∀ piece ∈ skipped, piece = "" ∨ piece = ".") ∧
      (∃ piece outer, kept = piece :: outer ∧ piece ≠ "") ∧ chain kept = kept :: rest := by
  induction reversed with
  | nil => cases found
  | cons piece outer ih =>
      have whole := found
      simp only [chain] at found
      split at found
      · rename_i skip
        obtain ⟨skipped, equal, blank, kept_cons, again⟩ := ih found
        refine ⟨piece :: skipped, by rw [equal, List.cons_append], ?_, kept_cons, again⟩
        intro other member
        rcases List.mem_cons.mp member with rfl | later
        · rcases (Bool.or_eq_true _ _).mp skip with empty | dot
          · exact Or.inl (of_decide_eq_true empty)
          · exact Or.inr (of_decide_eq_true (Bool.and_eq_true _ _ ▸ dot).1)
        · exact blank other later
      · rename_i keep
        obtain ⟨rfl, rfl⟩ := List.cons.inj found
        refine ⟨[], rfl, by simp, ⟨piece, outer, rfl, ?_⟩, whole⟩
        intro equal
        subst equal
        exact keep (by simp)

theorem parent?_join (dir : Path) (name : String) (proper : dir.text ≠ "") (nonempty : name ≠ "")
    (notDot : name ≠ ".") (plain : '/' ∉ name.toList) :
    (dir.join name).parent? = match chain dir.stem.pieces.reverse with
      | [] => some ⟨if dir.isAbsolute then "/" else ""⟩
      | kept :: _ => some (ofPieces kept) := by
  have whole : (dir.join name).ancestors = ofPieces (name :: dir.stem.pieces.reverse) ::
      (chain dir.stem.pieces.reverse).map ofPieces := by
    rw [ancestors, pieces_join dir name proper plain, List.reverse_append]
    simp [chain, nonempty, notDot]
  simp only [parent?, whole, isAbsolute_join dir name proper plain]
  cases chain dir.stem.pieces.reverse with
  | nil => rfl
  | cons kept rest => rfl

theorem plain_of_mem_pieces (path : Path) (piece : String) (member : piece ∈ path.pieces) :
    '/' ∉ piece.toList :=
  not_mem_slash_of_mem_cut [] path.text.toList (by simp) piece member

theorem isAbsolute_of_chain_nil (dir : Path) (proper : dir.text ≠ "")
    (nothing : chain dir.stem.pieces.reverse = []) : dir.isAbsolute = true := by
  have first : dir.stem.pieces.head? = some "" := by
    rw [← List.getLast?_reverse]
    exact getLast?_of_chain_nil _ (by simpa using pieces_ne_nil dir.stem) nothing
  obtain ⟨rest, pieces⟩ := List.head?_eq_some_iff.mp first
  have joined := text_join dir "0" proper (by decide)
  rw [← isAbsolute_join dir "0" proper (by decide), isAbsolute, joined,
    text_eq_intercalate dir.stem, pieces]
  cases rest with
  | nil => rfl
  | cons next further => simp [String.intercalate_cons_cons]

/-- The directory above a name placed in a folder: its text begins the text of the folder, and the
folder is reached from it by dots. -/
theorem parent_below (dir : Path) (kept : List String) (rest : List (List String))
    (found : chain dir.stem.pieces.reverse = kept :: rest) :
    (ofPieces kept).text ≠ "" ∧ (ofPieces kept).text.toList <+: dir.text.toList ∧
      (ofPieces kept).ancestors = ofPieces kept :: rest.map ofPieces ∧
      ∃ dots, dir.names = (ofPieces kept).names ++ dots ∧ ∀ name ∈ dots, name = "." := by
  obtain ⟨skipped, equal, blank, ⟨piece, outer, cons, proper⟩, again⟩ :=
    split_of_chain_cons _ _ _ found
  have nonempty : kept ≠ [] := by simp [cons]
  have pieces : dir.stem.pieces = kept.reverse ++ skipped.reverse := by
    rw [← List.reverse_append, ← equal, List.reverse_reverse]
  have plain : ∀ other ∈ kept, '/' ∉ other.toList := by
    intro other member
    exact plain_of_mem_pieces dir.stem other (by simp [pieces, member])
  have own := pieces_ofPieces kept nonempty plain
  refine ⟨?_, ?_, ?_, skipped.reverse.filter (· ≠ ""), ?_, ?_⟩
  · intro blankText
    have single : (ofPieces kept).pieces = [""] := by
      rw [show ofPieces kept = ⟨""⟩ from congrArg Path.mk blankText]
      rfl
    rw [own, cons] at single
    have member : piece ∈ [""] := by rw [← single]; simp
    exact proper (List.mem_singleton.mp member)
  · have stemPrefix : (ofPieces kept).text.toList <+: dir.stem.text.toList := by
      rw [text_eq_intercalate dir.stem, pieces]
      by_cases bare : skipped.reverse = []
      · rw [bare, List.append_nil]
        exact List.prefix_refl _
      · rw [String.intercalate_append_of_ne_nil (by simpa using nonempty) bare]
        simp only [ofPieces, String.toList_append, List.append_assoc]
        exact List.prefix_append _ _
    exact stemPrefix.trans ⟨_, (text_eq_stem_append dir).symm⟩
  · rw [ancestors, own, List.reverse_reverse, again]
    rfl
  · rw [← names_stem dir, names, names, pieces, own, List.filter_append]
  · intro name member
    obtain ⟨inside, filled⟩ := List.mem_filter.mp member
    rcases blank name (List.mem_reverse.mp inside) with empty | dot
    · simp [empty] at filled
    · exact dot

end Path

namespace Disk

variable {disk : Disk}

theorem walk_append (disk : Disk) (location : Location) (front back : List String) :
    disk.walk location (front ++ back) =
      (disk.walk location front).bind fun reached => disk.walk reached back := by
  induction front generalizing location with
  | nil => rfl
  | cons name rest ih =>
      simp only [List.cons_append, walk]
      split
      · rfl
      · rfl
      · split
        · exact ih location
        · split
          · exact ih location.tail
          · split
            · rfl
            · exact ih (name :: location)

theorem eq_of_walk_dots (location target : Location) (names : List String)
    (dots : ∀ name ∈ names, name = ".") (reached : disk.walk location names = .ok target) :
    target = location := by
  induction names with
  | nil => exact (Except.ok.inj reached).symm
  | cons name rest ih =>
      have dot : name = "." := dots name (by simp)
      simp only [walk, dot, if_true] at reached
      split at reached
      · cases reached
      · cases reached
      · exact ih (fun other member => dots other (List.mem_cons_of_mem _ member)) reached

theorem locate_eq_ok_iff (disk : Disk) (path : Path) (location : Location) :
    disk.locate path = .ok location ↔ path.hasNul = false ∧ path.text ≠ "" ∧
      path.text.utf8ByteSize ≤ maxPathBytes ∧
      disk.walk (if path.isAbsolute then [] else disk.home) path.names = .ok location := by
  unfold locate follow
  by_cases nul : path.hasNul = true
  · simp [nul]
  · by_cases blank : path.text = ""
    · simp [nul, blank]
    · by_cases long : path.text.utf8ByteSize > maxPathBytes
      · simp [nul, blank, long]
      · simp [nul, blank, long, Nat.not_lt.mp long]

/-- A name placed in a folder leads right below it, unless a limit of the disk stands in the way. -/
theorem locate_join (disk : Disk) (dir : Path) (folder : Location) (name : String)
    (located : disk.locate dir = .ok folder) (standing : disk.entry? folder = some .directory)
    (plain : Path.isPlainName name = true) :
    disk.locate (dir.join name) =
      if (dir.join name).text.utf8ByteSize ≤ maxPathBytes ∧ name.utf8ByteSize ≤ maxNameBytes
      then .ok (name :: folder) else .error .nameTooLong := by
  obtain ⟨clean, proper, short, walked⟩ := (locate_eq_ok_iff disk dir folder).mp located
  obtain ⟨nonempty, notDot, notDots, noSlash, -, noNul⟩ := (Path.isPlainName_iff name).mp plain
  have joined : (dir.join name).text ≠ "" := by
    intro blank
    have chars := Path.text_join dir name proper noSlash
    simp [blank] at chars
  unfold locate follow
  rw [Path.hasNul_join dir name proper noSlash noNul, Path.isAbsolute_join dir name proper noSlash,
    Path.names_join dir name proper nonempty noSlash, walk_append, walked]
  have stepped : disk.walk folder [name] =
      if name.utf8ByteSize > maxNameBytes then .error .nameTooLong else .ok (name :: folder) := by
    simp only [walk, standing, notDot, notDots, if_false]
  simp only [clean, joined, Except.bind, stepped, Bool.false_eq_true, if_false]
  by_cases long : (dir.join name).text.utf8ByteSize > maxPathBytes
  · rw [if_pos long, if_neg (by omega)]
  · by_cases wide : name.utf8ByteSize > maxNameBytes
    · rw [if_neg long, if_pos wide, if_neg (by omega)]
    · rw [if_neg long, if_neg wide, if_pos (by omega)]

/-- A file placed in a folder that exists finds the folder above it. -/
theorem makeRoom_join (disk : Disk) (dir : Path) (folder : Location) (name : String)
    (located : disk.locate dir = .ok folder) (standing : disk.entry? folder = some .directory)
    (plain : Path.isPlainName name = true) :
    FileTask.makeRoom (dir.join name) disk = (.ok (), disk) := by
  obtain ⟨clean, proper, short, walked⟩ := (locate_eq_ok_iff disk dir folder).mp located
  obtain ⟨nonempty, notDot, -, noSlash, -, -⟩ := (Path.isPlainName_iff name).mp plain
  unfold FileTask.makeRoom
  rw [Path.parent?_join dir name proper nonempty notDot noSlash]
  cases found : Path.chain dir.stem.pieces.reverse with
  | nil =>
      rw [Path.isAbsolute_of_chain_nil dir proper found]
      rfl
  | cons kept rest =>
      obtain ⟨filled, front, ancestors, dots, names, dotted⟩ :=
        Path.parent_below dir kept rest found
      have size := Path.size_of_front front
      have reached : disk.locate (Path.ofPieces kept) = .ok folder := by
        rw [locate_eq_ok_iff]
        refine ⟨Path.hasNul_of_front front clean, filled, by omega, ?_⟩
        · have same : (Path.ofPieces kept).isAbsolute = dir.isAbsolute :=
            (Path.isAbsolute_of_front front filled).symm
          rw [names, walk_append] at walked
          rw [same]
          cases walkedFront : disk.walk (if dir.isAbsolute then [] else disk.home)
              (Path.ofPieces kept).names with
          | error error => simp [walkedFront, Except.bind] at walked
          | ok location =>
              rw [walkedFront] at walked
              rw [eq_of_walk_dots location folder dots dotted walked]
      have taken : disk.makeDirectory (Path.ofPieces kept) = .error .alreadyExists := by
        simp [makeDirectory, reached, standing, bind, Except.bind]
      have found : disk.isDirectory (Path.ofPieces kept) = true := by
        simp [isDirectory, reached, standing]
      simp [filled, makeDirectories, ancestors, makeChain, taken, found, Except.mapError]

end Disk

end SpokenMarkup
