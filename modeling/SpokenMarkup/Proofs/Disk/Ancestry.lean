import SpokenMarkup.Proofs.Disk.Folder
import SpokenMarkup.Proofs.Disk.Growth

set_option autoImplicit false

namespace SpokenMarkup

namespace Path

/-- A path that is followed on the way of another one. -/
structure IsAbove (outer path : Path) : Prop where
  absolute : outer.isAbsolute = path.isAbsolute
  names : outer.names <+: path.names
  text : outer.text.toList <+: path.text.toList
  proper : outer.text ≠ ""

theorem IsAbove.trans {first second third : Path} (lower : IsAbove first second)
    (upper : IsAbove second third) : IsAbove first third :=
  ⟨lower.absolute.trans upper.absolute, lower.names.trans upper.names,
    lower.text.trans upper.text, lower.proper⟩

/-- Pieces of a path from its start on, the last one first and not empty. -/
structure IsFront (kept : List String) (path : Path) : Prop where
  suffix : kept <:+ path.pieces.reverse
  ends : ∃ piece outer, kept = piece :: outer ∧ piece ≠ ""

theorem mem_chain {reversed kept : List String} (member : kept ∈ chain reversed) :
    kept <:+ reversed ∧ ∃ piece outer, kept = piece :: outer ∧ piece ≠ "" := by
  induction reversed with
  | nil => cases member
  | cons piece outer ih =>
      rw [chain] at member
      split at member
      · obtain ⟨suffix, ends⟩ := ih member
        exact ⟨suffix.trans (List.suffix_cons piece outer), ends⟩
      · rename_i keep
        rcases List.mem_cons.mp member with rfl | later
        · refine ⟨List.suffix_refl _, piece, outer, rfl, ?_⟩
          intro blank
          exact keep (by simp [blank])
        · obtain ⟨suffix, ends⟩ := ih later
          exact ⟨suffix.trans (List.suffix_cons piece outer), ends⟩

theorem IsFront.pieces {kept : List String} {path : Path} (front : IsFront kept path) :
    (ofPieces kept).pieces = kept.reverse := by
  obtain ⟨piece, outer, cons, -⟩ := front.ends
  refine pieces_ofPieces kept (by rw [cons]; exact List.cons_ne_nil _ _) ?_
  intro other member
  exact plain_of_mem_pieces path other (List.mem_reverse.mp (front.suffix.subset member))

theorem IsFront.isAbove {kept : List String} {path : Path} (front : IsFront kept path) :
    IsAbove (ofPieces kept) path := by
  have own := front.pieces
  obtain ⟨piece, outer, cons, filled⟩ := front.ends
  obtain ⟨rest, whole⟩ := front.suffix
  have pieces : path.pieces = kept.reverse ++ rest.reverse := by
    rw [← List.reverse_append, whole, List.reverse_reverse]
  have proper : (ofPieces kept).text ≠ "" := by
    intro blank
    have single : kept.reverse = [""] := by
      rw [← own, show ofPieces kept = ⟨""⟩ from congrArg Path.mk blank]
      rfl
    have member : piece ∈ kept.reverse := by simp [cons]
    rw [single] at member
    exact filled (List.mem_singleton.mp member)
  have text : (ofPieces kept).text.toList <+: path.text.toList := by
    rw [text_eq_intercalate path, pieces]
    by_cases bare : rest.reverse = []
    · rw [bare, List.append_nil]
      exact List.prefix_refl _
    · rw [String.intercalate_append_of_ne_nil (by simp [cons]) bare]
      simp only [ofPieces, String.toList_append, List.append_assoc]
      exact List.prefix_append _ _
  refine ⟨?_, ?_, text, proper⟩
  · exact (isAbsolute_of_front text proper).symm
  · rw [names, names, pieces, own, List.filter_append]
    exact List.prefix_append _ _

theorem isAbove_of_mem_ancestors {path outer : Path} (member : outer ∈ path.ancestors) :
    IsAbove outer path := by
  obtain ⟨kept, inside, rfl⟩ := List.mem_map.mp member
  obtain ⟨suffix, ends⟩ := mem_chain inside
  exact IsFront.isAbove ⟨suffix, ends⟩

theorem ancestors_start (absolute : Bool) :
    ancestors ⟨if absolute = true then "/" else ""⟩ = [] := by
  cases absolute <;> decide

theorem isAbove_of_parent {path parent outer : Path} (lies : path.parent? = some parent)
    (member : outer ∈ parent.ancestors) : IsAbove outer path := by
  unfold parent? at lies
  cases above : path.ancestors with
  | nil =>
      rw [above] at lies
      cases lies
  | cons own rest =>
      cases rest with
      | nil =>
          -- the starting directory is not made
          rw [above] at lies
          simp only [Option.some.injEq] at lies
          subst lies
          rw [ancestors_start] at member
          cases member
      | cons second rest =>
          rw [above] at lies
          simp only [Option.some.injEq] at lies
          subst lies
          refine (isAbove_of_mem_ancestors member).trans (isAbove_of_mem_ancestors ?_)
          rw [above]
          exact List.mem_cons_of_mem _ List.mem_cons_self

end Path

namespace Disk

variable {disk before after : Disk} {path outer : Path}

/-- All places that following a path has to do with: those on its way, and the one it leads to. -/
def trail (disk : Disk) (path : Path) : Set Location :=
  {location | location ∈ disk.way path ∨ location = disk.place path}

theorem trail_congr (home : before.home = after.home) : after.trail path = before.trail path := by
  unfold trail
  rw [way_congr home, place_congr home]

theorem passed_append (place : Location) (front back : List String) :
    passed place (front ++ back) = passed place front ++ passed (reached place front) back := by
  induction front generalizing place with
  | nil => rfl
  | cons name rest ih =>
      rw [List.cons_append, passed, passed, ih, List.cons_append]
      rfl

theorem reached_append (place : Location) (front back : List String) :
    reached place (front ++ back) = reached (reached place front) back :=
  List.foldl_append

theorem place_mem_way {name : String} {rest : List String}
    (absolute : outer.isAbsolute = path.isAbsolute)
    (names : path.names = outer.names ++ name :: rest) : disk.place outer ∈ disk.way path := by
  have start : disk.origin outer = disk.origin path := by
    rw [origin, origin, absolute]
  rw [way, place, start, names, passed_append, passed]
  exact List.mem_append_right _ List.mem_cons_self

theorem place_mem_trail (above : Path.IsAbove outer path) : disk.place outer ∈ disk.trail path := by
  obtain ⟨rest, names⟩ := above.names
  cases rest with
  | nil =>
      rw [List.append_nil] at names
      rw [place, origin, above.absolute, names]
      exact Or.inr rfl
  | cons name rest => exact Or.inl (place_mem_way above.absolute names.symm)

theorem placesOf_subset_trail {paths : List Path}
    (above : ∀ outer ∈ paths, Path.IsAbove outer path) : disk.placesOf paths ⊆ disk.trail path := by
  rintro location ⟨outer, member, rfl⟩
  exact place_mem_trail (above outer member)

theorem makeRoom_grows_trail (disk : Disk) (target : Path) :
    Grows (disk.trail target) disk (FileTask.makeRoom target disk).2 := by
  refine (FileTask.makeRoom_grows target disk).mono (placesOf_subset_trail ?_)
  intro outer member
  cases lies : target.parent? with
  | none =>
      rw [lies] at member
      cases member
  | some parent =>
      rw [lies] at member
      exact Path.isAbove_of_parent lies member

/-- Nothing but a directory is in the way. -/
def Clear (disk : Disk) (location : Location) : Prop :=
  disk.entry? location = none ∨ disk.entry? location = some .directory

theorem Grows.clear {places : Set Location} (grows : Grows places before after)
    {location : Location} (clear : before.Clear location) : after.Clear location := by
  rcases grows.entry location with same | ⟨-, -, made⟩
  · unfold Clear
    rw [same]
    exact clear
  · exact Or.inr made

theorem walk_notFound (place : Location) (names : List String)
    (clear : ∀ location ∈ passed place names, disk.Clear location)
    (short : ∀ name ∈ names, IsShort name)
    (missing : ¬∀ location ∈ passed place names, disk.entry? location = some .directory) :
    disk.walk place names = .error .notFound := by
  induction names generalizing place with
  | nil => exact absurd nofun missing
  | cons name rest ih =>
      rw [passed, List.forall_mem_cons] at clear missing
      rcases clear.1 with absent | held
      · rw [walk, absent]
      · have further : disk.walk (onward place name) rest = .error .notFound := by
          refine ih _ clear.2 (fun other member => short other (List.mem_cons_of_mem _ member)) ?_
          intro standing
          exact missing ⟨held, standing⟩
        rw [walk, held]
        simp only [onward] at further
        by_cases dot : name = "."
        · simpa only [dot, if_true] using further
        · by_cases dots : name = ".."
          · subst dots
            simpa using further
          · have fits : ¬name.utf8ByteSize > maxNameBytes := by
              have limit := short name List.mem_cons_self
              simp only [IsShort, dot, dots, false_or] at limit
              omega
            simpa only [dot, dots, fits, if_false] using further

theorem locate_notFound (sound : IsSound path) (clear : ∀ location ∈ disk.way path, disk.Clear location)
    (missing : ¬∀ location ∈ disk.way path, disk.entry? location = some .directory) :
    disk.locate path = .error .notFound := by
  have short : ¬path.text.utf8ByteSize > maxPathBytes := by
    have limit := sound.short
    omega
  unfold locate follow
  rw [sound.clean, if_neg Bool.false_ne_true, if_neg sound.proper, if_neg short]
  exact walk_notFound _ path.names clear sound.names missing

theorem makeDirectory_of_standing (sound : IsSound path)
    (standing : ∀ location ∈ disk.way path, disk.entry? location = some .directory)
    (clear : disk.Clear (disk.place path)) :
    (∃ made, disk.makeDirectory path = .ok made ∧
      Disk.entry? made (disk.place path) = some .directory) ∨
      (disk.makeDirectory path = .error .alreadyExists ∧ disk.isDirectory path = true ∧
        disk.entry? (disk.place path) = some .directory) := by
  have located := (locate_eq_ok disk path (disk.place path)).mpr ⟨sound, standing, rfl⟩
  rcases clear with absent | held
  · have proper : disk.place path ≠ [] := by
      intro root
      rw [root] at absent
      cases absent
    refine Or.inl ⟨disk.put (disk.place path) .directory, ?_, ?_⟩
    · simp [makeDirectory, located, absent, bind, Except.bind]
    · exact lookup_put_self disk _ _ proper
  · refine Or.inr ⟨?_, ?_, held⟩
    · simp [makeDirectory, located, held, bind, Except.bind]
    · exact (isDirectory_iff disk path).mpr ⟨located, held⟩

theorem makeChain_grows_only (disk : Disk) (paths : List Path) :
    Grows (disk.placesOf paths) disk (disk.makeChain paths).2 := by
  cases paths with
  | nil => exact Grows.refl _ _
  | cons path outer => exact (makeChain_grows disk path outer).1

/-- What was made stays when something above the path cannot be made, but nothing is made there. -/
theorem makeChain_failed (disk : Disk) (path : Path) (outer : List Path)
    (failed : (disk.makeChain (path :: outer)).1 ≠ .ok ()) :
    Grows (disk.placesOf outer) disk (disk.makeChain (path :: outer)).2 := by
  have grows := makeChain_grows_only disk outer
  rw [makeChain] at failed ⊢
  cases direct : disk.makeDirectory path with
  | ok made =>
      rw [direct] at failed
      exact absurd rfl failed
  | error error =>
      rw [direct] at failed
      cases error with
      | notFound =>
          generalize disk.makeChain outer = ending at failed grows ⊢
          obtain ⟨result, made⟩ := ending
          cases result with
          | error fault => exact grows
          | ok done =>
              simp only at failed ⊢
              cases again : made.makeDirectory path with
              | ok whole =>
                  rw [again] at failed
                  exact absurd rfl failed
              | error fault => exact grows
      | _ => exact Grows.refl _ _

def namesOf (reversed : List String) : List String :=
  reversed.reverse.filter (· ≠ "")

theorem namesOf_cons (piece : String) (outer : List String) :
    namesOf (piece :: outer) = namesOf outer ++ if piece = "" then [] else [piece] := by
  unfold namesOf
  rw [List.reverse_cons, List.filter_append]
  by_cases blank : piece = ""
  · simp [blank]
  · simp [blank]

/-- A chain of directories that can be made, since nothing but directories is in its way. -/
structure CanMake (disk : Disk) (start : Location) (reversed : List String) : Prop where
  sound : ∀ kept ∈ Path.chain reversed, IsSound (Path.ofPieces kept)
  origin : ∀ kept ∈ Path.chain reversed, disk.origin (Path.ofPieces kept) = start
  names : ∀ kept ∈ Path.chain reversed, (Path.ofPieces kept).names = namesOf kept
  standing : disk.entry? start = some .directory
  way : ∀ location ∈ passed start (namesOf reversed), disk.Clear location
  place : disk.Clear (reached start (namesOf reversed))

/-- All the directories of a chain are there. -/
structure Stands (disk : Disk) (start : Location) (reversed : List String) : Prop where
  way : ∀ location ∈ passed start (namesOf reversed), disk.entry? location = some .directory
  place : disk.entry? (reached start (namesOf reversed)) = some .directory

section Chain

variable {start : Location} {piece : String} {outer : List String}

theorem CanMake.above (can : CanMake disk start (piece :: outer)) : CanMake disk start outer := by
  have inside : ∀ kept ∈ Path.chain outer, kept ∈ Path.chain (piece :: outer) := by
    intro kept member
    rw [Path.chain]
    split
    · exact member
    · exact List.mem_cons_of_mem _ member
  have split := namesOf_cons piece outer
  refine ⟨fun kept member => can.sound kept (inside kept member),
    fun kept member => can.origin kept (inside kept member),
    fun kept member => can.names kept (inside kept member), can.standing, ?_, ?_⟩
  · intro location member
    apply can.way
    rw [split, passed_append]
    exact List.mem_append_left _ member
  · by_cases blank : piece = ""
    · have place := can.place
      rw [split, if_pos blank, List.append_nil] at place
      exact place
    · apply can.way
      rw [split, if_neg blank, passed_append, passed]
      exact List.mem_append_right _ List.mem_cons_self

theorem Stands.way_below (stands : Stands disk start outer) :
    ∀ location ∈ passed start (namesOf (piece :: outer)),
      disk.entry? location = some .directory := by
  intro location member
  rw [namesOf_cons, passed_append, List.mem_append] at member
  rcases member with early | late
  · exact stands.way location early
  · by_cases blank : piece = ""
    · rw [if_pos blank] at late
      cases late
    · rw [if_neg blank] at late
      rw [List.mem_singleton.mp late]
      exact stands.place

theorem Stands.skip (stands : Stands disk start outer) (idle : piece = "" ∨ piece = ".") :
    Stands disk start (piece :: outer) := by
  refine ⟨stands.way_below, ?_⟩
  have same : reached start (namesOf (piece :: outer)) = reached start (namesOf outer) := by
    rw [namesOf_cons, reached_append]
    rcases idle with rfl | rfl <;> rfl
  rw [same]
  exact stands.place

/-- Once the directories above it are there, a directory is made unless it is there as well. -/
theorem CanMake.finish (can : CanMake disk start (piece :: outer))
    (component : piece :: outer ∈ Path.chain (piece :: outer)) {places : Set Location}
    (grows : Grows places disk after)
    (standing : ∀ location ∈ passed start (namesOf (piece :: outer)),
      after.entry? location = some .directory) :
    (∃ made, after.makeDirectory (Path.ofPieces (piece :: outer)) = .ok made ∧
      Stands made start (piece :: outer)) ∨
      (after.makeDirectory (Path.ofPieces (piece :: outer)) = .error .alreadyExists ∧
        after.isDirectory (Path.ofPieces (piece :: outer)) = true ∧
        Stands after start (piece :: outer)) := by
  have way : after.way (Path.ofPieces (piece :: outer)) =
      passed start (namesOf (piece :: outer)) := by
    rw [way_congr grows.home, Disk.way, can.origin _ component, can.names _ component]
  have place : after.place (Path.ofPieces (piece :: outer)) =
      reached start (namesOf (piece :: outer)) := by
    rw [place_congr grows.home, Disk.place, can.origin _ component, can.names _ component]
  have clear := grows.clear can.place
  rw [← place] at clear
  have standingWay := standing
  rw [← way] at standingWay
  rcases makeDirectory_of_standing (can.sound _ component) standingWay clear with
    ⟨made, done, held⟩ | ⟨there, found, held⟩
  · rw [place] at held
    refine Or.inl ⟨made, done, ?_, held⟩
    intro location member
    exact (makeDirectory_ok after _ made done).1.keeps.directories location (Set.notMem_empty _)
      (standing location member)
  · rw [place] at held
    exact Or.inr ⟨there, found, standing, held⟩

end Chain

/-- A directory and all that is missing above it can be made unless a file stands there. -/
theorem makeChain_succeeds {start : Location} {reversed : List String}
    (can : CanMake disk start reversed) :
    (disk.makeChain ((Path.chain reversed).map Path.ofPieces)).1 = .ok () ∧
      Stands (disk.makeChain ((Path.chain reversed).map Path.ofPieces)).2 start reversed := by
  induction reversed with
  | nil => exact ⟨rfl, nofun, can.standing⟩
  | cons piece outer ih =>
      have inner := ih can.above
      by_cases idle : (piece = "" || (piece = "." && !outer.isEmpty)) = true
      · rw [Path.chain, if_pos idle]
        refine ⟨inner.1, inner.2.skip ?_⟩
        simp only [Bool.or_eq_true, Bool.and_eq_true, decide_eq_true_eq] at idle
        exact idle.imp_right And.left
      · have component : piece :: outer ∈ Path.chain (piece :: outer) := by
          rw [Path.chain, if_neg idle]
          exact List.mem_cons_self
        have grows := makeChain_grows_only disk ((Path.chain outer).map Path.ofPieces)
        have finish := fun other => @CanMake.finish disk other start piece outer can component
        have sound := can.sound _ component
        have way : disk.way (Path.ofPieces (piece :: outer)) =
            passed start (namesOf (piece :: outer)) := by
          rw [Disk.way, can.origin _ component, can.names _ component]
        rw [Path.chain, if_neg idle, List.map_cons, makeChain]
        generalize Path.ofPieces (piece :: outer) = path at finish sound way ⊢
        by_cases standing : ∀ location ∈ passed start (namesOf (piece :: outer)),
            disk.entry? location = some .directory
        · rcases finish disk (Grows.refl ∅ _) standing with
            ⟨made, done, stands⟩ | ⟨there, found, stands⟩
          · rw [done]
            exact ⟨rfl, stands⟩
          · rw [there]
            exact ⟨if_pos found, stands⟩
        · have lost : disk.locate path = .error .notFound := by
            refine locate_notFound sound ?_ ?_
            · rw [way]
              exact can.way
            · rw [way]
              exact standing
          have missing : disk.makeDirectory path = .error .notFound := by
            simp [makeDirectory, lost, bind, Except.bind]
          rw [missing]
          generalize disk.makeChain ((Path.chain outer).map Path.ofPieces) = ending at inner grows ⊢
          obtain ⟨result, made⟩ := ending
          obtain ⟨rfl, above⟩ := inner
          simp only
          rcases finish made grows above.way_below with
            ⟨final, done, stands⟩ | ⟨there, found, stands⟩
          · rw [done]
            exact ⟨rfl, stands⟩
          · rw [there]
            exact ⟨if_pos found, stands⟩

theorem names_front {path : Path} {kept : List String} (front : Path.IsFront kept path) :
    (Path.ofPieces kept).names = namesOf kept := by
  rw [Path.names, front.pieces, namesOf]

theorem IsSound.above (sound : IsSound path) (above : Path.IsAbove outer path) :
    IsSound outer := by
  refine ⟨Path.hasNul_of_front above.text sound.clean, above.proper,
    (Path.size_of_front above.text).trans sound.short, ?_⟩
  exact fun name member => sound.names name (above.names.subset member)

/-- A directory can be made when nothing but directories is on its trail. -/
theorem makeDirectories_succeeds (sound : IsSound path)
    (standing : disk.entry? (disk.origin path) = some .directory)
    (clear : ∀ location ∈ disk.trail path, disk.Clear location) :
    (disk.makeDirectories path).1 = .ok () := by
  have whole : namesOf path.pieces.reverse = path.names := by
    rw [namesOf, List.reverse_reverse, Path.names]
  have front : ∀ kept ∈ Path.chain path.pieces.reverse, Path.IsFront kept path := by
    intro kept member
    obtain ⟨suffix, ends⟩ := Path.mem_chain member
    exact ⟨suffix, ends⟩
  have can : CanMake disk (disk.origin path) path.pieces.reverse := by
    refine ⟨?_, ?_, ?_, standing, ?_, ?_⟩
    · intro kept member
      exact sound.above (front kept member).isAbove
    · intro kept member
      rw [origin, origin, (front kept member).isAbove.absolute]
    · intro kept member
      exact names_front (front kept member)
    · intro location member
      rw [whole] at member
      exact clear location (Or.inl member)
    · rw [whole]
      exact clear _ (Or.inr rfl)
  exact (makeChain_succeeds can).1

section Join

variable {dir : Path} {name : String}

theorem names_join (dir : Path) (nonempty : name ≠ "") (plain : '/' ∉ name.toList) :
    (dir.join name).names = dir.names ++ [name] ∧ (dir.join name).isAbsolute = dir.isAbsolute := by
  by_cases blank : dir.text = ""
  · have relative : name.toList.head? ≠ some '/' := fun first => plain (List.mem_of_mem_head? first)
    obtain rfl : dir = ⟨""⟩ := congrArg Path.mk blank
    have joined : Path.join ⟨""⟩ name = ⟨name⟩ := by simp [Path.join, relative]
    refine ⟨?_, ?_⟩
    · rw [joined, Path.names, Path.pieces_of_plain name plain]
      simpa [Path.names, Path.pieces, Path.cut] using nonempty
    · rw [joined]
      simpa [Path.isAbsolute] using relative
  · exact ⟨Path.names_join dir name blank nonempty plain, Path.isAbsolute_join dir name blank plain⟩

theorem join_front (dir : Path) :
    ∃ front : String, ∀ name : String, name.toList.head? ≠ some '/' →
      dir.join name = ⟨front ++ name⟩ := by
  by_cases direct : dir.text = "" ∨ dir.endsWithSlash = true
  · refine ⟨dir.text, ?_⟩
    intro name relative
    simp [Path.join, relative, direct]
  · refine ⟨dir.text ++ "/", ?_⟩
    intro name relative
    simp [Path.join, relative, direct]

theorem join_injective {other : String} (relative : name.toList.head? ≠ some '/')
    (relativeOther : other.toList.head? ≠ some '/') (same : dir.join name = dir.join other) :
    name = other := by
  obtain ⟨front, joined⟩ := join_front dir
  rw [joined name relative, joined other relativeOther] at same
  have chars := congrArg String.toList (congrArg Path.text same)
  rw [String.toList_append, String.toList_append] at chars
  exact String.toList_injective (List.append_cancel_left chars)

/-- A path that can be followed still can be when its last name becomes a shorter one. -/
theorem IsSound.rename {other : String} (sound : IsSound (dir.join name)) (nonempty : name ≠ "")
    (plain : '/' ∉ name.toList) (proper : other ≠ "" ∧ other ≠ "." ∧ other ≠ "..")
    (plainOther : '/' ∉ other.toList) (clean : '\x00' ∉ other.toList)
    (shorter : other.utf8ByteSize ≤ name.utf8ByteSize) (named : name ≠ "." ∧ name ≠ "..") :
    IsSound (dir.join other) := by
  have relative : name.toList.head? ≠ some '/' := fun first => plain (List.mem_of_mem_head? first)
  have relativeOther : other.toList.head? ≠ some '/' :=
    fun first => plainOther (List.mem_of_mem_head? first)
  obtain ⟨front, joined⟩ := join_front dir
  have names := (names_join dir nonempty plain).1
  have namesOther := (names_join dir proper.1 plainOther).1
  rw [joined name relative] at sound names
  rw [joined other relativeOther] at namesOther ⊢
  refine ⟨?_, ?_, ?_, ?_⟩
  · have before := sound.clean
    simp only [Path.hasNul, String.toList_append, List.contains_append, Bool.or_eq_false_iff]
      at before ⊢
    exact ⟨before.1, by simpa using clean⟩
  · intro blank
    have empty : front = "" ∧ other = "" := by simpa using blank
    exact proper.1 empty.2
  · have limit := sound.short
    simp only [String.utf8ByteSize_append] at limit ⊢
    omega
  · rw [namesOther]
    intro one member
    rcases List.mem_append.mp member with early | last
    · exact sound.names one (by rw [names]; exact List.mem_append_left _ early)
    · rw [List.mem_singleton.mp last]
      have limit := sound.names name (by rw [names]; exact List.mem_append_right _ (by simp))
      simp only [IsShort, named.1, named.2, false_or] at limit
      exact Or.inr (Or.inr (Nat.le_trans shorter limit))

theorem way_join (disk : Disk) (dir : Path) (nonempty : name ≠ "") (plain : '/' ∉ name.toList) :
    disk.way (dir.join name) = disk.way dir ++ [disk.place dir] := by
  obtain ⟨names, absolute⟩ := names_join dir nonempty plain
  have start : disk.origin (dir.join name) = disk.origin dir := by
    rw [origin, origin, absolute]
  rw [way, start, names, passed_append]
  rfl

theorem place_join (disk : Disk) (dir : Path) (nonempty : name ≠ "") (plain : '/' ∉ name.toList)
    (notDot : name ≠ ".") (notDots : name ≠ "..") :
    disk.place (dir.join name) = name :: disk.place dir := by
  obtain ⟨names, absolute⟩ := names_join dir nonempty plain
  have start : disk.origin (dir.join name) = disk.origin dir := by
    rw [origin, origin, absolute]
  rw [place, start, names, reached_append]
  simp only [reached, List.foldl_cons, List.foldl_nil, onward, notDot, notDots, if_false]
  rfl

/-- The directories above a name placed in a folder are the folder and those above it. -/
theorem ancestors_join (dir : Path) (nonempty : name ≠ "") (plain : '/' ∉ name.toList)
    (notDot : name ≠ ".") :
    ∃ outer, (dir.join name).ancestors = dir.join name :: outer ∧
      ∀ above ∈ outer, Path.IsAbove above dir := by
  by_cases blank : dir.text = ""
  · have relative : name.toList.head? ≠ some '/' := fun first => plain (List.mem_of_mem_head? first)
    obtain rfl : dir = ⟨""⟩ := congrArg Path.mk blank
    have joined : Path.join ⟨""⟩ name = ⟨name⟩ := by simp [Path.join, relative]
    refine ⟨[], ?_, fun above member => absurd member List.not_mem_nil⟩
    rw [joined, Path.ancestors, Path.pieces_of_plain name plain]
    simp [Path.chain, nonempty, Path.ofPieces]
  · have pieces := Path.pieces_join dir name blank plain
    refine ⟨(Path.chain dir.stem.pieces.reverse).map Path.ofPieces, ?_, ?_⟩
    · have own : Path.ofPieces (name :: dir.stem.pieces.reverse) = dir.join name := by
        have text := Path.text_eq_intercalate (dir.join name)
        rw [pieces] at text
        rw [Path.ofPieces, List.reverse_cons, List.reverse_reverse, ← text]
      rw [Path.ancestors, pieces, List.reverse_append, ← own]
      simp [Path.chain, nonempty, notDot]
    · intro above member
      have lower : Path.IsAbove above dir.stem := Path.isAbove_of_mem_ancestors member
      have split := Path.text_eq_stem_append dir
      have front : dir.stem.text.toList <+: dir.text.toList := ⟨_, split.symm⟩
      have proper : dir.stem.text ≠ "" := by
        intro empty
        have text := lower.text
        rw [empty] at text
        exact lower.proper (by simpa using text)
      refine ⟨?_, ?_, lower.text.trans front, lower.proper⟩
      · rw [lower.absolute, Path.isAbsolute_of_front front proper]
      · rw [← Path.names_stem dir]
        exact lower.names

/-- A directory is made in a folder with all that is missing on the trail of the folder. If that
fails, nothing but the latter was made. -/
theorem makeDirectories_join (disk : Disk) (dir : Path) (nonempty : name ≠ "")
    (plain : '/' ∉ name.toList) (notDot : name ≠ ".") :
    Grows (disk.trail dir ∪ {disk.place (dir.join name)}) disk
        (disk.makeDirectories (dir.join name)).2 ∧
      ((disk.makeDirectories (dir.join name)).1 = .ok () →
        (disk.makeDirectories (dir.join name)).2.isDirectory (dir.join name) = true) ∧
      ((disk.makeDirectories (dir.join name)).1 ≠ .ok () →
        Grows (disk.trail dir) disk (disk.makeDirectories (dir.join name)).2) := by
  obtain ⟨outer, ancestors, above⟩ := ancestors_join dir nonempty plain notDot
  have inside : disk.placesOf outer ⊆ disk.trail dir := placesOf_subset_trail above
  obtain ⟨grows, stands⟩ := makeChain_grows disk (dir.join name) outer
  have failed := makeChain_failed disk (dir.join name) outer
  rw [makeDirectories, ancestors]
  refine ⟨grows.mono ?_, stands, fun failure => (failed failure).mono inside⟩
  rintro location ⟨path, member, rfl⟩
  rcases List.mem_cons.mp member with rfl | later
  · exact Or.inr rfl
  · exact Or.inl (inside ⟨path, later, rfl⟩)

end Join

end Disk

end SpokenMarkup
