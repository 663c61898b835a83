import Mathlib.Data.List.Basic
import SpokenMarkup.Sound.FilterGraph

set_option autoImplicit false

namespace SpokenMarkup.FilterGraph

inductive Filter where
  | resample (rate : Nat)
  | mono
  /-- Joins as many sounds as are announced, without video. -/
  | concat (count : Nat)
deriving DecidableEq, Repr

/-- Filters one after the other, between the pads that they consume and those that they define. -/
structure Statement where
  consumes : List String
  filters : List Filter
  defines : List String
deriving DecidableEq, Repr

def number? (digits : List Char) : Option Nat :=
  if digits ≠ [] ∧ digits.all Char.isDigit then some (Nat.ofDigitChars 10 digits 0) else none

def Filter.named (name : List Char) (settings : List (List Char)) : Option Filter :=
  if name = "aresample".toList then
    match settings with
    | [rate] => (number? rate).map .resample
    | _ => none
  else if name = "aformat".toList then
    if settings = ["channel_layouts=mono".toList] then some .mono else none
  else if name = "concat".toList then
    match settings with
    | ('n' :: '=' :: count) :: rest =>
      if rest = ["v=0".toList, "a=1".toList] then (number? count).map .concat else none
    | _ => none
  else none

/-- The name of a filter ends at the first equals sign, and colons separate its settings. -/
def Filter.read (text : List Char) : Option Filter :=
  named (text.takeWhile (· ≠ '=')) ((text.dropWhile (· ≠ '=')).tail.splitOn ':')

/-- A part of a statement: the name of a pad, which stands in brackets, or what stands outside. -/
inductive Piece where
  | pad (name : String)
  | plain (text : List Char)
deriving DecidableEq, Repr

namespace Piece

def name? : Piece → Option String
  | pad name => some name
  | plain _ => none

def ofPlain (read : List Char) : List Piece :=
  if read = [] then [] else [.plain read.reverse]

/-- Cuts a statement at its brackets, from inside one or from outside. -/
def cut : Bool → List Char → List Char → Option (List Piece)
  | false, read, [] => some (ofPlain read)
  | true, _, [] => none
  | false, read, c :: rest =>
    if c = '[' then (cut true [] rest).map (ofPlain read ++ ·) else cut false (c :: read) rest
  | true, read, c :: rest =>
    if c = ']' then (cut false [] rest).map (.pad (String.ofList read.reverse) :: ·)
    else cut true (c :: read) rest

end Piece

namespace Statement

/-- The pads in front are consumed, and those behind the filters defined. -/
def ofPieces : List Piece → Option Statement
  | [] => none
  | .pad name :: rest =>
    (ofPieces rest).map fun statement => { statement with consumes := name :: statement.consumes }
  | .plain text :: rest => do
    let filters ← (text.splitOn ',').mapM Filter.read
    let defines ← rest.mapM Piece.name?
    pure ⟨[], filters, defines⟩

def read (text : List Char) : Option Statement :=
  (Piece.cut false [] text).bind ofPieces

end Statement

/-- The statements of a graph, which semicolons separate. -/
def read (graph : String) : Option (List Statement) :=
  (graph.toList.splitOn ';').mapM Statement.read

def source (input : Nat) : String :=
  toString input ++ ":a"

def mixed (input : Nat) : String :=
  "a" ++ toString input

def resampling (sampleRate input : Nat) : Statement :=
  ⟨[source input], [.resample sampleRate, .mono], [mixed input]⟩

def joining (inputs : Nat) : Statement :=
  ⟨(List.range inputs).map mixed, [.concat inputs], ["out"]⟩

theorem number?_toString (number : Nat) : number? (toString number).toList = some number := by
  have printed : (toString number).toList = Nat.toDigits 10 number := Nat.toList_repr
  have all : (Nat.toDigits 10 number).all Char.isDigit = true :=
    List.all_eq_true.mpr fun c member =>
      Nat.isDigit_of_mem_toDigits (by decide) (by decide) member
  rw [printed, number?, if_pos ⟨Nat.toDigits_ne_nil, all⟩, Nat.ofDigitChars_ten_toDigits]

theorem not_mem_toString (number : Nat) (c : Char) (other : c.isDigit = false) :
    c ∉ (toString number).toList := by
  intro member
  have digit : c.isDigit = true :=
    Nat.isDigit_of_mem_toDigits (by decide) (by decide) (Nat.toList_repr ▸ member)
  rw [other] at digit
  cases digit

theorem Piece.cut_inside (name read rest : List Char) (inside : ']' ∉ name) :
    cut true read (name ++ ']' :: rest) =
      (cut false [] rest).map (.pad (String.ofList (read.reverse ++ name)) :: ·) := by
  induction name generalizing read with
  | nil => rw [List.nil_append, cut, if_pos rfl, List.append_nil]
  | cons c name ih =>
      rw [List.mem_cons, not_or] at inside
      rw [List.cons_append, cut, if_neg (Ne.symm inside.1), ih _ inside.2, List.reverse_cons,
        List.append_assoc, List.singleton_append]

theorem Piece.cut_outside (text read rest : List Char) (outside : '[' ∉ text) :
    cut false read (text ++ rest) = cut false (text.reverse ++ read) rest := by
  induction text generalizing read with
  | nil => rfl
  | cons c text ih =>
      rw [List.mem_cons, not_or] at outside
      rw [List.cons_append, cut, if_neg (Ne.symm outside.1), ih _ outside.2, List.reverse_cons,
        List.append_assoc, List.singleton_append]

/-- A pad in brackets is cut off, with the text in front of it. -/
theorem Piece.cut_pad (text : List Char) (name : String) (rest : List Char) (outside : '[' ∉ text)
    (inside : ']' ∉ name.toList) :
    cut false [] (text ++ '[' :: (name.toList ++ ']' :: rest)) =
      (cut false [] rest).map (ofPlain text.reverse ++ .pad name :: ·) := by
  rw [cut_outside text _ _ outside, List.append_nil, cut, if_pos rfl,
    cut_inside name.toList [] rest inside, Option.map_map, List.reverse_nil, List.nil_append,
    String.ofList_toList]
  rfl

theorem Filter.read_named (name settings : List Char) (plain : '=' ∉ name) :
    read (name ++ '=' :: settings) = named name (settings.splitOn ':') := by
  have other : ∀ c ∈ name, decide (c ≠ '=') = true := by
    intro c member
    exact decide_eq_true fun same => plain (same ▸ member)
  rw [read, List.takeWhile_append_of_pos other, List.dropWhile_append_of_pos other,
    List.takeWhile_cons_of_neg (by decide), List.dropWhile_cons_of_neg (by decide),
    List.append_nil, List.tail_cons]

theorem Filter.read_resample (sampleRate : Nat) :
    read ("aresample=" ++ toString sampleRate).toList = some (.resample sampleRate) := by
  have written : ("aresample=" ++ toString sampleRate).toList =
      "aresample".toList ++ '=' :: (toString sampleRate).toList := by
    rw [String.toList_append]
    rfl
  have rate := not_mem_toString sampleRate ':' (by decide)
  rw [written, read_named _ _ (by decide), List.splitOn_eq_singleton rate]
  change (number? (toString sampleRate).toList).map Filter.resample = _
  rw [number?_toString]
  rfl

/-- The filter that joins, which announces how many inputs there are. -/
def announcement (inputs : Nat) : List Char :=
  ("concat=n=" ++ toString inputs ++ ":v=0:a=1").toList

theorem not_mem_announcement (inputs : Nat) (c : Char) (other : c.isDigit = false)
    (fixed : c ∉ "concat=n=".toList ++ ":v=0:a=1".toList) : c ∉ announcement inputs := by
  rw [List.mem_append, not_or] at fixed
  rw [announcement, String.toList_append, String.toList_append, List.mem_append, List.mem_append,
    not_or, not_or]
  exact ⟨⟨fixed.1, not_mem_toString inputs c other⟩, fixed.2⟩

theorem Filter.read_announcement (inputs : Nat) :
    read (announcement inputs) = some (.concat inputs) := by
  have written : announcement inputs =
      "concat".toList ++ '=' :: ("n=".toList ++ (toString inputs).toList ++
        ':' :: ("v=0".toList ++ ':' :: "a=1".toList)) := by
    rw [announcement, String.toList_append, String.toList_append, List.append_assoc]
    rfl
  have count : ':' ∉ "n=".toList ++ (toString inputs).toList :=
    fun member => (List.mem_append.mp member).elim (by decide)
      (not_mem_toString inputs ':' (by decide))
  rw [written, read_named _ _ (by decide), List.splitOn_append_cons_self,
    List.splitOn_append_cons_self, List.splitOn_eq_singleton count,
    List.splitOn_eq_singleton (by decide), List.splitOn_eq_singleton (by decide)]
  change (number? (toString inputs).toList).map Filter.concat = _
  rw [number?_toString]
  rfl

theorem Statement.read_pad (name : String) (rest : List Char) (inside : ']' ∉ name.toList) :
    read ('[' :: (name.toList ++ ']' :: rest)) =
      (read rest).map fun statement =>
        { statement with consumes := name :: statement.consumes } := by
  have front := Piece.cut_pad [] name rest List.not_mem_nil inside
  rw [List.nil_append] at front
  rw [read, read, front]
  cases Piece.cut false [] rest with
  | none => rfl
  | some pieces => rfl

theorem Statement.read_filters (text : List Char) (name : String) (long : text ≠ [])
    (outside : '[' ∉ text) (inside : ']' ∉ name.toList) :
    read (text ++ '[' :: (name.toList ++ [']'])) =
      ((text.splitOn ',').mapM Filter.read).map fun filters => ⟨[], filters, [name]⟩ := by
  have plain : Piece.ofPlain text.reverse = [.plain text] := by
    rw [Piece.ofPlain, if_neg (by simpa using long), List.reverse_reverse]
  rw [read, Piece.cut_pad text name [] outside inside, plain]
  change ofPieces [.plain text, .pad name] = _
  rw [ofPieces]
  cases (text.splitOn ',').mapM Filter.read with
  | none => rfl
  | some filters => rfl

/-- What a sound is led through before it is joined with others. -/
def preparation (sampleRate : Nat) : List Char :=
  ("aresample=" ++ toString sampleRate).toList ++ ',' :: "aformat=channel_layouts=mono".toList

theorem mapM_read_preparation (sampleRate : Nat) :
    ((preparation sampleRate).splitOn ',').mapM Filter.read =
      some [.resample sampleRate, .mono] := by
  have comma : ',' ∉ ("aresample=" ++ toString sampleRate).toList := by
    rw [String.toList_append, List.mem_append, not_or]
    exact ⟨by decide, not_mem_toString sampleRate ',' (by decide)⟩
  rw [preparation, List.splitOn_append_cons_self, List.splitOn_eq_singleton comma,
    List.splitOn_eq_singleton (by decide), List.singleton_append, List.mapM_cons,
    Filter.read_resample]
  rfl

def resamplingText (sampleRate input : Nat) : List Char :=
  '[' :: ((source input).toList ++
    ']' :: (preparation sampleRate ++ '[' :: ((mixed input).toList ++ [']'])))

theorem toList_resampled (sampleRate input : Nat) :
    (resampled sampleRate input).toList = resamplingText sampleRate input ++ [';'] := by
  simp only [resampled, resamplingText, preparation, source, mixed, String.toList_append,
    List.append_assoc, List.cons_append, List.nil_append]
  rfl

theorem not_mem_resamplingText (sampleRate input : Nat) :
    ';' ∉ resamplingText sampleRate input := by
  have number (value : Nat) := not_mem_toString value ';' (by decide)
  simp only [resamplingText, preparation, source, mixed, String.toList_append, List.mem_cons,
    List.mem_append, not_or]
  exact ⟨by decide, ⟨number input, by decide⟩, by decide,
    ⟨⟨by decide, number sampleRate⟩, by decide, by decide⟩, by decide,
    ⟨by decide, number input⟩, by decide, by decide⟩

theorem not_mem_mixed (input : Nat) : ']' ∉ (mixed input).toList := by
  rw [mixed, String.toList_append, List.mem_append, not_or]
  exact ⟨by decide, not_mem_toString input ']' (by decide)⟩

theorem Statement.read_resamplingText (sampleRate input : Nat) :
    read (resamplingText sampleRate input) = some (resampling sampleRate input) := by
  have inSource : ']' ∉ (source input).toList := by
    rw [source, String.toList_append, List.mem_append, not_or]
    exact ⟨not_mem_toString input ']' (by decide), by decide⟩
  have outside : '[' ∉ preparation sampleRate := by
    rw [preparation, String.toList_append, List.append_assoc, List.mem_append, List.mem_append,
      not_or, not_or]
    exact ⟨by decide, not_mem_toString sampleRate '[' (by decide), by decide⟩
  have long : preparation sampleRate ≠ [] :=
    List.append_ne_nil_of_right_ne_nil _ (List.cons_ne_nil _ _)
  rw [resamplingText, read_pad _ _ inSource, read_filters _ _ long outside (not_mem_mixed input),
    mapM_read_preparation]
  rfl

theorem Statement.read_pads (inputs : List Nat) (rest : List Char) :
    read (inputs.flatMap (fun input => (pad input).toList) ++ rest) =
      (read rest).map fun statement =>
        { statement with consumes := inputs.map mixed ++ statement.consumes } := by
  induction inputs with
  | nil => simp
  | cons input inputs ih =>
      have written (later : List Char) : (pad input).toList ++ later =
          '[' :: ((mixed input).toList ++ ']' :: later) := by
        simp only [pad, mixed, String.toList_append, List.append_assoc]
        rfl
      rw [List.flatMap_cons, List.append_assoc, written, read_pad _ _ (not_mem_mixed input), ih,
        Option.map_map]
      rfl

/-- The last statement of a graph that joins inputs. -/
def joiningText (inputs : Nat) : List Char :=
  (List.range inputs).flatMap (fun input => (pad input).toList) ++
    (announcement inputs ++ "[out]".toList)

theorem not_mem_joiningText (inputs : Nat) : ';' ∉ joiningText inputs := by
  have number (value : Nat) := not_mem_toString value ';' (by decide)
  simp only [joiningText, pad, String.toList_append, List.mem_append, List.mem_flatMap, not_or,
    not_exists, not_and]
  exact ⟨fun input _ => ⟨⟨by decide, number input⟩, by decide⟩,
    not_mem_announcement inputs ';' (by decide) (by decide), by decide⟩

theorem Statement.read_joiningText (inputs : Nat) :
    read (joiningText inputs) = some (joining inputs) := by
  have outside := not_mem_announcement inputs '[' (by decide) (by decide)
  have comma := not_mem_announcement inputs ',' (by decide) (by decide)
  have long : announcement inputs ≠ [] := by
    rw [announcement, String.toList_append]
    exact List.append_ne_nil_of_right_ne_nil _ (by decide)
  have body := read_filters (announcement inputs) "out" long outside (by decide)
  rw [List.splitOn_eq_singleton comma, List.mapM_cons, Filter.read_announcement] at body
  have out : "[out]".toList = '[' :: ("out".toList ++ [']']) := rfl
  rw [joiningText, read_pads, out, body]
  simp [joining]

theorem splitOn_ended (separator : Char) (texts : List (List Char)) (last : List Char)
    (none : ∀ text ∈ texts, separator ∉ text) :
    (texts.flatMap (· ++ [separator]) ++ last).splitOn separator =
      texts ++ last.splitOn separator := by
  induction texts with
  | nil => rfl
  | cons text texts ih =>
      obtain ⟨first, others⟩ := List.forall_mem_cons.mp none
      rw [List.flatMap_cons, List.append_assoc, List.append_assoc, List.singleton_append,
        List.splitOn_append_cons_self, List.splitOn_eq_singleton first, ih others,
        List.singleton_append, List.cons_append]

theorem toList_joined (inputs sampleRate : Nat) :
    (joined inputs sampleRate).toList =
      ((List.range inputs).map (resamplingText sampleRate)).flatMap (· ++ [';']) ++
        joiningText inputs := by
  have out : ":v=0:a=1[out]".toList = ":v=0:a=1".toList ++ "[out]".toList := rfl
  simp only [joined, joiningText, announcement, String.toList_append, String.toList_join,
    List.flatMap_map, toList_resampled, out, List.append_assoc]

/-- The graph that joins inputs resamples each of them, and joins what comes of that in order. -/
theorem read_joined (inputs sampleRate : Nat) :
    read (joined inputs sampleRate) =
      some ((List.range inputs).map (resampling sampleRate) ++ [joining inputs]) := by
  have none : ∀ text ∈ (List.range inputs).map (resamplingText sampleRate), ';' ∉ text := by
    intro text member
    obtain ⟨input, -, rfl⟩ := List.mem_map.mp member
    exact not_mem_resamplingText sampleRate input
  have each : Statement.read ∘ resamplingText sampleRate =
      fun input => pure (resampling sampleRate input) :=
    funext (Statement.read_resamplingText sampleRate)
  rw [read, toList_joined, splitOn_ended ';' _ _ none,
    List.splitOn_eq_singleton (not_mem_joiningText inputs), List.mapM_append, List.mapM_map, each,
    List.mapM_pure, List.mapM_cons, Statement.read_joiningText]
  rfl

end SpokenMarkup.FilterGraph
