import Mathlib.Data.List.Nodup
import SpokenMarkup.Proofs.Sound.GraphReading

set_option autoImplicit false

namespace SpokenMarkup.FilterGraph

/-- What filters do to a sound, whatever a sound is. -/
structure Treatment (S : Type) where
  resample : Nat → S → S
  mono : S → S
  concat : List S → S

/-- The pads that wait to be consumed, with their sounds, and the names of all pads that there ever
were. -/
structure Pads (S : Type) where
  waiting : List (String × S)
  names : List String

variable {S : Type}

/-- The sound of a pad, and what waits without that pad. -/
def take (name : String) : List (String × S) → Option (S × List (String × S))
  | [] => none
  | (other, sound) :: rest =>
    if other = name then some (sound, rest)
    else (take name rest).map fun (found, left) => (found, (other, sound) :: left)

def takeAll : List String → List (String × S) → Option (List S × List (String × S))
  | [], waiting => some ([], waiting)
  | name :: names, waiting => do
    let (sound, left) ← take name waiting
    let (sounds, rest) ← takeAll names left
    pure (sound :: sounds, rest)

/-- A filter takes one sound, but for that which joins as many as it announces. -/
def Filter.apply (treatment : Treatment S) : Filter → List S → Option S
  | .resample rate, [sound] => some (treatment.resample rate sound)
  | .mono, [sound] => some (treatment.mono sound)
  | .concat count, sounds =>
    if count = sounds.length then some (treatment.concat sounds) else none
  | _, _ => none

def applyAll (treatment : Treatment S) : List Filter → List S → Option (List S)
  | [], sounds => some sounds
  | filter :: rest, sounds => do applyAll treatment rest [← filter.apply treatment sounds]

/-- Follows a statement that defines one pad, which must not have been defined before. -/
def Statement.follow (treatment : Treatment S) (pads : Pads S) (statement : Statement) :
    Option (Pads S) := do
  let (sounds, left) ← takeAll statement.consumes pads.waiting
  match statement.defines, ← applyAll treatment statement.filters sounds with
  | [name], [sound] =>
    if name ∈ pads.names then none else some ⟨left ++ [(name, sound)], name :: pads.names⟩
  | _, _ => none

def evaluate (treatment : Treatment S) (statements : List Statement) (pads : Pads S) :
    Option (Pads S) :=
  statements.foldlM (Statement.follow treatment) pads

def Pads.ofInputs (sounds : List S) : Pads S :=
  let names := (List.range sounds.length).map source
  ⟨names.zip sounds, names⟩

theorem toString_inj {first second : Nat}
    (same : (toString first).toList = (toString second).toList) : first = second := by
  have number := number?_toString first
  rw [same, number?_toString] at number
  exact (Option.some.inj number).symm

theorem mixed_inj {first second : Nat} (same : mixed first = mixed second) : first = second := by
  have chars := congrArg String.toList same
  rw [mixed, mixed, String.toList_append, String.toList_append] at chars
  exact toString_inj (List.append_cancel_left chars)

theorem source_inj {first second : Nat} (same : source first = source second) :
    first = second := by
  have chars := congrArg String.toList same
  rw [source, source, String.toList_append, String.toList_append] at chars
  exact toString_inj (List.append_cancel_right chars)

theorem colon_mem_source (input : Nat) : ':' ∈ (source input).toList := by
  rw [source, String.toList_append]
  exact List.mem_append_right _ (by decide)

theorem mixed_ne_source (first second : Nat) : mixed first ≠ source second := by
  intro same
  have colon := colon_mem_source second
  rw [← same, mixed, String.toList_append] at colon
  exact (List.mem_append.mp colon).elim (by decide) (not_mem_toString first ':' (by decide))

theorem source_ne_out (input : Nat) : source input ≠ "out" := by
  intro same
  have colon := colon_mem_source input
  rw [same] at colon
  exact absurd colon (by decide)

theorem mixed_ne_out (input : Nat) : mixed input ≠ "out" := by
  intro same
  have first : 'a' ∈ (mixed input).toList := by
    rw [mixed, String.toList_append]
    exact List.mem_append_left _ (by decide)
  rw [same] at first
  exact absurd first (by decide)

theorem nodup_pads (inputs : Nat) :
    ((List.range inputs).map source ++ ((List.range inputs).map mixed ++ ["out"])).Nodup := by
  have sources : ((List.range inputs).map source).Nodup :=
    List.nodup_range.map fun _ _ => source_inj
  have results : ((List.range inputs).map mixed).Nodup :=
    List.nodup_range.map fun _ _ => mixed_inj
  have last : ((List.range inputs).map mixed ++ ["out"]).Nodup := by
    refine results.append (List.nodup_singleton _) ?_
    simpa using fun input _ => mixed_ne_out input
  refine sources.append last ?_
  intro name inSources later
  obtain ⟨input, -, rfl⟩ := List.mem_map.mp inSources
  rcases List.mem_append.mp later with inResults | isOut
  · obtain ⟨other, -, same⟩ := List.mem_map.mp inResults
    exact mixed_ne_source other input same
  · exact source_ne_out input (List.mem_singleton.mp isOut)

/-- Every pad is there before it is consumed: it was given, or an earlier statement defines it. No
pad is there twice, and all but those that are left are consumed once. -/
structure WellFormed (given left : List String) (statements : List Statement) : Prop where
  nodup : (given ++ statements.flatMap (·.defines)).Nodup
  consumed : (statements.flatMap (·.consumes) ++ left).Perm
    (given ++ statements.flatMap (·.defines))
  before : ∀ front statement back, statements = front ++ statement :: back →
    ∀ name ∈ statement.consumes, name ∈ given ++ front.flatMap (·.defines)

theorem wellFormed_joined (inputs sampleRate : Nat) :
    WellFormed ((List.range inputs).map source) ["out"]
      ((List.range inputs).map (resampling sampleRate) ++ [joining inputs]) := by
  have consumes : ((List.range inputs).map (resampling sampleRate)).flatMap (·.consumes) =
      (List.range inputs).map source := by
    simp [List.flatMap_map, resampling, ← List.map_eq_flatMap]
  have defines : ((List.range inputs).map (resampling sampleRate)).flatMap (·.defines) =
      (List.range inputs).map mixed := by
    simp [List.flatMap_map, resampling, ← List.map_eq_flatMap]
  have defined : (((List.range inputs).map (resampling sampleRate)) ++ [joining inputs]).flatMap
      (·.defines) = (List.range inputs).map mixed ++ ["out"] := by
    rw [List.flatMap_append, defines]
    rfl
  constructor
  · rw [defined]
    exact nodup_pads inputs
  · have last : [joining inputs].flatMap (·.consumes) = (List.range inputs).map mixed :=
      List.append_nil _
    rw [defined, List.flatMap_append, consumes, last, List.append_assoc]
  · intro front statement back parts name consumed
    rcases List.eq_nil_or_concat back with rfl | ⟨others, last, rfl⟩
    · obtain ⟨rfl, single⟩ := List.append_inj' parts rfl
      obtain rfl := (List.cons.inj single).1
      rw [defines]
      exact List.mem_append_right _ consumed
    · rw [List.concat_eq_append, ← List.cons_append, ← List.append_assoc] at parts
      obtain ⟨resamples, -⟩ := List.append_inj' parts rfl
      have member : statement ∈ (List.range inputs).map (resampling sampleRate) := by
        rw [resamples]
        exact List.mem_append_right _ (List.mem_cons_self ..)
      obtain ⟨input, within, rfl⟩ := List.mem_map.mp member
      obtain rfl := List.mem_singleton.mp consumed
      exact List.mem_append_left _ (List.mem_map_of_mem within)

section Joining

variable (treatment : Treatment S) (sampleRate : Nat)

def Treatment.prepare (sound : S) : S :=
  treatment.mono (treatment.resample sampleRate sound)

/-- Pads that wait in order are taken in order. -/
theorem takeAll_zip (names : List String) (sounds : List S) (rest : List (String × S))
    (same : names.length = sounds.length) :
    takeAll names (names.zip sounds ++ rest) = some (sounds, rest) := by
  induction names generalizing sounds with
  | nil =>
      cases sounds with
      | nil => rfl
      | cons sound sounds => cases same
  | cons name names ih =>
      cases sounds with
      | nil => cases same
      | cons sound sounds =>
          have first : take name ((name, sound) :: (names.zip sounds ++ rest)) =
              some (sound, names.zip sounds ++ rest) := if_pos rfl
          rw [List.zip_cons_cons, List.cons_append, takeAll, first]
          change (takeAll names _).bind _ = _
          rw [ih sounds (Nat.succ.inj same)]
          rfl

/-- One input is resampled: its pad is gone, and the pad of the result is the last to wait. -/
theorem follow_resampling (input : Nat) (sound : S) (rest : List (String × S)) (names : List String)
    (fresh : mixed input ∉ names) :
    (resampling sampleRate input).follow treatment ⟨(source input, sound) :: rest, names⟩ =
      some ⟨rest ++ [(mixed input, treatment.prepare sampleRate sound)],
        mixed input :: names⟩ := by
  have taken : takeAll [source input] ((source input, sound) :: rest) = some ([sound], rest) :=
    takeAll_zip [source input] [sound] rest rfl
  rw [Statement.follow, resampling, taken]
  exact if_neg fresh

theorem evaluate_resampling (inputs : List Nat) (sounds : List S) (ready : List (String × S))
    (names : List String) (same : inputs.length = sounds.length) (distinct : inputs.Nodup)
    (fresh : ∀ input ∈ inputs, mixed input ∉ names) :
    evaluate treatment (inputs.map (resampling sampleRate))
        ⟨(inputs.map source).zip sounds ++ ready, names⟩ =
      some ⟨ready ++ (inputs.map mixed).zip (sounds.map (treatment.prepare sampleRate)),
        (inputs.map mixed).reverse ++ names⟩ := by
  induction inputs generalizing sounds ready names with
  | nil =>
      cases sounds with
      | nil => simp [evaluate]
      | cons sound sounds => cases same
  | cons input inputs ih =>
      cases sounds with
      | nil => cases same
      | cons sound sounds =>
          obtain ⟨apart, distinct⟩ := List.nodup_cons.mp distinct
          obtain ⟨first, fresh⟩ := List.forall_mem_cons.mp fresh
          have later : ∀ other ∈ inputs, mixed other ∉ mixed input :: names := by
            intro other member
            rw [List.mem_cons, not_or]
            exact ⟨fun equal => apart (mixed_inj equal ▸ member), fresh other member⟩
          have others := ih sounds (ready ++ [(mixed input, treatment.prepare sampleRate sound)])
            (mixed input :: names) (Nat.succ.inj same) distinct later
          rw [← List.append_assoc] at others
          rw [List.map_cons, List.map_cons, List.zip_cons_cons, List.cons_append, evaluate,
            List.foldlM_cons, follow_resampling treatment sampleRate input sound _ names first]
          change evaluate treatment _ _ = _
          rw [others]
          simp

/-- The results are joined in the order in which they wait, and nothing else is left. -/
theorem follow_joining (sounds : List S) (names : List String) (fresh : "out" ∉ names) :
    (joining sounds.length).follow treatment
        ⟨((List.range sounds.length).map mixed).zip sounds, names⟩ =
      some ⟨[("out", treatment.concat sounds)], "out" :: names⟩ := by
  have taken := takeAll_zip ((List.range sounds.length).map mixed) sounds []
    (by rw [List.length_map, List.length_range])
  rw [List.append_nil] at taken
  have joined : applyAll treatment [.concat sounds.length] sounds =
      some [treatment.concat sounds] := by
    rw [applyAll, Filter.apply, if_pos rfl]
    rfl
  rw [Statement.follow, joining, taken]
  change (applyAll treatment [.concat sounds.length] sounds).bind _ = _
  rw [joined]
  exact if_neg fresh

/-- The graph that joins inputs makes one sound of them, in order, and leaves no other pad. -/
theorem evaluate_joined (sounds : List S) :
    (evaluate treatment ((List.range sounds.length).map (resampling sampleRate) ++
        [joining sounds.length]) (Pads.ofInputs sounds)).map Pads.waiting =
      some [("out", treatment.concat (sounds.map (treatment.prepare sampleRate)))] := by
  have unmixed : ∀ input ∈ List.range sounds.length,
      mixed input ∉ (List.range sounds.length).map source := by
    intro input _ member
    obtain ⟨other, -, same⟩ := List.mem_map.mp member
    exact mixed_ne_source input other same.symm
  have resampled := evaluate_resampling treatment sampleRate (List.range sounds.length) sounds []
    ((List.range sounds.length).map source) List.length_range List.nodup_range unmixed
  have fresh : "out" ∉ ((List.range sounds.length).map mixed).reverse ++
      (List.range sounds.length).map source := by
    rw [List.mem_append, List.mem_reverse, List.mem_map, List.mem_map]
    rintro (⟨input, -, same⟩ | ⟨input, -, same⟩)
    · exact mixed_ne_out input same
    · exact source_ne_out input same
  have joined := follow_joining treatment (sounds.map (treatment.prepare sampleRate)) _ fresh
  rw [List.append_nil, List.nil_append] at resampled
  rw [List.length_map] at joined
  rw [evaluate] at resampled
  rw [evaluate, List.foldlM_append, Pads.ofInputs, resampled]
  change (((joining sounds.length).follow treatment _).bind some).map Pads.waiting = _
  rw [joined]
  rfl

end Joining

end SpokenMarkup.FilterGraph
