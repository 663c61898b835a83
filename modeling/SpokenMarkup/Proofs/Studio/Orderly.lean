import Mathlib.Data.List.Flatten
import SpokenMarkup.Proofs.Studio.Desk

set_option autoImplicit false

namespace SpokenMarkup

theorem Call.apart {calls rest : List Call} {call other : Call} (split : calls.Perm (call :: rest))
    (distinct : (calls.flatMap Call.numbers).Nodup) (member : other ∈ rest) {number : Nat}
    (own : number ∈ call.numbers) : number ∉ other.numbers := by
  have whole := (split.flatMap_right Call.numbers).nodup_iff.mp distinct
  rw [List.flatMap_cons, List.nodup_append] at whole
  intro also
  exact whole.2.2 number own number (List.mem_flatMap.mpr ⟨other, member, also⟩) rfl

theorem Call.perm_middle {γ : Type _} (front back : List (Call × γ)) (call : Call) (what : γ)
    (more : List Call) : ((front ++ (call, what) :: back).map Prod.fst ++ more).Perm
      (call :: ((front ++ back).map Prod.fst ++ more)) := by
  rw [List.map_append, List.map_cons, List.append_assoc, List.cons_append, List.map_append,
    List.append_assoc]
  exact List.perm_middle

theorem Call.length_numbers_le {calls : List Call}
    (single : ∀ call ∈ calls, call.numbers.length ≤ 1) :
    (calls.flatMap Call.numbers).length ≤ calls.length := by
  induction calls with
  | nil => exact Nat.le_refl _
  | cons call rest ih =>
      obtain ⟨one, others⟩ := List.forall_mem_cons.mp single
      have bound := ih others
      rw [List.flatMap_cons, List.length_append, List.length_cons]
      omega

theorem Call.length_numbers_lt {calls : List Call}
    (single : ∀ call ∈ calls, call.numbers.length ≤ 1) {call : Call} (member : call ∈ calls)
    (unnumbered : call.numbers = []) : (calls.flatMap Call.numbers).length < calls.length := by
  obtain ⟨front, back, rfl⟩ := List.append_of_mem member
  have early := Call.length_numbers_le fun other listed =>
    single other (List.mem_append_left _ listed)
  have late := Call.length_numbers_le fun other listed =>
    single other (List.mem_append_right front (List.mem_cons_of_mem call listed))
  rw [List.flatMap_append, List.flatMap_cons, unnumbered, List.length_append, List.length_append,
    List.length_append, List.length_cons, List.length_nil]
  omega

namespace Booking

variable {V : Type} {booking : Booking V} {limit : Nat} {desk later : Desk V}

/-- What holds at every desk of a session. -/
structure Orderly (booking : Booking V) (limit : Nat) (desk : Desk V) : Prop where
  fine : booking.grounds.Fine desk.studio
  /-- The numbers that were taken are those that were given out. -/
  taken : desk.numbers.Perm (List.range desk.studio.renders)
  asked : ∀ call ∈ desk.calls, booking.asked call.request
  progress : ∀ pair ∈ desk.running, booking.Progress limit desk.studio pair.1 pair.2
  numbered : ∀ call ∈ desk.ended, ∃ number, call.numbers = [number]
  listed : (desk.kept.map Prod.fst).Sublist desk.ended
  holding : ∀ pair ∈ desk.kept, ∃ number < limit, pair.1.numbers = [number] ∧
    booking.Kept number pair.1.request.markup pair.2 desk.studio
  /-- In the rooms there is nothing but what calls put into their own. -/
  clear : ∀ location ∈ booking.rooms, desk.studio.disk.entry? location ≠ none →
    (∃ call ∈ desk.holders, location ∈ booking.roomsOf call.numbers) ∨
      ∃ call ∈ desk.ended, location ∈ booking.leftOf call.numbers

theorem Orderly.distinct (orderly : booking.Orderly limit desk) : desk.numbers.Nodup :=
  orderly.taken.nodup_iff.mpr List.nodup_range

theorem Orderly.holders_sublist (orderly : booking.Orderly limit desk) :
    desk.holders.Sublist desk.calls :=
  (List.Sublist.refl _).append orderly.listed

theorem Orderly.holders_distinct (orderly : booking.Orderly limit desk) :
    (desk.holders.flatMap Call.numbers).Nodup :=
  orderly.distinct.sublist (orderly.holders_sublist.flatMap Call.numbers)

theorem Orderly.number_lt (orderly : booking.Orderly limit desk) {call : Call}
    (member : call ∈ desk.calls) {number : Nat} (own : number ∈ call.numbers) :
    number < desk.studio.renders := by
  have listed : number ∈ desk.numbers := List.mem_flatMap.mpr ⟨call, member, own⟩
  exact List.mem_range.mp (orderly.taken.mem_iff.mp listed)

theorem Orderly.single (orderly : booking.Orderly limit desk) :
    ∀ call ∈ desk.calls, call.numbers.length ≤ 1 := by
  intro call member
  rcases List.mem_append.mp member with running | ended
  · obtain ⟨pair, listed, rfl⟩ := List.mem_map.mp running
    exact (orderly.progress pair listed).single
  · obtain ⟨number, own⟩ := orderly.numbered call ended
    rw [own]
    exact Nat.le_refl _

/-- As long as a call is without a number, fewer numbers are given out than calls are made. -/
theorem Orderly.renders_lt (orderly : booking.Orderly limit desk) {call : Call}
    (member : call ∈ desk.calls) (unnumbered : call.numbers = []) :
    desk.studio.renders < desk.calls.length := by
  have total := orderly.taken.length_eq
  rw [List.length_range] at total
  have fewer := Call.length_numbers_lt orderly.single member unnumbered
  rw [← total]
  exact fewer

/-- When no call is under way, each has used up one number. -/
theorem Orderly.renders_idle (orderly : booking.Orderly limit desk) (idle : desk.running = []) :
    desk.studio.renders = desk.ended.length := by
  have total := orderly.taken.length_eq
  have one : ∀ call ∈ desk.ended, call.numbers.length = 1 := by
    intro call member
    obtain ⟨number, own⟩ := orderly.numbered call member
    rw [own]
    rfl
  rw [Desk.numbers, Desk.calls, idle, List.map_nil, List.nil_append, List.length_range,
    List.length_flatMap, List.map_congr_left one] at total
  simpa using total.symm

theorem Orderly.asked_running (orderly : booking.Orderly limit desk)
    {pair : Call × Job (Studio V) (Option Take)} (member : pair ∈ desk.running) :
    booking.asked pair.1.request :=
  orderly.asked _ (List.mem_append_left _ (List.mem_map_of_mem member))

theorem Orderly.vacated (orderly : booking.Orderly limit desk) :
    booking.Vacated desk.studio.renders desk.studio := by
  refine ⟨orderly.fine, ?_⟩
  intro location inside
  by_contra there
  have taken : ∃ call ∈ desk.calls, ∃ number ∈ call.numbers,
      location ∈ Disk.within (booking.folder number) := by
    rcases orderly.clear location (booking.room_subset_rooms _ inside) there with
      ⟨call, member, number, own, also⟩ | ⟨call, member, number, own, also, -⟩
    · exact ⟨call, orderly.holders_sublist.subset member, number, own, also⟩
    · exact ⟨call, List.mem_append_right _ member, number, own, also⟩
  obtain ⟨call, member, number, own, also⟩ := taken
  have equal := room_disjoint inside also
  have before := orderly.number_lt member own
  omega

theorem orderly_opened (isolated : booking.IsIsolated limit) :
    booking.Orderly limit { studio := booking.opening } where
  fine := ⟨⟨Disk.AgreeOff.refl _ _, Disk.Keeps.refl _ _⟩, .initial⟩
  taken := by
    simp only [isolated.begins]
    exact List.Perm.refl _
  asked := nofun
  progress := nofun
  numbered := nofun
  listed := List.Sublist.refl _
  holding := nofun
  clear := fun location inside there => absurd (isolated.vacant location inside) there

theorem Orderly.call (orderly : booking.Orderly limit desk) {request : Request}
    (allowed : booking.asked request) :
    booking.Orderly limit
      { desk with running := (⟨request, []⟩, request.job booking.session) :: desk.running } where
  fine := orderly.fine
  taken := orderly.taken
  asked := List.forall_mem_cons.mpr ⟨allowed, orderly.asked⟩
  progress := List.forall_mem_cons.mpr ⟨.begun rfl, orderly.progress⟩
  numbered := orderly.numbered
  listed := orderly.listed
  holding := orderly.holding
  clear := by
    intro location inside there
    rcases orderly.clear location inside there with ⟨call, member, own⟩ | left
    · exact Or.inl ⟨call, List.mem_cons_of_mem _ member, own⟩
    · exact Or.inr left

section Moves

variable {studio after : Studio V} {front back : List (Call × Job (Studio V) (Option Take))}
  {call next : Call} {job rest : Job (Studio V) (Option Take)} {kept : List (Call × Take)}
  {ended : List Call}

/-- A step of a call is not noticed by a call that has none of its numbers. -/
theorem Advance.others (advance : booking.Advance limit studio after call next rest) {number : Nat}
    (fresh : number ∉ next.numbers) : booking.Others number studio after := by
  refine advance.spares.mono ?_
  intro location inside
  refine ⟨booking.room_subset_rooms number inside, ?_⟩
  rintro ⟨other, own, also⟩
  exact fresh (room_disjoint also inside ▸ own)

theorem Orderly.fresh (orderly : booking.Orderly limit desk) {others : List Call}
    (split : desk.holders.Perm (call :: others))
    (advance : booking.Advance limit desk.studio after call next rest) :
    ∀ other ∈ others, ∀ number ∈ other.numbers, number ∉ next.numbers := by
  intro other listed number own
  have before := orderly.number_lt
    (orderly.holders_sublist.subset (split.mem_iff.mpr (List.mem_cons_of_mem _ listed))) own
  rcases advance.numbers with ⟨same, -⟩ | ⟨-, new, -⟩
  · rw [same]
    exact fun also => Call.apart split orderly.holders_distinct listed also own
  · rw [new, List.mem_singleton]
    exact Nat.ne_of_lt before

theorem Advance.taken (advance : booking.Advance limit studio after call next rest)
    {others : List Call}
    (taken : ((call :: others).flatMap Call.numbers).Perm (List.range studio.renders)) :
    ((next :: others).flatMap Call.numbers).Perm (List.range after.renders) := by
  rw [List.flatMap_cons] at taken ⊢
  rcases advance.numbers with ⟨same, renders⟩ | ⟨none, new, renders⟩
  · rw [same, renders]
    exact taken
  · rw [none, List.nil_append] at taken
    rw [new, renders, List.range_succ]
    exact (taken.cons _).trans (List.perm_append_singleton _ _).symm

/-- What is in a room after the step of a call was there before, or the room is that of the call. -/
theorem Orderly.clear_step (orderly : booking.Orderly limit desk) {others : List Call}
    (split : desk.holders.Perm (call :: others))
    (advance : booking.Advance limit desk.studio after call next rest) {location : Location}
    (inside : location ∈ booking.rooms) (there : after.disk.entry? location ≠ none) :
    (∃ holder ∈ next :: others, location ∈ booking.roomsOf holder.numbers) ∨
      ∃ call ∈ desk.ended, location ∈ booking.leftOf call.numbers := by
  by_cases mine : location ∈ booking.roomsOf next.numbers
  · exact Or.inl ⟨next, List.mem_cons_self, mine⟩
  · rw [← advance.spares.same location ⟨inside, mine⟩] at there
    rcases orderly.clear location inside there with ⟨other, listed, number, own, here⟩ | left
    · rcases List.mem_cons.mp (split.mem_iff.mp listed) with rfl | later
      · rcases advance.numbers with ⟨same, -⟩ | ⟨none, -, -⟩
        · rw [← same] at own
          exact absurd ⟨number, own, here⟩ mine
        · rw [none] at own
          cases own
      · exact Or.inl ⟨other, List.mem_cons_of_mem _ later, number, own, here⟩
    · exact Or.inr left

/-- A step is one of a call in its own room, or the one that gives it its room. -/
theorem Orderly.step (isolated : booking.IsIsolated limit)
    (orderly : booking.Orderly limit ⟨studio, front ++ (call, job) :: back, kept, ended⟩)
    (counted : (⟨studio, front ++ (call, job) :: back, kept, ended⟩ : Desk V).calls.length ≤ limit)
    (moved : Job.Step job studio rest after) :
    booking.Orderly limit
      ⟨after, front ++ (call.seeing studio after, rest) :: back, kept, ended⟩ := by
  have member : (call, job) ∈ front ++ (call, job) :: back := by simp
  have bounded : call.numbers = [] → studio.renders < after.renders → studio.renders < limit := by
    intro unnumbered _
    have listed : call ∈ (⟨studio, front ++ (call, job) :: back, kept, ended⟩ : Desk V).calls :=
      List.mem_append_left _ (List.mem_map.mpr ⟨_, member, rfl⟩)
    exact Nat.lt_of_lt_of_le (orderly.renders_lt listed unnumbered) counted
  have advance := (orderly.progress _ member).step isolated (orderly.asked_running member)
    orderly.vacated bounded moved
  generalize call.seeing studio after = next at advance ⊢
  have split := Call.perm_middle front back call job (kept.map Prod.fst)
  have fresh := orderly.fresh split advance
  have others : ∀ pair ∈ front ++ back, pair ∈ front ++ (call, job) :: back :=
    fun pair other => List.perm_middle.mem_iff.mpr (List.mem_cons_of_mem _ other)
  refine ⟨advance.spares.fine orderly.fine, ?_, ?_, ?_, orderly.numbered, orderly.listed, ?_, ?_⟩
  · have taken := ((Call.perm_middle front back call job ended).flatMap_right Call.numbers).symm.trans
      orderly.taken
    exact ((Call.perm_middle front back next rest ended).flatMap_right Call.numbers).trans
      (advance.taken taken)
  · intro other listed
    have among := (Call.perm_middle front back next rest ended).mem_iff.mp listed
    rcases List.mem_cons.mp among with rfl | still
    · rw [advance.request]
      exact orderly.asked_running member
    · exact orderly.asked other
        ((Call.perm_middle front back call job ended).mem_iff.mpr (List.mem_cons_of_mem _ still))
  · intro pair listed
    rcases List.mem_cons.mp (List.perm_middle.mem_iff.mp listed) with rfl | other
    · exact advance.progress
    · have apart := fresh pair.1 (List.mem_append_left _ (List.mem_map_of_mem other))
      exact (orderly.progress pair (others pair other)).others fun number own =>
        advance.others (apart number own)
  · intro pair listed
    obtain ⟨number, bound, own, held⟩ := orderly.holding pair listed
    have apart := fresh pair.1 (List.mem_append_right _ (List.mem_map_of_mem listed)) number
      (by rw [own]; exact List.mem_singleton_self _)
    exact ⟨number, bound, own,
      stable_kept isolated.toIsPrepared number _ _ _ _ (advance.others apart) held⟩
  · intro location inside there
    rcases orderly.clear_step split advance inside there with ⟨holder, listed, own⟩ | left
    · exact Or.inl ⟨holder, (Call.perm_middle front back next rest _).mem_iff.mpr listed, own⟩
    · exact Or.inr left

/-- A call that ends leaves a take that is kept, or what is not removed of its room. -/
theorem Orderly.finish (isolated : booking.IsIsolated limit) {result : Option Take}
    (orderly : booking.Orderly limit ⟨studio, front ++ (call, .done result) :: back, kept, ended⟩) :
    booking.Orderly limit
      ⟨studio, front ++ back, (result.map (call, ·)).toList ++ kept, call :: ended⟩ := by
  have member : (call, .done result) ∈ front ++ (call, .done result) :: back := by simp
  obtain ⟨number, bound, own, leaves⟩ :=
    (orderly.progress _ member).done isolated (orderly.asked_running member)
  have others : ∀ pair ∈ front ++ back, pair ∈ front ++ (call, .done result) :: back :=
    fun pair other => List.perm_middle.mem_iff.mpr (List.mem_cons_of_mem _ other)
  have split := Call.perm_middle front back call (.done result) (kept.map Prod.fst)
  have same : ((front ++ back).map Prod.fst ++ call :: ended).Perm
      ((front ++ (call, .done result) :: back).map Prod.fst ++ ended) :=
    List.perm_middle.trans (Call.perm_middle front back call (.done result) ended).symm
  refine ⟨orderly.fine, (same.flatMap_right Call.numbers).trans orderly.taken,
    fun other listed => orderly.asked other (same.mem_iff.mp listed),
    fun pair other => orderly.progress pair (others pair other), ?_, ?_, ?_, ?_⟩
  · exact List.forall_mem_cons.mpr ⟨⟨number, own⟩, orderly.numbered⟩
  · cases result with
    | none => exact orderly.listed.cons _
    | some take => exact orderly.listed.cons_cons _
  · cases result with
    | none => exact orderly.holding
    | some take => exact List.forall_mem_cons.mpr ⟨⟨number, bound, own, leaves⟩, orderly.holding⟩
  · intro location inside there
    rcases orderly.clear location inside there with ⟨holder, listed, one, mine, here⟩ | ⟨past, left⟩
    · have among := split.mem_iff.mp listed
      cases result with
      | some take => exact Or.inl ⟨holder, List.perm_middle.mem_iff.mpr among, one, mine, here⟩
      | none =>
          rcases List.mem_cons.mp among with rfl | other
          · refine Or.inr ⟨holder, List.mem_cons_self, one, mine, here, fun removable => ?_⟩
            rw [own, List.mem_singleton] at mine
            rw [mine] at here removable
            exact there (leaves.nothing removable location here)
          · exact Or.inl ⟨holder, other, one, mine, here⟩
    · exact Or.inr ⟨past, List.mem_cons_of_mem _ left.1, left.2⟩

/-- A take that is discarded leaves what is not removed of its room. -/
theorem Orderly.discard (isolated : booking.IsIsolated limit)
    {running : List (Call × Job (Studio V) (Option Take))} {take : Take}
    {front back : List (Call × Take)}
    (orderly : booking.Orderly limit ⟨studio, running, front ++ (call, take) :: back, ended⟩) :
    booking.Orderly limit ⟨booking.session.discard take studio, running, front ++ back, ended⟩ := by
  have member : (call, take) ∈ front ++ (call, take) :: back := by simp
  obtain ⟨number, bound, own, held⟩ := orderly.holding _ member
  obtain ⟨careful, cleared⟩ := discard_ends held
  have split := List.perm_append_comm.trans
    (Call.perm_middle front back call take (running.map Prod.fst))
  have fresh : ∀ other ∈ (front ++ back).map Prod.fst ++ running.map Prod.fst,
      ∀ one ∈ other.numbers, booking.Others one studio (booking.session.discard take studio) := by
    intro other listed one mine
    refine others_of_own careful ?_
    rintro rfl
    refine Call.apart split orderly.holders_distinct listed ?_ mine
    rw [own]
    exact List.mem_singleton_self _
  have others : ∀ pair ∈ front ++ back, pair ∈ front ++ (call, take) :: back :=
    fun pair other => List.perm_middle.mem_iff.mpr (List.mem_cons_of_mem _ other)
  refine ⟨cleared.fine, ?_, orderly.asked, ?_, orderly.numbered, ?_, ?_, ?_⟩
  · rw [show (booking.session.discard take studio).renders = studio.renders from careful.renders.symm]
    exact orderly.taken
  · intro pair listed
    exact (orderly.progress pair listed).others
      (fresh pair.1 (List.mem_append_right _ (List.mem_map_of_mem listed)))
  · refine List.Sublist.trans ?_ orderly.listed
    exact ((List.Sublist.refl front).append (List.sublist_cons_self _ back)).map Prod.fst
  · intro pair listed
    obtain ⟨one, bound, mine, kept⟩ := orderly.holding pair (others pair listed)
    have spared := fresh pair.1 (List.mem_append_left _ (List.mem_map_of_mem listed)) one
      (by rw [mine]; exact List.mem_singleton_self _)
    exact ⟨one, bound, mine, stable_kept isolated.toIsPrepared one _ _ _ _ spared kept⟩
  · intro location inside there
    by_cases here : location ∈ Disk.within (booking.folder number)
    · have past : call ∈ ended :=
        orderly.listed.subset (List.mem_map.mpr ⟨(call, take), member, rfl⟩)
      refine Or.inr ⟨call, past, number, by rw [own]; exact List.mem_singleton_self _, here, ?_⟩
      exact fun removable => there (cleared.nothing removable location here)
    · rw [← careful.same location ⟨inside, here⟩] at there
      rcases orderly.clear location inside there with ⟨holder, listed, one, mine, also⟩ | left
      · rcases List.mem_cons.mp (split.mem_iff.mp listed) with rfl | other
        · rw [own, List.mem_singleton] at mine
          rw [mine] at also
          exact absurd also here
        · exact Or.inl ⟨holder, List.perm_append_comm.mem_iff.mp other, one, mine, also⟩
      · exact Or.inr left

end Moves

/-- Whatever happens at the desk, it stays in order. -/
theorem Orderly.moved (isolated : booking.IsIsolated limit) (orderly : booking.Orderly limit desk)
    (move : Desk.Move booking.session booking.asked desk later)
    (counted : later.calls.length ≤ limit) : booking.Orderly limit later := by
  have early := Nat.le_trans move.calls_le counted
  cases move with
  | call allowed => exact orderly.call allowed
  | step moved => exact orderly.step isolated early moved
  | finish => exact orderly.finish isolated
  | discard => exact orderly.discard isolated

theorem orderly_of_reached (isolated : booking.IsIsolated limit)
    (reached : Desk.Reached booking.session booking.asked booking.opening desk)
    (counted : desk.calls.length ≤ limit) : booking.Orderly limit desk := by
  induction reached with
  | opened => exact orderly_opened isolated
  | moved earlier move ih =>
      exact (ih (Nat.le_trans move.calls_le counted)).moved isolated move counted

end Booking

end SpokenMarkup
