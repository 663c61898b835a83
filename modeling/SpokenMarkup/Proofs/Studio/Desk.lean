import SpokenMarkup.Proofs.Studio.Calls

set_option autoImplicit false

namespace SpokenMarkup

structure Call where
  request : Request
  numbers : List Nat := []

/-- A call after a step of its own: the numbers that were given out in the step are its own. -/
def Call.seeing {V : Type} (call : Call) (before after : Studio V) : Call :=
  { call with
    numbers := call.numbers ++ List.range' before.renders (after.renders - before.renders) }

/-- A studio and what a session has to do with it: calls are made while others are under way, their
steps come in any order, and what was rendered is kept until it is discarded. -/
structure Desk (V : Type) where
  studio : Studio V
  /-- The calls under way, each with what is left of its job. -/
  running : List (Call × Job (Studio V) (Option Take)) := []
  /-- What was rendered and is yet to be discarded, each with the call that it comes from. -/
  kept : List (Call × Take) := []
  /-- The calls that are over, those that failed included. -/
  ended : List Call := []

namespace Desk

variable {V : Type}

def calls (desk : Desk V) : List Call :=
  desk.running.map Prod.fst ++ desk.ended

def numbers (desk : Desk V) : List Nat :=
  desk.calls.flatMap Call.numbers

/-- The calls that may have a room: those under way, and those whose take is kept. -/
def holders (desk : Desk V) : List Call :=
  desk.running.map Prod.fst ++ desk.kept.map Prod.fst

/-- What happens at a desk: a call is made, one of the calls takes a step, a call that is done ends,
or a take is discarded. -/
inductive Move (session : Session V) (asked : Request → Prop) : Desk V → Desk V → Prop
  | call {desk : Desk V} {request : Request} (allowed : asked request) :
    Move session asked desk
      { desk with running := (⟨request, []⟩, request.job session) :: desk.running }
  | step {studio after : Studio V} {front back : List (Call × Job (Studio V) (Option Take))}
    {call : Call} {job later : Job (Studio V) (Option Take)} {kept : List (Call × Take)}
    {ended : List Call} (moved : Job.Step job studio later after) :
    Move session asked ⟨studio, front ++ (call, job) :: back, kept, ended⟩
      ⟨after, front ++ (call.seeing studio after, later) :: back, kept, ended⟩
  | finish {studio : Studio V} {front back : List (Call × Job (Studio V) (Option Take))}
    {call : Call} {result : Option Take} {kept : List (Call × Take)} {ended : List Call} :
    Move session asked ⟨studio, front ++ (call, .done result) :: back, kept, ended⟩
      ⟨studio, front ++ back, (result.map (call, ·)).toList ++ kept, call :: ended⟩
  | discard {studio : Studio V} {running : List (Call × Job (Studio V) (Option Take))}
    {call : Call} {take : Take} {front back : List (Call × Take)} {ended : List Call} :
    Move session asked ⟨studio, running, front ++ (call, take) :: back, ended⟩
      ⟨session.discard take studio, running, front ++ back, ended⟩

/-- What may come of a desk at which nothing has happened. -/
inductive Reached (session : Session V) (asked : Request → Prop) (opening : Studio V) :
    Desk V → Prop
  | opened : Reached session asked opening { studio := opening }
  | moved {desk later : Desk V} (earlier : Reached session asked opening desk)
    (move : Move session asked desk later) : Reached session asked opening later

theorem Move.calls_le {session : Session V} {asked : Request → Prop} {desk later : Desk V}
    (move : Move session asked desk later) : desk.calls.length ≤ later.calls.length := by
  cases move with
  | call => simp [calls]
  | step => simp [calls]
  | finish =>
      simp only [calls, List.length_append, List.length_map, List.length_cons]
      omega
  | discard => exact Nat.le_refl _

section Runs

variable {session : Session V} {asked : Request → Prop} {opening studio : Studio V}
  {running front back : List (Call × Job (Studio V) (Option Take))} {kept : List (Call × Take)}
  {ended : List Call}

theorem Reached.run {call : Call} {job : Job (Studio V) (Option Take)}
    (reached : Reached session asked opening ⟨studio, front ++ (call, job) :: back, kept, ended⟩) :
    ∃ numbers, Reached session asked opening
      ⟨(job.run studio).2, front ++ (⟨call.request, numbers⟩, .done (job.run studio).1) :: back,
        kept, ended⟩ := by
  have along : ∀ later after, Job.Amid (fun _ _ => False) job studio later after →
      ∃ numbers, Reached session asked opening
        ⟨after, front ++ (⟨call.request, numbers⟩, later) :: back, kept, ended⟩ := by
    intro later after amid
    induction amid with
    | refl => exact ⟨call.numbers, reached⟩
    | own _ moved ih =>
        obtain ⟨numbers, earlier⟩ := ih
        exact ⟨_, .moved earlier (.step moved)⟩
    | other _ impossible _ => exact impossible.elim
  exact along _ _ (Job.amid_run job studio)

theorem Reached.perform (reached : Reached session asked opening ⟨studio, running, kept, ended⟩)
    {request : Request} (allowed : asked request) :
    ∃ numbers, Reached session asked opening
      ⟨((request.job session).run studio).2, running,
        (((request.job session).run studio).1.map (⟨request, numbers⟩, ·)).toList ++ kept,
        ⟨request, numbers⟩ :: ended⟩ := by
  have called : Reached session asked opening
      ⟨studio, [] ++ (⟨request, []⟩, request.job session) :: running, kept, ended⟩ :=
    .moved reached (.call allowed)
  obtain ⟨numbers, done⟩ := called.run
  exact ⟨numbers, .moved done .finish⟩

theorem reached_times (session : Session V) (opening : Studio V) {request : Request}
    (allowed : asked request) (times : Nat) :
    ∃ studio kept ended, Reached session asked opening ⟨studio, [], kept, ended⟩ ∧
      ended.length = times := by
  induction times with
  | zero => exact ⟨opening, [], [], .opened, rfl⟩
  | succ times ih =>
      obtain ⟨studio, kept, ended, reached, count⟩ := ih
      obtain ⟨numbers, later⟩ := reached.perform allowed
      exact ⟨_, _, _, later, by rw [List.length_cons, count]⟩

theorem Reached.performInto
    (reached : Reached session asked opening ⟨studio, running, kept, ended⟩) {markup : String}
    {target : Path} (allowed : asked ⟨markup, some target⟩) :
    ∃ numbers, Reached session asked opening
      ⟨((Request.job session ⟨markup, some target⟩).run studio).2, running, kept,
        ⟨⟨markup, some target⟩, numbers⟩ :: ended⟩ := by
  obtain ⟨numbers, later⟩ := reached.perform allowed
  have silent : ((Request.job session ⟨markup, some target⟩).run studio).1 = none := by
    simp only [Request.job, Job.run_bind, Job.run_pure]
  rw [silent] at later
  exact ⟨numbers, later⟩

end Runs

end Desk

namespace Booking

variable {V : Type} {booking : Booking V} {limit : Nat} {studio after : Studio V} {call : Call}
  {job later : Job (Studio V) (Option Take)}

def roomsOf (booking : Booking V) (numbers : List Nat) : Set Location :=
  {location | ∃ number ∈ numbers, location ∈ Disk.within (booking.folder number)}

/-- What may be left in the rooms with these numbers by calls that are over: what the system does not
remove. -/
def leftOf (booking : Booking V) (numbers : List Nat) : Set Location :=
  {location | ∃ number ∈ numbers, location ∈ Disk.within (booking.folder number) ∧
    booking.session.equipment.host.removing (booking.dir number) ≠ none}

/-- How far a call under way has come: it is yet to take a number, or it has one and is at work in
its room. -/
inductive Progress (booking : Booking V) (limit : Nat) (studio : Studio V) (call : Call) :
    Job (Studio V) (Option Take) → Prop
  | begun (unnumbered : call.numbers = []) :
    Progress booking limit studio call (call.request.job booking.session)
  | noted (unnumbered : call.numbers = []) :
    Progress booking limit studio call
      (.step Studio.takeNumber fun number => call.request.jobAs booking.session number)
  | numbered {job : Job (Studio V) (Option Take)} {number : Nat} {origin : Studio V}
    (own : call.numbers = [number]) (counted : number < limit)
    (vacated : booking.Vacated number origin)
    (amid : Job.Amid (booking.Others number) (call.request.jobAs booking.session number) origin
      job studio) :
    Progress booking limit studio call job

theorem Progress.others (progress : booking.Progress limit studio call job)
    (others : ∀ number ∈ call.numbers, booking.Others number studio after) :
    booking.Progress limit after call job := by
  cases progress with
  | begun unnumbered => exact .begun unnumbered
  | noted unnumbered => exact .noted unnumbered
  | numbered own counted vacated amid =>
      have spared := others _ (by rw [own]; exact List.mem_singleton_self _)
      exact .numbered own counted vacated (.other amid spared)

theorem seeing_of_same (call : Call) (same : studio.renders = after.renders) :
    call.seeing studio after = call := by
  simp [Call.seeing, same]

/-- A step of a call changes nothing in the rooms of others, and gives it at most the next number. -/
structure Advance (booking : Booking V) (limit : Nat) (studio after : Studio V)
    (call next : Call) (later : Job (Studio V) (Option Take)) : Prop where
  request : next.request = call.request
  spares : booking.grounds.Spares (booking.rooms \ booking.roomsOf next.numbers) studio after
  progress : booking.Progress limit after next later
  numbers : next.numbers = call.numbers ∧ after.renders = studio.renders ∨
    call.numbers = [] ∧ next.numbers = [studio.renders] ∧ after.renders = studio.renders + 1

theorem Progress.step (isolated : booking.IsIsolated limit)
    (asked : booking.asked call.request) (progress : booking.Progress limit studio call job)
    (vacated : booking.Vacated studio.renders studio)
    (counted : call.numbers = [] → studio.renders < after.renders → studio.renders < limit)
    (moved : Job.Step job studio later after) :
    booking.Advance limit studio after call (call.seeing studio after) later := by
  obtain ⟨request, numbers⟩ := call
  cases progress with
  | begun unnumbered =>
      rw [Request.job_eq] at moved
      cases moved
      have noted : booking.Advance limit studio
          (studio.noting (.renderStarted request.markup.length)) ⟨request, numbers⟩
          (Call.seeing ⟨request, numbers⟩ studio
            (studio.noting (.renderStarted request.markup.length)))
          (.step Studio.takeNumber fun number => request.jobAs booking.session number) := by
        rw [seeing_of_same _ (Grounds.idle_noting studio _).renders.symm]
        exact ⟨rfl, Grounds.spares_of_same rfl rfl, .noted unnumbered, Or.inl ⟨rfl, rfl⟩⟩
      exact noted
  | noted unnumbered =>
      obtain rfl : numbers = [] := unnumbered
      cases moved
      have seen : Call.seeing ⟨request, []⟩ studio studio.takeNumber.2 =
          ⟨request, [studio.renders]⟩ := by
        simp [Call.seeing, Studio.takeNumber]
      rw [seen]
      refine ⟨rfl, Grounds.spares_of_same rfl rfl, ?_, Or.inr ⟨rfl, rfl, rfl⟩⟩
      have still : booking.Vacated studio.renders studio.takeNumber.2 :=
        booking.stable_vacated _ studio _ (Grounds.spares_of_same rfl rfl) vacated
      exact .numbered rfl (counted rfl (Nat.lt_succ_self _)) still .refl
  | @numbered _ number origin own bounded cleared amid =>
      obtain rfl : numbers = [number] := own
      have ensures := ensures_jobAs isolated bounded asked
      have careful := (ensures origin cleared _ _ amid).1 _ _ moved
      rw [seeing_of_same _ careful.renders]
      refine ⟨rfl, ?_, .numbered rfl bounded cleared (.own amid moved),
        Or.inl ⟨rfl, careful.renders.symm⟩⟩
      refine careful.toSpares.mono ?_
      rintro location ⟨inside, outside⟩
      exact ⟨inside, fun own => outside ⟨number, List.mem_singleton_self _, own⟩⟩

theorem Progress.done (isolated : booking.IsIsolated limit) (asked : booking.asked call.request)
    {result : Option Take} (progress : booking.Progress limit studio call (.done result)) :
    ∃ number < limit, call.numbers = [number] ∧
      booking.Leaves number call.request.markup result studio := by
  generalize ended : (Job.done result : Job (Studio V) (Option Take)) = job at progress
  cases progress with
  | begun unnumbered =>
      rw [Request.job_eq] at ended
      cases ended
  | noted unnumbered => cases ended
  | numbered own counted vacated amid =>
      have ensures := ensures_jobAs isolated counted asked
      exact ⟨_, counted, own, (ensures _ vacated _ _ amid).2 result ended.symm⟩

theorem Progress.single (progress : booking.Progress limit studio call job) :
    call.numbers.length ≤ 1 := by
  cases progress with
  | begun unnumbered => simp [unnumbered]
  | noted unnumbered => simp [unnumbered]
  | numbered own => simp [own]

end Booking

end SpokenMarkup
