import SpokenMarkup.Proofs.Studio.Tape

set_option autoImplicit false

namespace SpokenMarkup

variable {V : Type}

/-- A voice whose calls do to the speaker what they are for. -/
structure Voice.Minds (voice : Voice V) : Prop where
  loads : ∀ speaker engine disk, (voice.activate speaker engine disk).1 = .done () →
    voice.active (voice.activate speaker engine disk).2.1 = some speaker
  stays : ∀ text engine disk,
    voice.active (voice.utter text engine disk).2.1 = voice.active engine

/-- A call for the voice, and its result once there is one. -/
structure Slot where
  speaker : String
  text : String
  result : Option (Except Fault ByteArray) := none

/-- What a call that has the engine does next. -/
inductive Phase where
  | admission
  | switch
  | speech

/-- A studio, and all calls for its voice. The engine is lent to one of them at most. -/
structure Rota (V : Type) where
  studio : Studio (Tape V)
  /-- The number of the slot that the engine is lent to, and what is next there. -/
  holder : Option (Nat × Phase) := none
  slots : List Slot := []

namespace Rota

def record (rota : Rota V) : List Received :=
  rota.studio.engine.record

/-- What the engine received while it was lent to a slot. -/
def receivedIn (rota : Rota V) (number : Nat) : List Received :=
  rota.record.filter (·.slot = number)

def close (rota : Rota V) (number : Nat) (slot : Slot)
    (ending : Except Fault ByteArray × Studio (Tape V)) : Rota V where
  studio := ending.2
  holder := none
  slots := rota.slots.set number { slot with result := some ending.1 }

/-- The call that has the engine takes its next step. -/
def act (voice : Voice V) (rota : Rota V) (number : Nat) (slot : Slot) : Phase → Rota V
  | .admission =>
    match Studio.admit rota.studio with
    | (.ok _, studio) => { rota with studio, holder := some (number, .switch) }
    | (.error fault, studio) => rota.close number slot (.error fault, studio)
  | .switch =>
    match (voice.taped number).makeActive slot.speaker rota.studio with
    | (.ok _, studio) => { rota with studio, holder := some (number, .speech) }
    | (.error fault, studio) => rota.close number slot (.error fault, studio)
  | .speech =>
    rota.close number slot (Studio.call ((voice.taped number).utter slot.text) rota.studio)

/-- What may happen next: a call is made, the engine is lent to a call that has not returned, the
call that has it takes a step, or others change anything but the engine. -/
inductive Move (voice : Voice V) (rota : Rota V) : Rota V → Prop
  | ask (speaker text : String) :
    Move voice rota { rota with slots := rota.slots ++ [{ speaker, text }] }
  | lend {number : Nat} {slot : Slot} (placed : rota.slots[number]? = some slot)
    (pending : slot.result = none) (free : rota.holder = none) :
    Move voice rota { rota with holder := some (number, .admission) }
  | act {number : Nat} {slot : Slot} {phase : Phase} (placed : rota.slots[number]? = some slot)
    (holds : rota.holder = some (number, phase)) :
    Move voice rota (rota.act voice number slot phase)
  | elsewhere (studio : Studio (Tape V)) (engine : studio.engine = rota.studio.engine)
    (poisoned : studio.poisoned = rota.studio.poisoned) :
    Move voice rota { rota with studio }

inductive Moves (voice : Voice V) (rota : Rota V) : Rota V → Prop
  | refl : Moves voice rota rota
  | tail {middle after : Rota V} (earlier : Moves voice rota middle)
    (move : Move voice middle after) : Moves voice rota after

theorem Moves.trans {voice : Voice V} {rota middle after : Rota V}
    (early : Moves voice rota middle) (late : Moves voice middle after) :
    Moves voice rota after := by
  induction late with
  | refl => exact early
  | tail _ move ih => exact .tail ih move

/-- What an engine may have received for a slot before the text. -/
inductive Opening (number : Nat) (speaker : String) : List Received → Prop
  | active : Opening number speaker []
  | switched {before : Option String} (other : before ≠ some speaker) :
    Opening number speaker [⟨number, before, some speaker, .switch speaker (.done ())⟩]

/-- What an engine receives for a slot, and the result. The speaker is active from the beginning, or
is made active first; the text is spoken unless that fails. -/
inductive Turn (number : Nat) (speaker text : String) :
    List Received → Except Fault ByteArray → Prop
  | spoken {opening : List Received} (opened : Opening number speaker opening)
    (reply : Reply ByteArray) :
    Turn number speaker text
      (opening ++ [⟨number, some speaker, some speaker, .speech text reply⟩]) reply.result
  | refused {before after : Option String} (other : before ≠ some speaker) {reply : Reply Unit}
    {fault : Fault} (failed : reply.result = .error fault) :
    Turn number speaker text [⟨number, before, after, .switch speaker reply⟩] (.error fault)

/-- A record of so many slots in which nothing follows a crash, and what was received for one slot
stands together. -/
structure Coherent (record : List Received) (slots : Nat) (poisoned : Bool) : Prop where
  known : ∀ received ∈ record, received.slot < slots
  together : ∀ number, record.filter (·.slot = number) <:+: record
  poisoned_eq : poisoned = record.any (·.exchange.isCrash)
  last : ∀ received ∈ record.dropLast, received.exchange.isCrash = false

variable {record : List Received} {slots : Nat}

theorem filter_append_self (record : List Received) (received : Received) :
    (record ++ [received]).filter (·.slot = received.slot) =
      record.filter (·.slot = received.slot) ++ [received] := by
  simp

theorem filter_append_other (record : List Received) {received : Received} {number : Nat}
    (other : number ≠ received.slot) :
    (record ++ [received]).filter (·.slot = number) = record.filter (·.slot = number) := by
  simp [other.symm]

theorem Coherent.append (coherent : Coherent record slots false) {received : Received}
    (known : received.slot < slots)
    (ends : record.filter (·.slot = received.slot) <:+ record) :
    Coherent (record ++ [received]) slots received.exchange.isCrash where
  known other member := by
    rcases List.mem_append.mp member with early | late
    · exact coherent.known other early
    · obtain rfl := List.mem_singleton.mp late
      exact known
  together number := by
    by_cases same : number = received.slot
    · subst same
      obtain ⟨front, split⟩ := ends
      refine ⟨front, [], ?_⟩
      rw [filter_append_self, List.append_nil, ← List.append_assoc, split]
    · rw [filter_append_other record same]
      exact (coherent.together number).trans (List.prefix_append record [received]).isInfix
  poisoned_eq := by
    rw [List.any_append, ← coherent.poisoned_eq]
    simp
  last other member := by
    rw [List.dropLast_concat] at member
    have sound := List.any_eq_false.mp coherent.poisoned_eq.symm other member
    exact Bool.eq_false_iff.mpr sound

/-- How a slot stands that does not have the engine: nothing was received for it yet, or all that
ever will be, or it was turned away. -/
def Stands (rota : Rota V) (number : Nat) (slot : Slot) : Prop :=
  match slot.result with
  | none => rota.receivedIn number = []
  | some result =>
    Turn number slot.speaker slot.text (rota.receivedIn number) result ∨
      rota.receivedIn number = [] ∧ result = .error (.voice .poisoned) ∧
        rota.studio.poisoned = true

/-- How the slot stands that has the engine. -/
def Holds (voice : Voice V) (rota : Rota V) (number : Nat) (slot : Slot) : Phase → Prop
  | .admission => rota.receivedIn number = []
  | .switch => rota.receivedIn number = [] ∧ rota.studio.poisoned = false
  | .speech =>
    Opening number slot.speaker (rota.receivedIn number) ∧ rota.studio.poisoned = false ∧
      voice.active rota.studio.engine.engine = some slot.speaker ∧
      rota.receivedIn number <:+ rota.record

/-- The invariant of the rota. -/
structure Orderly (voice : Voice V) (rota : Rota V) : Prop where
  coherent : Coherent rota.record rota.slots.length rota.studio.poisoned
  standing : ∀ number slot, rota.slots[number]? = some slot →
    (∀ phase, rota.holder ≠ some (number, phase)) → rota.Stands number slot
  holding : ∀ number phase, rota.holder = some (number, phase) →
    ∃ slot, rota.slots[number]? = some slot ∧ slot.result = none ∧
      Holds voice rota number slot phase

variable {voice : Voice V} {rota after : Rota V} {number : Nat} {slot : Slot} {phase : Phase}
  {studio : Studio (Tape V)}

theorem Orderly.holds_of (orderly : Orderly voice rota) (placed : rota.slots[number]? = some slot)
    (holds : rota.holder = some (number, phase)) :
    slot.result = none ∧ Holds voice rota number slot phase := by
  obtain ⟨held, same, pending, own⟩ := orderly.holding number phase holds
  obtain rfl := Option.some.inj (placed.symm.trans same)
  exact ⟨pending, own⟩

theorem opened_orderly (voice : Voice V) (studio : Studio V) (sound : studio.poisoned = false) :
    Orderly voice { studio := studio.taped } where
  coherent := by
    refine ⟨?_, fun _ => List.infix_rfl, sound, ?_⟩
    · intro received member
      cases member
    · intro received member
      cases member
  standing _ _ placed := by cases placed
  holding _ _ holds := by cases holds

theorem Stands.mono (stands : rota.Stands number slot)
    (received : after.receivedIn number = rota.receivedIn number)
    (poisoned : rota.studio.poisoned = true → after.studio.poisoned = true) :
    after.Stands number slot := by
  unfold Stands at stands ⊢
  rw [received]
  cases result : slot.result with
  | none =>
      rw [result] at stands
      exact stands
  | some ending =>
      rw [result] at stands
      exact stands.imp_right fun ⟨nothing, refused, broken⟩ => ⟨nothing, refused, poisoned broken⟩

/-- What a step of the slot that has the engine makes of the studio. -/
structure Follows (rota : Rota V) (number : Nat) (studio : Studio (Tape V)) : Prop where
  coherent : Coherent studio.engine.record rota.slots.length studio.poisoned
  others : ∀ other, other ≠ number →
    studio.engine.record.filter (·.slot = other) = rota.receivedIn other
  poisoned : rota.studio.poisoned = true → studio.poisoned = true

theorem Orderly.others_stand (orderly : Orderly voice rota)
    (holds : rota.holder = some (number, phase)) (follows : Follows rota number studio)
    {other : Nat} {beside : Slot} (apart : other ≠ number)
    (placed : rota.slots[other]? = some beside) :
    ({ rota with studio } : Rota V).Stands other beside := by
  refine (orderly.standing other beside placed ?_).mono (follows.others other apart)
    follows.poisoned
  intro phase same
  rw [holds] at same
  cases same
  exact apart rfl

theorem Orderly.follows_self (orderly : Orderly voice rota) (number : Nat) :
    Follows rota number rota.studio :=
  ⟨orderly.coherent, fun _ _ => rfl, id⟩

theorem Orderly.follows_receiving (orderly : Orderly voice rota)
    (sound : rota.studio.poisoned = false) (studio : Studio (Tape V))
    (same : studio.engine = rota.studio.engine) (calm : studio.poisoned = rota.studio.poisoned)
    (engine : V) (disk : Disk) (received : Received) (known : received.slot < rota.slots.length)
    (ends : rota.receivedIn received.slot <:+ rota.record) :
    Follows rota received.slot (studio.receiving engine disk received) where
  coherent := by
    have coherent := orderly.coherent
    rw [sound] at coherent
    have appended := coherent.append known ends
    rw [record, ← same] at appended
    rw [Studio.receiving, calm, sound]
    exact appended
  others other apart := by
    rw [receivedIn, record, ← same]
    exact filter_append_other _ apart
  poisoned broken := by
    rw [sound] at broken
    cases broken

theorem receivedIn_receiving (rota : Rota V) {studio : Studio (Tape V)}
    (same : studio.engine = rota.studio.engine) (engine : V) (disk : Disk) (received : Received) :
    ({ rota with studio := studio.receiving engine disk received } : Rota V).receivedIn
      received.slot = rota.receivedIn received.slot ++ [received] := by
  rw [receivedIn, receivedIn, record, record, ← same]
  exact filter_append_self studio.engine.record received

theorem ask_cases {slots : List Slot} {new found : Slot}
    (placed : (slots ++ [new])[number]? = some found) :
    slots[number]? = some found ∨ number = slots.length ∧ found = new := by
  rw [List.getElem?_append] at placed
  split at placed
  · exact Or.inl placed
  · next late =>
    obtain ⟨last, same⟩ := List.getElem?_eq_some_iff.mp placed
    rw [List.length_singleton] at last
    exact Or.inr ⟨by omega, by rw [← same, List.getElem_singleton]⟩

theorem close_cases (rota : Rota V) (number : Nat) (slot : Slot)
    (ending : Except Fault ByteArray × Studio (Tape V)) {other : Nat} {found : Slot}
    (placed : (rota.close number slot ending).slots[other]? = some found) :
    (other = number ∧ found = { slot with result := some ending.1 }) ∨
      (other ≠ number ∧ rota.slots[other]? = some found) := by
  rw [close, List.getElem?_set] at placed
  split at placed
  · next same =>
    split at placed
    · exact Or.inl ⟨same.symm, (Option.some.inj placed).symm⟩
    · cases placed
  · next apart => exact Or.inr ⟨Ne.symm apart, placed⟩

theorem Orderly.advance (orderly : Orderly voice rota)
    (holds : rota.holder = some (number, phase)) (follows : Follows rota number studio)
    {next : Phase} (placed : rota.slots[number]? = some slot) (pending : slot.result = none)
    (own : Holds voice { rota with studio } number slot next) :
    Orderly voice { rota with studio, holder := some (number, next) } where
  coherent := follows.coherent
  standing other beside placed free := by
    have apart : other ≠ number := by
      rintro rfl
      exact free next rfl
    exact orderly.others_stand holds follows apart placed
  holding other phase same := by
    cases same
    exact ⟨slot, placed, pending, own⟩

theorem Orderly.close (orderly : Orderly voice rota)
    (holds : rota.holder = some (number, phase)) {result : Except Fault ByteArray}
    (follows : Follows rota number studio)
    (own : ({ rota with studio } : Rota V).Stands number { slot with result := some result }) :
    Orderly voice (rota.close number slot (result, studio)) where
  coherent := by
    have coherent := follows.coherent
    rw [← List.length_set (i := number)] at coherent
    exact coherent
  standing other beside placed _ := by
    rcases close_cases rota number slot _ placed with ⟨rfl, rfl⟩ | ⟨apart, placed⟩
    · exact own
    · exact orderly.others_stand holds follows apart placed
  holding := nofun

theorem Orderly.admit (orderly : Orderly voice rota) (placed : rota.slots[number]? = some slot)
    (holds : rota.holder = some (number, .admission)) :
    Orderly voice (rota.act voice number slot .admission) := by
  obtain ⟨pending, nothing⟩ := orderly.holds_of placed holds
  rw [act, Studio.admit_apply]
  cases poisoned : rota.studio.poisoned with
  | true =>
      simp only [if_true]
      exact orderly.close holds (orderly.follows_self number) (Or.inr ⟨nothing, rfl, poisoned⟩)
  | false =>
      simp only [Bool.false_eq_true, if_false]
      exact orderly.advance holds (orderly.follows_self number) placed pending ⟨nothing, poisoned⟩

theorem Orderly.switch (orderly : Orderly voice rota) (minds : voice.Minds)
    (placed : rota.slots[number]? = some slot) (holds : rota.holder = some (number, .switch)) :
    Orderly voice (rota.act voice number slot .switch) := by
  obtain ⟨pending, nothing, sound⟩ := orderly.holds_of placed holds
  have inside := (List.getElem?_eq_some_iff.mp placed).1
  rw [act, Voice.makeActive_apply]
  by_cases active : (voice.taped number).active rota.studio.engine = some slot.speaker
  · rw [if_pos active]
    refine orderly.advance holds (orderly.follows_self number) placed pending ?_
    refine ⟨?_, sound, active, ?_⟩
    · rw [nothing]
      exact .active
    · rw [nothing]
      exact List.nil_suffix
  · let noted := rota.studio.noting (.speakerSwitched slot.speaker)
    have loaded := minds.loads slot.speaker noted.engine.engine noted.disk
    rcases replies : voice.activate slot.speaker noted.engine.engine noted.disk
      with ⟨reply, engine, disk⟩
    rw [replies] at loaded
    let received : Received := ⟨number, voice.active noted.engine.engine, voice.active engine,
      .switch slot.speaker reply⟩
    have called : Studio.call ((voice.taped number).activate slot.speaker) noted =
        (reply.result, noted.receiving engine disk received) :=
      Voice.call_taped_activate replies number
    have follows : Follows rota number (noted.receiving engine disk received) := by
      refine orderly.follows_receiving sound noted rfl rfl engine disk received inside ?_
      rw [nothing]
      exact List.nil_suffix
    have all : ({ rota with studio := noted.receiving engine disk received } : Rota V).receivedIn
        number = [received] := by
      refine (receivedIn_receiving rota rfl engine disk received).trans ?_
      rw [nothing, List.nil_append]
    rw [if_neg active, called]
    cases result : reply.result with
    | ok value =>
        obtain rfl := Reply.result_eq_ok_iff.mp result
        have after : voice.active engine = some slot.speaker := loaded rfl
        refine orderly.advance holds follows placed pending ⟨?_, ?_, after, ?_⟩
        · rw [all]
          simp only [received, after]
          exact .switched active
        · exact Bool.or_eq_false_iff.mpr ⟨sound, rfl⟩
        · rw [all]
          exact List.suffix_append rota.record [received]
    | error fault =>
        refine orderly.close holds follows (Or.inl ?_)
        rw [all]
        exact .refused active result

theorem Orderly.speak (orderly : Orderly voice rota) (minds : voice.Minds)
    (placed : rota.slots[number]? = some slot) (holds : rota.holder = some (number, .speech)) :
    Orderly voice (rota.act voice number slot .speech) := by
  obtain ⟨-, opened, sound, active, ends⟩ := orderly.holds_of placed holds
  have inside := (List.getElem?_eq_some_iff.mp placed).1
  have stayed := minds.stays slot.text rota.studio.engine.engine rota.studio.disk
  rcases replies : voice.utter slot.text rota.studio.engine.engine rota.studio.disk
    with ⟨reply, engine, disk⟩
  rw [replies, active] at stayed
  let received : Received := ⟨number, some slot.speaker, some slot.speaker, .speech slot.text reply⟩
  have follows : Follows rota number (rota.studio.receiving engine disk received) :=
    orderly.follows_receiving sound rota.studio rfl rfl engine disk received inside ends
  rw [act, Voice.call_taped_utter replies, active, stayed]
  refine orderly.close holds follows (Or.inl ?_)
  rw [receivedIn_receiving rota rfl engine disk received]
  exact .spoken opened reply

theorem Orderly.ask (orderly : Orderly voice rota) (speaker text : String) :
    Orderly voice { rota with slots := rota.slots ++ [{ speaker, text }] } where
  coherent := by
    obtain ⟨known, together, poisoned_eq, last⟩ := orderly.coherent
    refine ⟨?_, together, poisoned_eq, last⟩
    intro received member
    rw [List.length_append]
    exact Nat.lt_add_right _ (known received member)
  standing number slot placed free := by
    rcases ask_cases placed with placed | ⟨rfl, rfl⟩
    · exact orderly.standing number slot placed free
    · -- All that was received belongs to earlier slots.
      have nothing : rota.receivedIn rota.slots.length = [] := by
        refine List.filter_eq_nil_iff.mpr fun received member => ?_
        rw [decide_eq_true_eq]
        exact Nat.ne_of_lt (orderly.coherent.known received member)
      exact nothing
  holding number phase holds := by
    obtain ⟨slot, placed, pending, own⟩ := orderly.holding number phase holds
    refine ⟨slot, ?_, pending, ?_⟩
    · rw [List.getElem?_append_left (List.getElem?_eq_some_iff.mp placed).1]
      exact placed
    · cases phase <;> exact own

theorem Orderly.lend (orderly : Orderly voice rota) (placed : rota.slots[number]? = some slot)
    (pending : slot.result = none) (free : rota.holder = none) :
    Orderly voice { rota with holder := some (number, .admission) } := by
  have unheld : ∀ number phase, rota.holder ≠ some (number, phase) := by
    rw [free]
    exact fun _ _ => nofun
  refine ⟨orderly.coherent, ?_, ?_⟩
  · intro other beside placed _
    exact orderly.standing other beside placed (unheld other)
  · intro other phase same
    cases same
    have nothing := orderly.standing number slot placed (unheld number)
    rw [Stands, pending] at nothing
    exact ⟨slot, placed, pending, nothing⟩

theorem Orderly.elsewhere (orderly : Orderly voice rota)
    (engine : studio.engine = rota.studio.engine)
    (poisoned : studio.poisoned = rota.studio.poisoned) : Orderly voice { rota with studio } := by
  have record : ({ rota with studio } : Rota V).record = rota.record :=
    congrArg Tape.record engine
  have received (number : Nat) :
      ({ rota with studio } : Rota V).receivedIn number = rota.receivedIn number := by
    rw [receivedIn, record, receivedIn]
  refine ⟨?_, ?_, ?_⟩
  · rw [record, poisoned]
    exact orderly.coherent
  · intro number slot placed free
    exact (orderly.standing number slot placed free).mono (received number) (poisoned.trans ·)
  · intro number phase holds
    obtain ⟨slot, placed, pending, own⟩ := orderly.holding number phase holds
    refine ⟨slot, placed, pending, ?_⟩
    cases phase with
    | admission => exact (received number).trans own
    | switch => exact ⟨(received number).trans own.1, poisoned.trans own.2⟩
    | speech =>
        rw [Holds, received, record, poisoned, engine]
        exact own

/-- What every move keeps. -/
theorem Orderly.move (orderly : Orderly voice rota) (minds : voice.Minds)
    (move : Move voice rota after) : Orderly voice after := by
  cases move with
  | ask speaker text => exact orderly.ask speaker text
  | lend placed pending free => exact orderly.lend placed pending free
  | @act number slot phase placed holds =>
      cases phase with
      | admission => exact orderly.admit placed holds
      | switch => exact orderly.switch minds placed holds
      | speech => exact orderly.speak minds placed holds
  | elsewhere studio engine poisoned => exact orderly.elsewhere engine poisoned

theorem Orderly.moves (orderly : Orderly voice rota) (minds : voice.Minds)
    (moves : Moves voice rota after) : Orderly voice after := by
  induction moves with
  | refl => exact orderly
  | tail _ move ih => exact ih.move minds move

/-- Once the engine broke down it receives nothing, and who returns then is turned away. -/
theorem Orderly.turns_away (orderly : Orderly voice rota) (minds : voice.Minds)
    (broken : rota.studio.poisoned = true) (moves : Moves voice rota after) :
    after.record = rota.record ∧ after.studio.poisoned = true ∧
      ∀ (number : Nat) (slot : Slot) (result : Except Fault ByteArray),
        after.slots[number]? = some slot → slot.result = some result →
          rota.slots[number]? = some slot ∨ result = .error (.voice .poisoned) := by
  induction moves with
  | refl => exact ⟨rfl, broken, fun _ _ _ placed _ => Or.inl placed⟩
  | @tail middle after earlier move ih =>
      obtain ⟨same, broken, returned⟩ := ih
      cases move with
      | ask speaker text =>
          refine ⟨same, broken, fun number slot result placed ended => ?_⟩
          rcases ask_cases placed with placed | ⟨-, rfl⟩
          · exact returned number slot result placed ended
          · cases ended
      | lend => exact ⟨same, broken, returned⟩
      | @act number slot phase placed holds =>
          obtain ⟨-, own⟩ := (orderly.moves minds earlier).holds_of placed holds
          cases phase with
          | switch => exact absurd (own.2.symm.trans broken) Bool.false_ne_true
          | speech => exact absurd (own.2.1.symm.trans broken) Bool.false_ne_true
          | admission =>
              rw [act, Studio.admit_apply, if_pos broken]
              refine ⟨same, broken, fun other beside result found ended => ?_⟩
              rcases close_cases middle number slot _ found with ⟨rfl, rfl⟩ | ⟨-, found⟩
              · cases ended
                exact Or.inr rfl
              · exact returned other beside result found ended
      | elsewhere studio engine poisoned =>
          exact ⟨(congrArg Tape.record engine).trans same, poisoned.trans broken, returned⟩

theorem moves_speech (placed : rota.slots[number]? = some slot)
    (holds : rota.holder = some (number, .speech)) :
    Moves voice rota
      (rota.close number slot (Studio.call ((voice.taped number).utter slot.text) rota.studio)) :=
  .tail .refl (.act placed holds)

theorem moves_switch (placed : rota.slots[number]? = some slot)
    (holds : rota.holder = some (number, .switch)) :
    Moves voice rota (rota.close number slot ((do
      (voice.taped number).makeActive slot.speaker
      Studio.call ((voice.taped number).utter slot.text) : StudioTask (Tape V) ByteArray)
        rota.studio)) := by
  have first : Moves voice rota (rota.act voice number slot .switch) :=
    .tail .refl (.act placed holds)
  rw [task_bind]
  rw [act] at first
  generalize (voice.taped number).makeActive slot.speaker rota.studio = ending at first ⊢
  obtain ⟨fault | _, studio⟩ := ending
  · exact first
  · exact first.trans (moves_speech placed rfl)

theorem moves_admission (placed : rota.slots[number]? = some slot)
    (holds : rota.holder = some (number, .admission)) :
    Moves voice rota (rota.close number slot
      ((voice.taped number).speakAs slot.speaker slot.text rota.studio)) := by
  have first : Moves voice rota (rota.act voice number slot .admission) :=
    .tail .refl (.act placed holds)
  rw [Voice.speakAs_eq, task_bind]
  rw [act] at first
  generalize Studio.admit rota.studio = ending at first ⊢
  obtain ⟨fault | _, studio⟩ := ending
  · exact first
  · exact first.trans (moves_switch placed rfl)

theorem moves_served (placed : rota.slots[number]? = some slot) (pending : slot.result = none)
    (free : rota.holder = none) :
    Moves voice rota (rota.close number slot
      ((voice.taped number).speakAs slot.speaker slot.text rota.studio)) :=
  (Moves.tail .refl (.lend placed pending free)).trans (moves_admission placed rfl)

theorem Orderly.hands_back (orderly : Orderly voice rota)
    (holds : rota.holder = some (number, phase)) :
    ∃ slot ending, rota.slots[number]? = some slot ∧
      Moves voice rota (rota.close number slot ending) := by
  obtain ⟨slot, placed, -, -⟩ := orderly.holding number phase holds
  cases phase with
  | admission => exact ⟨slot, _, placed, moves_admission placed holds⟩
  | switch => exact ⟨slot, _, placed, moves_switch placed holds⟩
  | speech => exact ⟨slot, _, placed, moves_speech placed holds⟩

def requests (rota : Rota V) : List (String × String) :=
  rota.slots.map fun slot => (slot.speaker, slot.text)

theorem requests_close (placed : rota.slots[number]? = some slot)
    (ending : Except Fault ByteArray × Studio (Tape V)) :
    (rota.close number slot ending).requests = rota.requests := by
  obtain ⟨inside, rfl⟩ := List.getElem?_eq_some_iff.mp placed
  rw [requests, requests, close, List.map_set]
  apply List.ext_getElem (by simp)
  intro index first second
  by_cases same : number = index
  · subst same
    simp
  · simp [List.getElem_set_ne same]

theorem Orderly.settles (orderly : Orderly voice rota) :
    ∃ after, Moves voice rota after ∧ after.requests = rota.requests ∧
      ∀ slot ∈ after.slots, slot.result ≠ none := by
  have freed : ∃ middle, Moves voice rota middle ∧ middle.holder = none ∧
      middle.requests = rota.requests := by
    rcases holder : rota.holder with _ | ⟨number, phase⟩
    · exact ⟨rota, .refl, holder, rfl⟩
    · obtain ⟨slot, ending, placed, moves⟩ := orderly.hands_back holder
      exact ⟨_, moves, rfl, requests_close placed ending⟩
  -- The slots are served from the first one on.
  have served : ∀ count, ∃ after, Moves voice rota after ∧ after.holder = none ∧
      after.requests = rota.requests ∧ ∀ (number : Nat) (slot : Slot), number < count →
        after.slots[number]? = some slot → slot.result ≠ none := by
    intro count
    induction count with
    | zero =>
        obtain ⟨middle, moves, free, same⟩ := freed
        exact ⟨middle, moves, free, same, nofun⟩
    | succ count ih =>
        obtain ⟨middle, moves, free, same, returned⟩ := ih
        by_cases waits : ∃ slot, middle.slots[count]? = some slot ∧ slot.result = none
        · obtain ⟨slot, placed, pending⟩ := waits
          refine ⟨_, moves.trans (moves_served placed pending free), rfl,
            (requests_close placed _).trans same, ?_⟩
          intro number found below placed
          rcases close_cases middle count slot _ placed with ⟨rfl, rfl⟩ | ⟨apart, placed⟩
          · nofun
          · exact returned number found (by omega) placed
        · refine ⟨middle, moves, free, same, ?_⟩
          intro number slot below placed
          by_cases last : number = count
          · subst last
            exact fun pending => waits ⟨slot, placed, pending⟩
          · exact returned number slot (by omega) placed
  obtain ⟨after, moves, -, same, returned⟩ := served rota.slots.length
  refine ⟨after, moves, same, fun slot member => ?_⟩
  obtain ⟨number, inside, rfl⟩ := List.mem_iff_getElem.mp member
  have length : after.slots.length = rota.slots.length := by
    have lengths := congrArg List.length same
    simpa only [requests, List.length_map] using lengths
  exact returned number _ (length ▸ inside) (List.getElem?_eq_getElem inside)

theorem Opening.silent {list : List Received} {speaker : String}
    (opened : Opening number speaker list) {received : Received} (member : received ∈ list)
    (text : String) (reply : Reply ByteArray) : received.exchange ≠ .speech text reply := by
  cases opened with
  | active => cases member
  | switched other =>
      obtain rfl := List.mem_singleton.mp member
      nofun

theorem Turn.speech_eq {list : List Received} {speaker text other : String}
    {result : Except Fault ByteArray} (turn : Turn number speaker text list result)
    {received : Received} (member : received ∈ list) {reply : Reply ByteArray}
    (speech : received.exchange = .speech other reply) :
    other = text ∧ received.before = some speaker ∧ received.after = some speaker := by
  cases turn with
  | spoken opened _ =>
      rcases List.mem_append.mp member with early | late
      · exact absurd speech (opened.silent early other reply)
      · obtain rfl := List.mem_singleton.mp late
        cases speech
        exact ⟨rfl, rfl, rfl⟩
  | refused =>
      obtain rfl := List.mem_singleton.mp member
      cases speech

/-- Nothing is received for a call before its turn, and no text before the speaker is active. -/
theorem Orderly.opening (orderly : Orderly voice rota) (placed : rota.slots[number]? = some slot)
    (pending : slot.result = none) : Opening number slot.speaker (rota.receivedIn number) := by
  by_cases free : ∀ phase, rota.holder ≠ some (number, phase)
  · have nothing := orderly.standing number slot placed free
    rw [Stands, pending] at nothing
    rw [show rota.receivedIn number = [] from nothing]
    exact .active
  · obtain ⟨phase, holds⟩ := not_forall_not.mp free
    obtain ⟨-, own⟩ := orderly.holds_of placed holds
    cases phase with
    | admission =>
        rw [show rota.receivedIn number = [] from own]
        exact .active
    | switch =>
        rw [own.1]
        exact .active
    | speech => exact own.1

theorem Orderly.returned (orderly : Orderly voice rota) (placed : rota.slots[number]? = some slot)
    {result : Except Fault ByteArray} (ended : slot.result = some result) :
    Turn number slot.speaker slot.text (rota.receivedIn number) result ∨
      rota.receivedIn number = [] ∧ result = .error (.voice .poisoned) ∧
        rota.studio.poisoned = true := by
  have stands : rota.Stands number slot := by
    refine orderly.standing number slot placed fun phase holds => ?_
    obtain ⟨pending, -⟩ := orderly.holds_of placed holds
    rw [ended] at pending
    cases pending
  rw [Stands, ended] at stands
  exact stands

/--
A voice that minds its speakers is shared in turns, whatever is asked for and in whatever order the
moves come. Every text that the engine receives is the text of one call, and the speaker of that
call is active before and after. What the engine receives for a call stands together in the record:
a switch just if another speaker was active, then the text unless the switch failed; and the call
returns what the last reply says. Nothing follows a crash: the record stays as it is, and whoever
returns later is told that the voice is poisoned, as nobody is before. All calls may return at any
time, and one that is served at once does what `speakAs` does.
-/
theorem voice_shared_in_turns (voice : Voice V) (minds : voice.Minds) (studio : Studio V)
    (sound : studio.poisoned = false) (rota : Rota V)
    (reached : Moves voice { studio := studio.taped } rota) :
    (∀ received ∈ rota.record, ∃ slot, rota.slots[received.slot]? = some slot ∧
      ∀ text reply, received.exchange = .speech text reply →
        text = slot.text ∧ received.before = some slot.speaker ∧
          received.after = some slot.speaker) ∧
      (∀ (number : Nat) (slot : Slot), rota.slots[number]? = some slot →
        rota.receivedIn number <:+: rota.record ∧
        (slot.result = none → Opening number slot.speaker (rota.receivedIn number)) ∧
        ∀ result, slot.result = some result →
          Turn number slot.speaker slot.text (rota.receivedIn number) result ∨
            rota.receivedIn number = [] ∧ result = .error (.voice .poisoned) ∧
              ∃ received ∈ rota.record, received.exchange.isCrash = true) ∧
      (∀ received ∈ rota.record.dropLast, received.exchange.isCrash = false) ∧
      ((∃ received ∈ rota.record, received.exchange.isCrash = true) →
        ∀ after, Moves voice rota after → after.record = rota.record ∧
          ∀ (number : Nat) (slot : Slot) (result : Except Fault ByteArray),
            after.slots[number]? = some slot → slot.result = some result →
              rota.slots[number]? = some slot ∨ result = .error (.voice .poisoned)) ∧
      (∃ after, Moves voice rota after ∧ after.requests = rota.requests ∧
        ∀ slot ∈ after.slots, slot.result ≠ none) ∧
      ∀ (number : Nat) (slot : Slot), rota.slots[number]? = some slot → slot.result = none →
        rota.holder = none → ∃ after, Moves voice rota after ∧ after.holder = none ∧
          let ending := voice.speakAs slot.speaker slot.text rota.studio.untaped
          after.slots = rota.slots.set number { slot with result := some ending.1 } ∧
            after.studio.untaped = ending.2 := by
  have orderly : Orderly voice rota := (opened_orderly voice studio sound).moves minds reached
  have poisoned_iff : rota.studio.poisoned = true ↔
      ∃ received ∈ rota.record, received.exchange.isCrash = true := by
    rw [orderly.coherent.poisoned_eq, List.any_eq_true]
  refine ⟨?_, ?_, orderly.coherent.last, ?_, orderly.settles, ?_⟩
  · intro received member
    obtain ⟨slot, placed⟩ : ∃ slot, rota.slots[received.slot]? = some slot :=
      ⟨_, List.getElem?_eq_getElem (orderly.coherent.known received member)⟩
    refine ⟨slot, placed, fun text reply speech => ?_⟩
    have own : received ∈ rota.receivedIn received.slot :=
      List.mem_filter.mpr ⟨member, decide_eq_true rfl⟩
    cases ended : slot.result with
    | none => exact absurd speech ((orderly.opening placed ended).silent own text reply)
    | some result =>
        rcases orderly.returned placed ended with turn | ⟨nothing, -⟩
        · exact turn.speech_eq own speech
        · rw [nothing] at own
          cases own
  · intro number slot placed
    refine ⟨orderly.coherent.together number, orderly.opening placed, fun result ended => ?_⟩
    rw [← poisoned_iff]
    exact orderly.returned placed ended
  · intro crashed after moves
    obtain ⟨same, -, returned⟩ := orderly.turns_away minds (poisoned_iff.mpr crashed) moves
    exact ⟨same, returned⟩
  · intro number slot placed pending free
    have whole := voice.taped_speakAs number slot.speaker slot.text rota.studio
    refine ⟨_, moves_served placed pending free, rfl, ?_, ?_⟩
    · rw [← whole]
      rfl
    · rw [← whole]
      rfl

def moody : Voice (Option String) where
  active engine := engine
  activate speaker engine disk :=
    if speaker = "nobody" then (.failed (.voice (.reported "no model")), engine, disk)
    else (.done (), some speaker, disk)
  utter text engine disk :=
    if text = "boom" then (.crashed, engine, disk) else (.done text.toUTF8, engine, disk)

theorem moody_minds : moody.Minds where
  loads speaker engine disk done := by
    simp only [moody] at done ⊢
    split at done
    · cases done
    · next known => rw [if_neg known]
  stays text engine disk := by
    simp only [moody]
    split
    · rfl
    · rfl

/-- Who waits for an engine that breaks down is turned away, although it served others before. -/
theorem voice_shared_in_turns_of_moody :
    let studio : Studio (Option String) := { disk := ⟨[], []⟩, engine := none }
    moody.Minds ∧ studio.poisoned = false ∧ ∃ rota after : Rota (Option String),
      Moves moody { studio := studio.taped } rota ∧
      rota.record.map (·.slot) = [0, 0, 1, 2, 2] ∧ Moves moody rota after ∧
      after.record = rota.record ∧
      after.slots[3]? = some ⟨"ann", "again", some (.error (.voice .poisoned))⟩ := by
  intro studio
  let early : List Slot := [⟨"ann", "hi", none⟩, ⟨"nobody", "hi", none⟩]
  let all : List Slot := early ++ [⟨"bob", "boom", none⟩, ⟨"ann", "again", none⟩]
  let amid : Rota (Option String) :=
    { studio := studio.taped, holder := some (0, .switch), slots := all }
  let one := amid.close 0 ⟨"ann", "hi", none⟩ ((do
    (moody.taped 0).makeActive "ann"
    Studio.call ((moody.taped 0).utter "hi") : StudioTask (Tape (Option String)) ByteArray)
      amid.studio)
  let two := one.close 1 ⟨"nobody", "hi", none⟩ ((moody.taped 1).speakAs "nobody" "hi" one.studio)
  let three := two.close 2 ⟨"bob", "boom", none⟩ ((moody.taped 2).speakAs "bob" "boom" two.studio)
  -- The last two calls are made while the first one has the engine.
  have asked : Moves moody { studio := studio.taped } { studio := studio.taped, slots := early } :=
    .tail (.tail .refl (.ask "ann" "hi")) (.ask "nobody" "hi")
  have lent : Moves moody { studio := studio.taped }
      { studio := studio.taped, holder := some (0, .admission), slots := early } :=
    .tail asked (.lend rfl rfl rfl)
  have reachedAmid : Moves moody { studio := studio.taped } amid :=
    .tail (.tail (.tail lent (.act rfl rfl)) (.ask "bob" "boom")) (.ask "ann" "again")
  have reached : Moves moody { studio := studio.taped } three :=
    reachedAmid.trans <| (moves_switch rfl rfl : Moves moody amid one).trans <|
      (moves_served rfl rfl rfl : Moves moody one two).trans <|
        (moves_served rfl rfl rfl : Moves moody two three)
  obtain ⟨-, -, -, broken, ⟨after, moves, same, returned⟩, -⟩ :=
    voice_shared_in_turns moody moody_minds studio rfl three reached
  have crash : ∃ received ∈ three.record, received.exchange.isCrash = true :=
    List.any_eq_true.mp (by decide)
  obtain ⟨unchanged, late⟩ := broken crash after moves
  have waiting : three.slots[3]? = some ⟨"ann", "again", none⟩ := rfl
  have request : after.slots[3]?.map (fun slot => (slot.speaker, slot.text)) =
      some ("ann", "again") := by
    rw [← List.getElem?_map, show after.slots.map _ = _ from same, requests, List.getElem?_map,
      waiting]
    rfl
  obtain ⟨⟨speaker, text, result⟩, placed, named⟩ := Option.map_eq_some_iff.mp request
  cases named
  refine ⟨moody_minds, rfl, three, after, reached, by decide, moves, unchanged, ?_⟩
  cases result with
  | none => exact absurd rfl (returned _ (List.mem_of_getElem? placed))
  | some result =>
      rcases late 3 _ result placed rfl with already | rfl
      · rw [waiting] at already
        cases already
      · exact placed

end Rota

end SpokenMarkup
