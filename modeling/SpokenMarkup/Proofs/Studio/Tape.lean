import SpokenMarkup.Proofs.Studio.Tasks

set_option autoImplicit false

namespace SpokenMarkup

variable {V : Type}

/-- A voice that broke down is refused to everybody. -/
def Studio.admit : StudioTask V Unit := do
  if (← get).poisoned then
    throw (.voice .poisoned)

def Voice.makeActive (voice : Voice V) (speaker : String) : StudioTask V Unit := do
  unless voice.active (← get).engine = some speaker do
    modify (·.noting (.speakerSwitched speaker))
    Studio.call (voice.activate speaker)

theorem Studio.admit_apply (studio : Studio V) :
    Studio.admit studio =
      if studio.poisoned then (.error (.voice .poisoned), studio) else (.ok (), studio) := by
  change (if studio.poisoned = true then _ else _ : StudioTask V Unit) studio = _
  cases studio.poisoned <;> rfl

theorem Voice.makeActive_apply (voice : Voice V) (speaker : String) (studio : Studio V) :
    voice.makeActive speaker studio =
      if voice.active studio.engine = some speaker then (.ok (), studio)
      else Studio.call (voice.activate speaker) (studio.noting (.speakerSwitched speaker)) := by
  change (if voice.active studio.engine = some speaker then _ else _ : StudioTask V Unit) studio = _
  by_cases active : voice.active studio.engine = some speaker
  · rw [if_pos active, if_pos active]
    rfl
  · rw [if_neg active, if_neg active]
    rfl

theorem Voice.speakAs_eq (voice : Voice V) (speaker text : String) :
    voice.speakAs speaker text = (do
      Studio.admit
      voice.makeActive speaker
      Studio.call (voice.utter text)) := by
  funext studio
  rw [speakAs_apply, task_bind, Studio.admit_apply]
  cases studio.poisoned with
  | true => rfl
  | false =>
      simp only [Bool.false_eq_true, if_false]
      rw [task_bind, Voice.makeActive_apply]
      by_cases active : voice.active studio.engine = some speaker
      · rw [if_pos active, if_pos active]
      · rw [if_neg active, if_neg active]
        rcases Studio.call (voice.activate speaker) (studio.noting (.speakerSwitched speaker))
          with ⟨_ | _, after⟩ <;> rfl

inductive Exchange where
  | switch (speaker : String) (reply : Reply Unit)
  | speech (text : String) (reply : Reply ByteArray)

def Exchange.isCrash : Exchange → Bool
  | switch _ reply => reply.isCrash
  | speech _ reply => reply.isCrash

/-- A call that an engine received: the number of the slot that it was lent to, and the speakers who
were active before and after. -/
structure Received where
  slot : Nat
  before : Option String
  after : Option String
  exchange : Exchange

/-- An engine, and all that it received. -/
structure Tape (V : Type) where
  engine : V
  record : List Received := []

/-- The voice with a record of what it receives while it is lent to a slot. -/
def Voice.taped (voice : Voice V) (slot : Nat) : Voice (Tape V) where
  active tape := voice.active tape.engine
  activate speaker tape disk :=
    let (reply, engine, changed) := voice.activate speaker tape.engine disk
    (reply, ⟨engine, tape.record ++
      [⟨slot, voice.active tape.engine, voice.active engine, .switch speaker reply⟩]⟩, changed)
  utter text tape disk :=
    let (reply, engine, changed) := voice.utter text tape.engine disk
    (reply, ⟨engine, tape.record ++
      [⟨slot, voice.active tape.engine, voice.active engine, .speech text reply⟩]⟩, changed)

def Studio.taped (studio : Studio V) : Studio (Tape V) :=
  { studio with engine := ⟨studio.engine, []⟩ }

def Studio.untaped (studio : Studio (Tape V)) : Studio V :=
  { studio with engine := studio.engine.engine }

/-- The studio after its engine received something, with what that made of engine and disk. -/
def Studio.receiving (studio : Studio (Tape V)) (engine : V) (disk : Disk) (received : Received) :
    Studio (Tape V) :=
  { studio with
    engine := ⟨engine, studio.engine.record ++ [received]⟩
    disk
    poisoned := studio.poisoned || received.exchange.isCrash }

theorem Voice.call_taped_activate {voice : Voice V} {speaker : String} {studio : Studio (Tape V)}
    {reply : Reply Unit} {engine : V} {disk : Disk}
    (replies : voice.activate speaker studio.engine.engine studio.disk = (reply, engine, disk))
    (slot : Nat) :
    Studio.call ((voice.taped slot).activate speaker) studio =
      (reply.result, studio.receiving engine disk
        ⟨slot, voice.active studio.engine.engine, voice.active engine, .switch speaker reply⟩) := by
  rw [Studio.call_apply]
  simp only [Voice.taped, replies]
  rfl

theorem Voice.call_taped_utter {voice : Voice V} {text : String} {studio : Studio (Tape V)}
    {reply : Reply ByteArray} {engine : V} {disk : Disk}
    (replies : voice.utter text studio.engine.engine studio.disk = (reply, engine, disk))
    (slot : Nat) :
    Studio.call ((voice.taped slot).utter text) studio =
      (reply.result, studio.receiving engine disk
        ⟨slot, voice.active studio.engine.engine, voice.active engine, .speech text reply⟩) := by
  rw [Studio.call_apply]
  simp only [Voice.taped, replies]
  rfl

theorem Voice.taped_speakAs (voice : Voice V) (slot : Nat) (speaker text : String)
    (studio : Studio (Tape V)) :
    ((voice.taped slot).speakAs speaker text studio).map id Studio.untaped =
      voice.speakAs speaker text studio.untaped := by
  have uttered (studio : Studio (Tape V)) :
      (Studio.call ((voice.taped slot).utter text) studio).map id Studio.untaped =
        Studio.call (voice.utter text) studio.untaped := by
    rw [Studio.call_apply, Studio.call_apply]
    rfl
  have activated (studio : Studio (Tape V)) :
      (Studio.call ((voice.taped slot).activate speaker) studio).map id Studio.untaped =
        Studio.call (voice.activate speaker) studio.untaped := by
    rw [Studio.call_apply, Studio.call_apply]
    rfl
  rw [speakAs_apply, speakAs_apply]
  by_cases broken : studio.poisoned = true
  · rw [if_pos broken, if_pos (show studio.untaped.poisoned = true from broken)]
    rfl
  rw [if_neg broken, if_neg (show ¬studio.untaped.poisoned = true from broken)]
  by_cases active : (voice.taped slot).active studio.engine = some speaker
  · rw [if_pos active, if_pos (show voice.active studio.untaped.engine = some speaker from active)]
    exact uttered studio
  · rw [if_neg active, if_neg (show ¬voice.active studio.untaped.engine = some speaker from active)]
    have switched : (Studio.call ((voice.taped slot).activate speaker)
        (studio.noting (.speakerSwitched speaker))).map id Studio.untaped =
          Studio.call (voice.activate speaker) (studio.untaped.noting (.speakerSwitched speaker)) :=
      activated (studio.noting (.speakerSwitched speaker))
    rw [← switched]
    rcases Studio.call ((voice.taped slot).activate speaker)
      (studio.noting (.speakerSwitched speaker)) with ⟨_ | _, after⟩
    · rfl
    · exact uttered after

end SpokenMarkup
