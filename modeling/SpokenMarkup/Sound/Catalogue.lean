set_option autoImplicit false

namespace SpokenMarkup

inductive Stage where
  /-- An echo; the first two parameters are percentages, the gain is in decibels. -/
  | reverb (reverberance roomScale wetGain : Float32)
  /-- A change of pitch that keeps the tempo, in cents. -/
  | pitch (cents : Float32)
  | highPass (hertz : Float32)
  | lowPass (hertz : Float32)
  /-- A change of volume in decibels. -/
  | gain (decibels : Float32)
  | reverse
  | chorus (inGain outGain delay decay speed depth : Float32)
  /-- A change of tempo that keeps the pitch. -/
  | tempo (factor : Float32)
deriving BEq, Repr

structure Preset where
  id : String
  name : String
  stages : List Stage
deriving BEq, Repr

namespace Preset

/-- Half an octave, in cents. -/
def halfOctave : Float32 := 600

def catalogue : List Preset :=
  [⟨"1", "room echo", [.reverb 50 50 0]⟩,
    ⟨"2", "hall echo", [.reverb 75 75 1]⟩,
    ⟨"3", "outside echo", [.reverb 0 5 0]⟩,
    ⟨"4", "pitch down", [.pitch (-halfOctave)]⟩,
    ⟨"5", "pitch up", [.pitch halfOctave]⟩,
    ⟨"6", "telephone", [.highPass 800, .lowPass 3400, .gain 2]⟩,
    ⟨"7", "muffled", [.lowPass 1200]⟩,
    ⟨"8", "quieter", [.gain (-4)]⟩,
    ⟨"9", "ghost", [.reverse, .reverb 100 100 1, .reverse, .reverb 50 100 0]⟩,
    ⟨"10", "chorus", [.chorus 0.5 0.5 50 0.4 0.25 2]⟩,
    ⟨"11", "slow down", [.tempo 0.5]⟩,
    ⟨"12", "speed up", [.tempo 1.5]⟩]

def find? (id : String) : Option Preset :=
  catalogue.find? (·.id = id)

end Preset

end SpokenMarkup
