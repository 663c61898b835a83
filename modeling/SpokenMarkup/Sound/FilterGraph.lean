import SpokenMarkup.Decimal.Fixed
import SpokenMarkup.Decimal.Shortest
import SpokenMarkup.Sound.Catalogue

set_option autoImplicit false

namespace SpokenMarkup.FilterGraph

def resampled (sampleRate input : Nat) : String :=
  let number := toString input
  "[" ++ number ++ ":a]aresample=" ++ toString sampleRate ++ ",aformat=channel_layouts=mono[a" ++
    number ++ "];"

def pad (input : Nat) : String :=
  "[a" ++ toString input ++ "]"

/-- Resamples every input and joins them in order into the pad `out`. -/
def joined (inputs sampleRate : Nat) : String :=
  let numbers := List.range inputs
  String.join (numbers.map (resampled sampleRate)) ++ String.join (numbers.map pad) ++
    "concat=n=" ++ toString inputs ++ ":v=0:a=1[out]"

/-- Cuts a parameter off at both ends of its range; what is not a number stays. -/
def clamp (value low high : Float32) : Float32 :=
  if value < low then low else if value > high then high else value

/-- A gain of at most one, also for what is not a number. -/
def atMostOne (gain : Float32) : Float32 :=
  if gain ≤ 1 then gain else 1

/-- Two echoes: the size of the room gives the delays, the reverberance the decays. -/
def reverb (reverberance roomScale wetGain : Float32) : String :=
  let delay := 20 + clamp roomScale 0 100 * 0.8
  let decay := 0.1 + clamp reverberance 0 100 / 100 * 0.6
  let gain := atMostOne (0.8 * Float32.pow 10 (wetGain / 20))
  "aecho=0.8:" ++ Decimal.fixed gain 3 ++ ":" ++ Decimal.fixed delay 0 ++ "|" ++
    Decimal.fixed (delay * 1.7) 0 ++ ":" ++ Decimal.fixed decay 3 ++ "|" ++
    Decimal.fixed (decay * 0.6) 3

/-- Plays at another rate and makes up for the change of tempo. -/
def pitch (sampleRate : Nat) (cents : Float32) : String :=
  let ratio := Float32.pow 2 (cents / 1200)
  let rate := toString sampleRate
  "aresample=" ++ rate ++ ",asetrate=" ++
    Decimal.fixed (sampleRate.toUInt32.toFloat32 * ratio) 0 ++ ",aresample=" ++ rate ++
    ",atempo=" ++ Decimal.fixed (1 / ratio) 6

def stage (sampleRate : Nat) : Stage → String
  | .reverb reverberance roomScale wetGain => reverb reverberance roomScale wetGain
  | .pitch cents => pitch sampleRate cents
  | .highPass hertz => "highpass=f=" ++ Decimal.shortest hertz
  | .lowPass hertz => "lowpass=f=" ++ Decimal.shortest hertz
  | .gain decibels => "volume=" ++ Decimal.shortest decibels ++ "dB"
  | .reverse => "areverse"
  | .chorus inGain outGain delay decay speed depth =>
    "chorus=" ++ String.intercalate ":"
      ([inGain, outGain, delay, decay, speed, depth].map Decimal.shortest)
  | .tempo factor => "atempo=" ++ Decimal.shortest factor

def chain (sampleRate : Nat) (preset : Preset) : String :=
  String.intercalate "," (preset.stages.map (stage sampleRate))

end SpokenMarkup.FilterGraph
