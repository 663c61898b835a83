import SpokenMarkup.Disk.Basic
import SpokenMarkup.Settings.Basic
import SpokenMarkup.Settings.Lexeme

set_option autoImplicit false

namespace SpokenMarkup.Settings

/-- The values that settings take in a document. -/
inductive Value where
  | text (content : String)
  | texts (contents : List String)
  | natural (value : Nat)
  | bool (value : Bool)
  | null
deriving DecidableEq, Repr

namespace Value

def moreTexts : List Lexeme → Option (List String × List Lexeme)
  | .closeBracket :: rest => some ([], rest)
  | .comma :: .text content :: rest =>
    (moreTexts rest).map fun (contents, rest) => (content :: contents, rest)
  | _ => none

/-- Reads one value, and gives what follows it. -/
def read : List Lexeme → Option (Value × List Lexeme)
  | .text content :: rest => some (.text content, rest)
  | .natural value :: rest => some (.natural value, rest)
  | .bool value :: rest => some (.bool value, rest)
  | .null :: rest => some (.null, rest)
  | .openBracket :: .closeBracket :: rest => some (.texts [], rest)
  | .openBracket :: .text content :: rest =>
    (moreTexts rest).map fun (contents, rest) => (.texts (content :: contents), rest)
  | _ => none

theorem length_moreTexts_lt {lexemes rest : List Lexeme} {contents : List String}
    (found : moreTexts lexemes = some (contents, rest)) : rest.length < lexemes.length := by
  fun_induction moreTexts lexemes generalizing contents rest with
  | case1 => simp_all
  | case2 content following ih =>
    obtain ⟨⟨more, last⟩, same, equal⟩ := Option.map_eq_some_iff.1 found
    have := ih same
    simp only [Prod.mk.injEq] at equal
    simp only [← equal.2, List.length_cons]
    omega
  | case3 => simp at found

theorem length_read_lt {lexemes rest : List Lexeme} {value : Value}
    (found : read lexemes = some (value, rest)) : rest.length < lexemes.length := by
  unfold read at found
  split at found
  case h_6 content following =>
    obtain ⟨⟨more, last⟩, same, equal⟩ := Option.map_eq_some_iff.1 found
    have := length_moreTexts_lt same
    simp only [Prod.mk.injEq] at equal
    simp only [← equal.2, List.length_cons]
    omega
  case h_7 => simp at found
  all_goals
    simp only [Option.some.injEq, Prod.mk.injEq] at found
    obtain ⟨_, rfl⟩ := found
    simp only [List.length_cons]
    omega

end Value

def members (lexemes : List Lexeme) : Option (List (String × Value)) :=
  match lexemes with
  | .text key :: .colon :: following =>
    match _found : Value.read following with
    | some (value, [.closeBrace]) => some [(key, value)]
    | some (value, .comma :: rest) => (members rest).map ((key, value) :: ·)
    | _ => none
  | _ => none
termination_by lexemes.length
decreasing_by
  have := Value.length_read_lt ‹_›
  simp only [List.length_cons] at this ⊢
  omega

def elements (lexemes : List Lexeme) : Option (List Value) :=
  match _found : Value.read lexemes with
  | some (value, [.closeBracket]) => some [value]
  | some (value, .comma :: rest) => (elements rest).map (value :: ·)
  | _ => none
termination_by lexemes.length
decreasing_by
  have := Value.length_read_lt ‹_›
  simp only [List.length_cons] at this
  omega

def keys : List String :=
  ["default_speaker", "scratch_dir", "sound_effects_dir", "asset_formats", "filters_dir",
    "models_dir", "voice_program", "ffmpeg", "sample_rate", "parallel", "threads"]

/-- The settings that a document names, with their values. -/
def entries? : List Lexeme → Option (List (String × Value))
  | [.openBrace, .closeBrace] | [.openBracket, .closeBracket] => some []
  | .openBrace :: rest => (members rest).filter fun entries => (entries.map (·.1)).Nodup
  | .openBracket :: rest => do
    let values ← elements rest
    if values.length ≤ keys.length then some (keys.zip values) else none
  | _ => none

/-- Changes one setting, if there is one of this name that takes this value. -/
def change? (settings : Settings) : String × Value → Option Settings
  | ("default_speaker", .text name) => some { settings with defaultSpeaker := name }
  | ("scratch_dir", .text dir) => some { settings with scratchDir := ⟨dir⟩ }
  | ("sound_effects_dir", .text dir) => some { settings with soundEffectsDir := ⟨dir⟩ }
  | ("asset_formats", .texts formats) => some { settings with assetFormats := formats }
  | ("filters_dir", .text dir) => some { settings with filtersDir := ⟨dir⟩ }
  | ("models_dir", .text dir) => some { settings with modelsDir := ⟨dir⟩ }
  | ("voice_program", .text program) => some { settings with voiceProgram := ⟨program⟩ }
  | ("ffmpeg", .text program) => some { settings with ffmpeg := ⟨program⟩ }
  | ("sample_rate", .natural rate) =>
    if rate < UInt32.size then some { settings with sampleRate := rate } else none
  | ("parallel", .bool parallel) => some { settings with parallel }
  | ("threads", .natural count) =>
    if count < UInt64.size then some { settings with threads := some count } else none
  | ("threads", .null) => some { settings with threads := none }
  | _ => none

def ofLexemes? (lexemes : List Lexeme) : Option Settings := do
  (← entries? lexemes).foldlM change? {}

def ofDocument (document : String) : Except Fault Settings := do
  match (Lexeme.ofDocument? document).bind ofLexemes? with
  | none => .error (.settings .malformed)
  | some settings =>
    settings.check
    .ok settings

def ofFile (disk : Disk) (file : Path) : Except Fault Settings :=
  match disk.read file with
  | .error error => .error (.settingsFile file (.refused error))
  | .ok content =>
    match String.fromUTF8? content with
    | none => .error (.settingsFile file .notUtf8)
    | some document => ofDocument document

end SpokenMarkup.Settings
