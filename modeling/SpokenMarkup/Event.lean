import SpokenMarkup.Fault
import SpokenMarkup.Markup.TokenStream

set_option autoImplicit false

namespace SpokenMarkup

inductive Level where
  | debug | info | warn | error | span
deriving DecidableEq, Repr

inductive Event where
  /-- A filter marker without a body or without an end. -/
  | filterMarkerDropped
  | effectMarkerDropped (body : String)
  | filtersSkipped (count depth : Nat)
  | tokensIgnored (count : Nat)
  | emptyFilterDropped (id : String)
  | renderStarted (characters : Nat)
  | composed (nodes : Nat) (layout : String)
  | speakerSwitched (speaker : String)
  | speaking (speaker text : String)
  | insertingEffect (id : String)
  | applyingFilter (id : String)
  | filterUnavailable (program : Path) (reason : String)
  | filterUnknown (id : String)
  | nodeUnnamed
  | nodeDropped (target : Path) (fault : Fault)
  | renderFinished (artifact : Path)
  | renderSilent
  | scratchLeft (dir : Path) (error : OsError)
  | ffmpegMissing (program : Path)
  /-- A line of markup could not be rendered. -/
  | lineFailed (summary : String)
deriving DecidableEq, Repr

namespace Event

def level : Event → Level
  | filterMarkerDropped | effectMarkerDropped _ | tokensIgnored _ | emptyFilterDropped _
  | composed _ _ | speakerSwitched _ | speaking _ _ | insertingEffect _ | applyingFilter _ => .debug
  | renderFinished _ | renderSilent => .info
  | filtersSkipped _ _ | filterUnavailable _ _ | filterUnknown _ | nodeUnnamed | nodeDropped _ _
  | scratchLeft _ _ | ffmpegMissing _ => .warn
  | lineFailed _ => .error
  | renderStarted _ => .span

def message : Event → String
  | filterMarkerDropped => "unterminated or empty filter marker dropped"
  | effectMarkerDropped _ => "non-integer sound effect dropped"
  | filtersSkipped _ _ => "filters nested too deeply were ignored"
  | tokensIgnored _ => "tokens after an unmatched close marker were ignored"
  | emptyFilterDropped _ => "dropping filter with empty body"
  | renderStarted _ => "render"
  | composed _ _ => "composition ready"
  | speakerSwitched _ => "switching voice model"
  | speaking _ _ => "synthesizing speech"
  | insertingEffect _ => "inserting sound effect"
  | applyingFilter _ => "applying filter"
  | filterUnavailable _ _ => "filter program unavailable; passing audio through"
  | filterUnknown _ => "unknown filter; passing audio through"
  | nodeUnnamed => "node has no outfile; was the tree named?"
  | nodeDropped _ _ => "node dropped"
  | renderFinished _ => "render finished"
  | renderSilent => "no audio produced"
  | scratchLeft _ _ => "failed to remove scratch directory"
  | ffmpegMissing _ => "ffmpeg not found; groups and presets will fail"
  | lineFailed summary => summary

def fields : Event → List (String × String)
  | filterMarkerDropped | nodeUnnamed | renderSilent | lineFailed _ => []
  | effectMarkerDropped body => [("body", body)]
  | filtersSkipped count depth => [("flattened", toString count), ("max_depth", toString depth)]
  | tokensIgnored count => [("ignored", toString count)]
  | emptyFilterDropped id | applyingFilter id | filterUnknown id => [("filter", id)]
  | renderStarted characters => [("chars", toString characters)]
  | composed nodes layout => [("nodes", toString nodes), ("tree", layout)]
  | speakerSwitched speaker => [("speaker", speaker)]
  | speaking speaker text => [("speaker", speaker), ("text", text)]
  | insertingEffect id => [("id", id)]
  | filterUnavailable program reason => [("program", program.text), ("reason", reason)]
  | nodeDropped target fault => [("outfile", target.text), ("error", fault.message)]
  | renderFinished artifact => [("out", artifact.text)]
  | scratchLeft dir error => [("dir", dir.text), ("error", error.message)]
  | ffmpegMissing program => [("ffmpeg", program.text)]

end Event

/-- What is reported about a marker that yields no token. -/
def Stretch.event? (stretch : Stretch) : Option Event :=
  match stretch.ending, stretch.marker with
  | .filter _, none => some .filterMarkerDropped
  | .effect (some (c :: body)), none => some (.effectMarkerDropped (String.ofList (c :: body)))
  | _, _ => none

def TokenStream.event? (stream : TokenStream) : Option Event :=
  match stream.queued, stream.stretches with
  | none, stretch :: _ => stretch.event?
  | _, _ => none

end SpokenMarkup
