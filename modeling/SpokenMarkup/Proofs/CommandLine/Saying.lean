import SpokenMarkup.Proofs.CommandLine.Aftermath
import SpokenMarkup.Proofs.Studio.Conformance

set_option autoImplicit false

namespace SpokenMarkup

namespace CommandLine

section Direct

end Direct

/-- The programs write their declared output only; that for the voice declares none, and the output
of the others is the last of their arguments. -/
structure OnlyWrites (settings : Settings) (launcher : Launcher) : Prop
    extends settings.Tidy launcher where
  filters : ∀ (program input output : Path) disk outcome after,
    launcher program { arguments := [input.text, output.text] } disk = .ok (outcome, after) →
      Disk.Writes output disk after

theorem OnlyWrites.writesOutputs {settings : Settings} {launcher : Launcher} {host : Host}
    (only : OnlyWrites settings launcher) : (settings.equipment launcher host).WritesOutputs :=
  { only.toTidy.writesOutputs with
    runs := fun program input output _ _ _ started => only.filters program input output _ _ _ started }

def SayRequest.session (request : SayRequest) (loaded : Settings) (launcher : Launcher)
    (host : Host) (process : Nat) : Session LoadedVoice :=
  ⟨request.adjust loaded, (request.adjust loaded).equipment launcher host, process⟩

end CommandLine

namespace Plain

def order : CommandLine.SayRequest :=
  ⟨none, ⟨"audio.wav"⟩, false, none, false, none⟩

end Plain

namespace CommandLine

end CommandLine

end SpokenMarkup
