import SpokenMarkup.CommandLine.Failure
import SpokenMarkup.CommandLine.Grammar
import SpokenMarkup.CommandLine.Request
import SpokenMarkup.CommandLine.Transcript
import SpokenMarkup.Composition.Layout
import SpokenMarkup.Composition.NormalForm
import SpokenMarkup.Composition.Numbering
import SpokenMarkup.Composition.OfMarkup
import SpokenMarkup.Composition.Scopes
import SpokenMarkup.Composition.Tree
import SpokenMarkup.Decimal.Fixed
import SpokenMarkup.Decimal.Reading
import SpokenMarkup.Decimal.Shortest
import SpokenMarkup.Decimal.Single
import SpokenMarkup.Disk.Basic
import SpokenMarkup.Disk.FileTask
import SpokenMarkup.Disk.Host
import SpokenMarkup.Disk.Launcher
import SpokenMarkup.Disk.OsError
import SpokenMarkup.Disk.Path
import SpokenMarkup.Event
import SpokenMarkup.Fault
import SpokenMarkup.Main
import SpokenMarkup.Markup.Numeral
import SpokenMarkup.Markup.Stretch
import SpokenMarkup.Markup.Token
import SpokenMarkup.Markup.TokenStream
import SpokenMarkup.Settings.Basic
import SpokenMarkup.Settings.Document
import SpokenMarkup.Settings.Lexeme
import SpokenMarkup.Sound.Asset
import SpokenMarkup.Sound.Catalogue
import SpokenMarkup.Sound.FfmpegMixer
import SpokenMarkup.Sound.FilterGraph
import SpokenMarkup.Sound.Mixer
import SpokenMarkup.Speech.SpeechProgram
import SpokenMarkup.Speech.Voice
import SpokenMarkup.Studio.Basic
import SpokenMarkup.Studio.Equipment
import SpokenMarkup.Studio.Job
import SpokenMarkup.Studio.Session
import SpokenMarkup.Text.Blank
import SpokenMarkup.Proofs.Disk.Agreement
import SpokenMarkup.Proofs.Disk.Folder
import SpokenMarkup.Proofs.Disk.Scratch
import SpokenMarkup.Proofs.Markup.Numeral
import SpokenMarkup.Proofs.Markup.Lexing
import SpokenMarkup.Proofs.Markup.Seam
import SpokenMarkup.Proofs.Composition.NormalForm
import SpokenMarkup.Proofs.Composition.Shape
import SpokenMarkup.Proofs.Composition.Scopes
import SpokenMarkup.Proofs.Composition.RoundTrip
import SpokenMarkup.Proofs.Composition.Numbering
import SpokenMarkup.Proofs.Studio.Acoustics
import SpokenMarkup.Proofs.Studio.Perform
import SpokenMarkup.Proofs.Studio.Tasks
import SpokenMarkup.Proofs.Studio.Plain
import SpokenMarkup.Proofs.Studio.Rendering
import SpokenMarkup.Proofs.Studio.Schedule
import SpokenMarkup.Proofs.Studio.Locality
import SpokenMarkup.Proofs.Studio.Confined
import SpokenMarkup.Proofs.Studio.SideBySide
import SpokenMarkup.Proofs.Studio.Hearing
import SpokenMarkup.Proofs.Composition.Brackets
import SpokenMarkup.Proofs.Composition.Documents
import SpokenMarkup.Proofs.Disk.Ways
import SpokenMarkup.Proofs.Studio.Acts
import SpokenMarkup.Proofs.Studio.Amid
import SpokenMarkup.Proofs.Disk.Growth
import SpokenMarkup.Proofs.Studio.Files
import SpokenMarkup.Proofs.Disk.Ancestry
import SpokenMarkup.Proofs.Disk.Rooms
import SpokenMarkup.Proofs.Studio.Grounds
import SpokenMarkup.Proofs.Studio.Undisturbed
import SpokenMarkup.Proofs.Studio.Booking
import SpokenMarkup.Proofs.Studio.Calls
import SpokenMarkup.Proofs.Studio.Desk
import SpokenMarkup.Proofs.Studio.Orderly
import SpokenMarkup.Proofs.Studio.Isolation
import SpokenMarkup.Proofs.Studio.PlainBooking
import SpokenMarkup.Proofs.Disk.Upkeep
import SpokenMarkup.Proofs.Studio.Reach
import SpokenMarkup.Proofs.Studio.AllOrNothing
import SpokenMarkup.Proofs.Studio.Lockstep
import SpokenMarkup.Proofs.Disk.Matching
import SpokenMarkup.Proofs.Studio.Leftovers
import SpokenMarkup.Proofs.Studio.Reruns
import SpokenMarkup.Proofs.Studio.Provenance
import SpokenMarkup.Proofs.Studio.Conformance
import SpokenMarkup.Proofs.Composition.Preorder
import SpokenMarkup.Proofs.Composition.Settling
import SpokenMarkup.Proofs.Markup.Integer
import SpokenMarkup.Proofs.Markup.CanonicalForm
import SpokenMarkup.Proofs.Markup.Delimiters
import SpokenMarkup.Proofs.Markup.Reader
import SpokenMarkup.Proofs.CommandLine.Lines
import SpokenMarkup.Proofs.CommandLine.Loop
import SpokenMarkup.Proofs.CommandLine.Aftermath
import SpokenMarkup.Proofs.CommandLine.Saying
import SpokenMarkup.Proofs.Composition.OneLine
import SpokenMarkup.Proofs.Composition.Layout
import SpokenMarkup.Proofs.Sound.GraphReading
import SpokenMarkup.Proofs.Sound.Pads
import SpokenMarkup.Proofs.Sound.Joining
import SpokenMarkup.Proofs.Speech.Loading
import SpokenMarkup.Proofs.Studio.Tape
import SpokenMarkup.Proofs.Studio.Rota
