import EmulatorScout.CommandLine.Run
import EmulatorScout.FileSystem.Tree
import EmulatorScout.Json.Literal.RoundTrip
import EmulatorScout.Main
import EmulatorScout.Proofs.CommandLine.Agreement
import EmulatorScout.Proofs.CommandLine.Frame
import EmulatorScout.Proofs.CommandLine.Lines
import EmulatorScout.Proofs.CommandLine.Listings
import EmulatorScout.Proofs.CommandLine.Marks
import EmulatorScout.Proofs.CommandLine.Override
import EmulatorScout.Proofs.CommandLine.Placement
import EmulatorScout.Proofs.CommandLine.Remembered
import EmulatorScout.Proofs.CommandLine.Reproducible
import EmulatorScout.Proofs.Config.Members
import EmulatorScout.Proofs.Config.Memory
import EmulatorScout.Proofs.Config.ReadBack
import EmulatorScout.Proofs.Config.SaveLoad
import EmulatorScout.Proofs.Config.Scanned
import EmulatorScout.Proofs.Config.Store
import EmulatorScout.Proofs.Directories
import EmulatorScout.Proofs.Discovery.CallPort
import EmulatorScout.Proofs.Discovery.Columns
import EmulatorScout.Proofs.Discovery.Naming
import EmulatorScout.Proofs.Discovery.Order
import EmulatorScout.Proofs.Discovery.ProcessId
import EmulatorScout.Proofs.Discovery.Reachable
import EmulatorScout.Proofs.Discovery.StatedPort
import EmulatorScout.Proofs.Discovery.Watch
import EmulatorScout.Proofs.FileSystem.AllOrNothing
import EmulatorScout.Proofs.FileSystem.Growth
import EmulatorScout.Proofs.FileSystem.Leftover
import EmulatorScout.Proofs.FileSystem.Outcome
import EmulatorScout.Proofs.FileSystem.Parents
import EmulatorScout.Proofs.FileSystem.Refusal
import EmulatorScout.Proofs.FileSystem.Replacement
import EmulatorScout.Proofs.FileSystem.Vacancy
import EmulatorScout.Proofs.FileSystem.Ways
import EmulatorScout.Proofs.Home
import EmulatorScout.Proofs.Json.Grammar
import EmulatorScout.Proofs.Json.Injective
import EmulatorScout.Proofs.Json.Literal
import EmulatorScout.Proofs.Json.Number
import EmulatorScout.Proofs.Json.ReadBack
import EmulatorScout.Proofs.Json.Reading
import EmulatorScout.Proofs.Path
import EmulatorScout.Proofs.Path.Surroundings
import EmulatorScout.Proofs.PropertyFile.Layout
import EmulatorScout.Proofs.PropertyFile.Lines
import EmulatorScout.Proofs.Text.Blank
import EmulatorScout.Proofs.Text.Separation
import EmulatorScout.Text.Utf8.RoundTrip
