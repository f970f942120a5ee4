import Rulebound.Action
import Rulebound.Address
import Rulebound.Address.Host
import Rulebound.Address.Label
import Rulebound.Address.Letter
import Rulebound.Backend
import Rulebound.Backend.Choice
import Rulebound.Backend.Server
import Rulebound.Body
import Rulebound.Command.Execution
import Rulebound.Command.Order
import Rulebound.Command.Switch
import Rulebound.Command.Word
import Rulebound.Cycle.Attempt
import Rulebound.Cycle.Course
import Rulebound.Cycle.Event
import Rulebound.Cycle.Record
import Rulebound.Cycle.Turn
import Rulebound.Diary.Entry
import Rulebound.Diary.Folder
import Rulebound.Diary.Follower
import Rulebound.Diary.Reader
import Rulebound.Dispatch
import Rulebound.Fault
import Rulebound.Files
import Rulebound.Instant
import Rulebound.Json.Printer
import Rulebound.Json.Reader
import Rulebound.Json.Value
import Rulebound.Log
import Rulebound.Log.Mark
import Rulebound.Log.Station
import Rulebound.Main
import Rulebound.Number.Binary64
import Rulebound.Number.Decimal
import Rulebound.Number.Digits
import Rulebound.Number.Reading
import Rulebound.Observation
import Rulebound.Outcome
import Rulebound.Path
import Rulebound.Position
import Rulebound.Profile
import Rulebound.Prompt
import Rulebound.Proofs.Action.Grammar
import Rulebound.Proofs.Action.Line
import Rulebound.Proofs.Action.Marker
import Rulebound.Proofs.Action.Printed
import Rulebound.Proofs.Backend.Attempt
import Rulebound.Proofs.Backend.Link
import Rulebound.Proofs.Backend.Server
import Rulebound.Proofs.Backend.Stop
import Rulebound.Proofs.Backend.Waiting
import Rulebound.Proofs.Blocks
import Rulebound.Proofs.Calls
import Rulebound.Proofs.Chat
import Rulebound.Proofs.Checked
import Rulebound.Proofs.Course
import Rulebound.Proofs.Diary
import Rulebound.Proofs.Diary.Apart
import Rulebound.Proofs.Diary.Change
import Rulebound.Proofs.Diary.Folder
import Rulebound.Proofs.Diary.Foreign
import Rulebound.Proofs.Diary.Found
import Rulebound.Proofs.Dispatch
import Rulebound.Proofs.Effect
import Rulebound.Proofs.Enforcement
import Rulebound.Proofs.Files
import Rulebound.Proofs.Files.Frame
import Rulebound.Proofs.Files.Place
import Rulebound.Proofs.Follower
import Rulebound.Proofs.Instant
import Rulebound.Proofs.Json.Ascii
import Rulebound.Proofs.Json.Cut
import Rulebound.Proofs.Json.Nesting
import Rulebound.Proofs.Json.Number
import Rulebound.Proofs.Json.RoundTrip
import Rulebound.Proofs.Json.String
import Rulebound.Proofs.Launch
import Rulebound.Proofs.Lifecycle
import Rulebound.Proofs.Mediation
import Rulebound.Proofs.Naming
import Rulebound.Proofs.Number.Decimal
import Rulebound.Proofs.Number.Digits
import Rulebound.Proofs.Number.Exact
import Rulebound.Proofs.Number.Finite
import Rulebound.Proofs.Number.Norm
import Rulebound.Proofs.Number.Numeral
import Rulebound.Proofs.Number.Order
import Rulebound.Proofs.Number.Reading
import Rulebound.Proofs.Number.Rounding
import Rulebound.Proofs.Number.Shortest
import Rulebound.Proofs.Outcome
import Rulebound.Proofs.Permission
import Rulebound.Proofs.Phases
import Rulebound.Proofs.Players
import Rulebound.Proofs.Profile
import Rulebound.Proofs.Prohibition
import Rulebound.Proofs.Prompt
import Rulebound.Proofs.Record
import Rulebound.Proofs.Scope
import Rulebound.Proofs.Session
import Rulebound.Proofs.Settings
import Rulebound.Proofs.Sighting
import Rulebound.Proofs.Sink
import Rulebound.Proofs.Stop
import Rulebound.Proofs.Survival
import Rulebound.Proofs.Table
import Rulebound.Proofs.Text.Blank
import Rulebound.Proofs.Text.Lines
import Rulebound.Proofs.Text.Lower
import Rulebound.Proofs.Text.Pieces
import Rulebound.Proofs.Text.Runs
import Rulebound.Proofs.Text.Separator
import Rulebound.Proofs.Text.Split
import Rulebound.Proofs.Text.Surrogate
import Rulebound.Proofs.Text.Words
import Rulebound.Proofs.Truncation
import Rulebound.Proofs.Turn
import Rulebound.Proofs.View
import Rulebound.Proofs.World.Atomicity
import Rulebound.Proofs.World.Attack
import Rulebound.Proofs.World.Beings
import Rulebound.Proofs.World.ByName
import Rulebound.Proofs.World.Conservation
import Rulebound.Proofs.World.Crafting
import Rulebound.Proofs.World.Mining
import Rulebound.Proofs.World.Nearest
import Rulebound.Proofs.World.Operation
import Rulebound.Proofs.World.Ores
import Rulebound.Proofs.World.Run
import Rulebound.Proofs.World.Sleep
import Rulebound.Proofs.World.Standing
import Rulebound.Proofs.World.Steady
import Rulebound.Proofs.World.Upkeep
import Rulebound.Proofs.Writable
import Rulebound.Proofs.Writing
import Rulebound.Rule
import Rulebound.Rule.Book
import Rulebound.Schema.Checked
import Rulebound.Schema.Decode
import Rulebound.Schema.IntegerText
import Rulebound.Session
import Rulebound.Settings
import Rulebound.Table
import Rulebound.Text.Case
import Rulebound.Text.Character
import Rulebound.Text.Encoding
import Rulebound.Text.Quoted
import Rulebound.Text.Search
import Rulebound.View
import Rulebound.World
import Rulebound.World.Operation
import Rulebound.World.Snapshot
