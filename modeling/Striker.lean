import Striker.Action
import Striker.Ball
import Striker.Board
import Striker.Command
import Striker.CommandLine.Call
import Striker.CommandLine.Program
import Striker.CommandLine.Report
import Striker.Datum.Basic
import Striker.Datum.Record
import Striker.Datum.Source
import Striker.Event
import Striker.Files.Basic
import Striker.Files.Path
import Striker.Indicator
import Striker.Json.Cursor
import Striker.Json.Document
import Striker.Json.Text
import Striker.Json.Value
import Striker.Main
import Striker.Motion
import Striker.Number.Arctangent
import Striker.Number.Binary
import Striker.Number.Decimal
import Striker.Number.Notation
import Striker.Number.Numeral
import Striker.Number.Root
import Striker.Proofs.Board.Accesses
import Striker.Proofs.CommandLine.Outcome
import Striker.Proofs.Datum.Reading
import Striker.Proofs.Datum.Slots
import Striker.Proofs.Json.Grammar
import Striker.Proofs.Json.Objects
import Striker.Proofs.Json.Reading
import Striker.Proofs.Json.Spelling
import Striker.Proofs.Motion.Reports
import Striker.Proofs.Motion.Stages
import Striker.Proofs.Number.Order
import Striker.Proofs.Number.Spelling
import Striker.Proofs.Runner.Accounts
import Striker.Proofs.Runner.Activation
import Striker.Proofs.Runner.Events
import Striker.Proofs.Session.Basic
import Striker.Proofs.Session.Credit
import Striker.Proofs.Session.Deadlock
import Striker.Proofs.Session.Pace
import Striker.Proofs.Session.Safety
import Striker.Proofs.Settings.Overrides
import Striker.Proofs.Settings.Partial
import Striker.Proofs.Settings.RoundTrip
import Striker.Proofs.Simulation.Counters
import Striker.Proofs.Simulation.Dropout
import Striker.Proofs.Simulation.Frames
import Striker.Proofs.Simulation.Reports
import Striker.Proofs.Simulation.Schedule
import Striker.Proofs.Task.Calls
import Striker.Proofs.Task.Handshake
import Striker.Proofs.Task.History
import Striker.Proofs.Task.Interference
import Striker.Proofs.Task.Tick
import Striker.Proofs.Task.Warnings
import Striker.Proofs.Trace.Lines
import Striker.Proofs.Trace.Lossless
import Striker.Proofs.Trace.Totals
import Striker.Proofs.Yaml.Reading
import Striker.Proofs.Yaml.Scanning
import Striker.Random.Draw
import Striker.Random.Stream
import Striker.Request
import Striker.Runner
import Striker.Settings.Basic
import Striker.Settings.Loading
import Striker.Settings.Overrides
import Striker.Sighting
import Striker.Simulation
import Striker.Task.Alternate
import Striker.Task.Basic
import Striker.Task.Handshake
import Striker.Task.State
import Striker.Text.Blank
import Striker.Text.Hidden
import Striker.Text.Quoted
import Striker.Text.Term
import Striker.Text.Utf8
import Striker.Trace.Log
import Striker.Trace.Summary
import Striker.Yaml.Block
import Striker.Yaml.Cursor
import Striker.Yaml.Document
import Striker.Yaml.Gap
import Striker.Yaml.Input
import Striker.Yaml.Plain
import Striker.Yaml.Quoted
import Striker.Yaml.Scalar
import Striker.Yaml.Scan
import Striker.Yaml.Text
import Striker.Yaml.Token
import Striker.Proofs.CommandLine.Console
