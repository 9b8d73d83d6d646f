import FaceAnnotator.Cell
import FaceAnnotator.CommandLine.Arguments
import FaceAnnotator.CommandLine.Filter
import FaceAnnotator.CommandLine.Paths
import FaceAnnotator.CommandLine.Run
import FaceAnnotator.FileSystem.Basic
import FaceAnnotator.FileSystem.Operations
import FaceAnnotator.FileSystem.Path
import FaceAnnotator.FileSystem.Resolution
import FaceAnnotator.Frame.Basic
import FaceAnnotator.Frame.Caption
import FaceAnnotator.Frame.Printing
import FaceAnnotator.Frame.Reading
import FaceAnnotator.Host.Basic
import FaceAnnotator.Host.World
import FaceAnnotator.Json.Fault
import FaceAnnotator.Json.Literal
import FaceAnnotator.Json.Number
import FaceAnnotator.Json.Printing
import FaceAnnotator.Json.Scan
import FaceAnnotator.Json.Schema
import FaceAnnotator.Json.Skip
import FaceAnnotator.Json.Value
import FaceAnnotator.Label.Basic
import FaceAnnotator.Label.Decoding
import FaceAnnotator.Label.Kind
import FaceAnnotator.Labeling
import FaceAnnotator.Log
import FaceAnnotator.Main
import FaceAnnotator.Numeric.Binary
import FaceAnnotator.Numeric.Fixed
import FaceAnnotator.Numeric.Notation
import FaceAnnotator.Numeric.Quotient
import FaceAnnotator.Numeric.Shortest
import FaceAnnotator.Pattern.Basic
import FaceAnnotator.Pattern.CharSet
import FaceAnnotator.Pattern.Compiled
import FaceAnnotator.Pattern.Cursor
import FaceAnnotator.Pattern.Escape
import FaceAnnotator.Pattern.Fault
import FaceAnnotator.Pattern.Form
import FaceAnnotator.Pattern.Matching
import FaceAnnotator.Pattern.Meaning
import FaceAnnotator.Pattern.Reading
import FaceAnnotator.Pattern.Room
import FaceAnnotator.Pattern.SetReading
import FaceAnnotator.Pipeline.Basic
import FaceAnnotator.Pipeline.Parts
import FaceAnnotator.Pipeline.Run
import FaceAnnotator.Pipeline.Session
import FaceAnnotator.Proofs.CommandLine.Footprint
import FaceAnnotator.Proofs.CommandLine.NormalForm
import FaceAnnotator.Proofs.CommandLine.Paths
import FaceAnnotator.Proofs.CommandLine.Prediction
import FaceAnnotator.Proofs.CommandLine.Safety
import FaceAnnotator.Proofs.FileSystem.Ancestors
import FaceAnnotator.Proofs.FileSystem.Arrival
import FaceAnnotator.Proofs.FileSystem.Canonical
import FaceAnnotator.Proofs.FileSystem.Creation
import FaceAnnotator.Proofs.FileSystem.Footprint
import FaceAnnotator.Proofs.FileSystem.Growth
import FaceAnnotator.Proofs.FileSystem.Path
import FaceAnnotator.Proofs.FileSystem.Persistence
import FaceAnnotator.Proofs.FileSystem.Reach
import FaceAnnotator.Proofs.Frame.Fidelity
import FaceAnnotator.Proofs.Frame.Line
import FaceAnnotator.Proofs.Frame.Presentation
import FaceAnnotator.Proofs.Frame.RoundTrip
import FaceAnnotator.Proofs.Json.Answer
import FaceAnnotator.Proofs.Json.Continuation.Skip
import FaceAnnotator.Proofs.Json.Continuation.Token
import FaceAnnotator.Proofs.Json.Continuation.Value
import FaceAnnotator.Proofs.Json.Data
import FaceAnnotator.Proofs.Json.InPlace
import FaceAnnotator.Proofs.Json.Literal
import FaceAnnotator.Proofs.Json.Number
import FaceAnnotator.Proofs.Json.Record
import FaceAnnotator.Proofs.Label.Age
import FaceAnnotator.Proofs.Label.Emotion
import FaceAnnotator.Proofs.Labeling.Assignment
import FaceAnnotator.Proofs.Labeling.Captions
import FaceAnnotator.Proofs.Labeling.History
import FaceAnnotator.Proofs.Labeling.Independence
import FaceAnnotator.Proofs.Labeling.Pointwise
import FaceAnnotator.Proofs.Labeling.Relabel
import FaceAnnotator.Proofs.Labeling.Survey
import FaceAnnotator.Proofs.Numeric.Decimal
import FaceAnnotator.Proofs.Numeric.DoubleRounding
import FaceAnnotator.Proofs.Numeric.Exact
import FaceAnnotator.Proofs.Numeric.Magnitude
import FaceAnnotator.Proofs.Numeric.Representable
import FaceAnnotator.Proofs.Numeric.Rounding
import FaceAnnotator.Proofs.Numeric.Shortest
import FaceAnnotator.Proofs.Pipeline.Handover
import FaceAnnotator.Proofs.Pipeline.Invariant
import FaceAnnotator.Proofs.Pipeline.Protocol
import FaceAnnotator.Proofs.Pipeline.Trace
import FaceAnnotator.Proofs.Recording.Calls
import FaceAnnotator.Proofs.Recording.Confined
import FaceAnnotator.Proofs.Recording.Framing
import FaceAnnotator.Proofs.Recording.History
import FaceAnnotator.Proofs.Recording.Memory
import FaceAnnotator.Proofs.Recording.Output
import FaceAnnotator.Proofs.Recording.Storage
import FaceAnnotator.Proofs.Session.Invariant
import FaceAnnotator.Proofs.Session.Parts
import FaceAnnotator.Proofs.Session.Progress
import FaceAnnotator.Proofs.Session.Refinement
import FaceAnnotator.Proofs.Session.Repetition
import FaceAnnotator.Proofs.Session.Rerun
import FaceAnnotator.Proofs.Telemetry.Accounting
import FaceAnnotator.Proofs.Telemetry.ByName
import FaceAnnotator.Proofs.Text.Lines
import FaceAnnotator.Proofs.Text.Numbering
import FaceAnnotator.Proofs.Text.Trim
import FaceAnnotator.Proofs.Text.Utf8
import FaceAnnotator.Proofs.Triple
import FaceAnnotator.Recording.Device
import FaceAnnotator.Recording.Fault
import FaceAnnotator.Recording.LineReader
import FaceAnnotator.Recording.LineWriter
import FaceAnnotator.Recording.Storage
import FaceAnnotator.Telemetry.Basic
import FaceAnnotator.Telemetry.Event
import FaceAnnotator.Telemetry.Series
import FaceAnnotator.Text.Blank
import FaceAnnotator.Text.Letter
import FaceAnnotator.Text.Lines
import FaceAnnotator.Text.Printable
import FaceAnnotator.Text.Quoted
import FaceAnnotator.Text.Split
import FaceAnnotator.Text.Terminal
import FaceAnnotator.Text.Utf8
