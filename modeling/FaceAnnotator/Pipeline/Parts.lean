import FaceAnnotator.Cell
import FaceAnnotator.Pipeline.Run
import FaceAnnotator.Recording.LineReader
import FaceAnnotator.Recording.LineWriter
import FaceAnnotator.Telemetry.Basic
/-!
# FaceAnnotator.Pipeline.Parts

**Readers, annotators, writers and telemetry as parts of a pipeline.**

Each keeps its state in a cell. What they have to log goes to whoever is given for it.
-/

namespace FaceAnnotator

open Numeric

variable {m : Type → Type} [Monad m] {δ : Type}

/-- Logs some records in order. -/
def logAll (log : Record → m Unit) : List Record → m Unit
  | [] => pure ()
  | record :: records => do
    log record
    logAll log records

/-- A reader as a source, given how files are read. A line is read as a frame only when it is its
turn. -/
def LineReader.source (reader : Cell m LineReader)
    (readFile : String → m (Except SystemError (List UInt8))) (log : Record → m Unit) :
    Source m RecordingFault where
  connect path := do
    let found ← readFile path
    let r ← reader.get
    let (r, outcome, records) := r.connect path found
    reader.set r
    logAll log records
    pure (outcome.map Overview.frames)
  frames := do
    let r ← reader.get
    pure ⟨r.items.map fun read => read <$> (pure () : m Unit), pure ()⟩
  close := do
    let r ← reader.get
    reader.set r.close

/-- An annotator as a processor. -/
def Annotator.processor (annotator : Cell m Annotator) (log : Record → m Unit) :
    Processor m Undecodable where
  process f := do
    let a ← annotator.get
    let (a, processed) := a.process f
    annotator.set a
    logAll log f.survey.records
    pure processed
  labelCount := do
    let a ← annotator.get
    pure a.labelCount

/-- A writer as a sink. -/
def LineWriter.sink (writer : Cell m (LineWriter δ)) (d : Device m δ) : Sink m RecordingFault where
  write f := do
    let w ← writer.get
    let (outcome, w) ← w.write d f
    writer.set w
    pure outcome
  close := do
    let w ← writer.get
    let (outcome, w) ← w.close d
    writer.set w
    pure outcome

/-- Telemetry as an observer, given how many milliseconds have passed. -/
def Telemetry.observer (telemetry : Cell m Telemetry) (elapsed : m Double) (log : Record → m Unit)
    (e : Event) : m Unit := do
  let passed ← elapsed
  let t ← telemetry.get
  let (t, records) := t.observe passed e
  telemetry.set t
  logAll log records

end FaceAnnotator
