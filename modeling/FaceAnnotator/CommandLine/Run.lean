import FaceAnnotator.CommandLine.Filter
import FaceAnnotator.CommandLine.Paths
import FaceAnnotator.Pipeline.Session
import FaceAnnotator.Recording.Storage
/-!
# FaceAnnotator.CommandLine.Run

**The command: from its arguments to its exit code.**

First the arguments are read and the paths looked at; nothing is written before that has gone well.
Then the output is opened and one run goes over the input. A failure is told in one line, and the
exit code says of which kind it was.
-/

namespace FaceAnnotator.CommandLine

variable {m : Type → Type} [Monad m] {φ : Type}

/-- Why a command was not carried out. -/
inductive Failure where
  /-- The command makes no sense as it is. -/
  | objection (cause : Objection)
  /-- There is no place for the output. -/
  | storage (cause : RecordingFault)
  /-- The run failed. -/
  | run (cause : RunFault RecordingFault Undecodable)

/-- The text of a failure. -/
def Failure.message : Failure → String
  | objection cause => cause.message
  | storage cause => cause.message
  | run cause => cause.message RecordingFault.message Undecodable.message

/-- Opens the output. -/
def openOutput (h : Host m φ) : Option String → m (Except RecordingFault (Output φ))
  | none => pure (.ok .console)
  | some path => do
    let opened ← h.createRecording path
    pure (opened.map Output.file)

/-- The telemetry that a command asks for. -/
def telemetry (a : Arguments) : Telemetry :=
  if a.noSummary then (Telemetry.new a.progressEvery).withoutSummary else .new a.progressEvery

/-- What is logged after a run. -/
def closingRecords (a : Arguments) (stats : RunStats) : List Record :=
  (if stats.stoppedEarly then
    [.warn .command s!"Pipeline stopped early after {stats.frames} frames"]
  else []) ++
    [.info .command
      s!"Labeled {stats.labels} tensors across {stats.regions} faces in {stats.frames} frames"] ++
    a.output.toList.map fun path => .info .command s!"Output written to {path}"

/-- A run over the input into an output that is open. -/
def runInto (h : Host m φ) (log : Record → m Unit) (a : Arguments) (output : Output φ) :
    m (Except (RunFault RecordingFault Undecodable) RunStats) := do
  let device := buffered h.outputDevice
  let started ← h.now
  let parts := Session.pipeline (fun path => h.contents ⟨path⟩) device log h.now started
  let (outcome, session) ←
    (parts.run a.input).run { writer := ⟨true, ⟨[], output⟩⟩, telemetry := telemetry a }
  let _ ← session.writer.abandon device
  pure outcome

/-- Carries out a command. -/
def execute (h : Host m φ) (log : Record → m Unit) (a : Arguments) : m (Except Failure Unit) := do
  match ← validate h a with
  | .error cause => pure (.error (.objection cause))
  | .ok _ =>
    match ← openOutput h a.output with
    | .error cause => pure (.error (.storage cause))
    | .ok output =>
      match ← runInto h log a output with
      | .error cause => pure (.error (.run cause))
      | .ok stats => do
        logAll log (closingRecords a stats)
        pure (.ok ())

/-- The filter that a text writes, and what is to be said about it. -/
def filterOf : Option String → Filter × List String
  | none => ({}, [])
  | some spec => Filter.parse spec

/-- Reports a record if the filter lets it through. -/
def logThrough (h : Host m φ) (f : Filter) (r : Record) : m Unit :=
  if f.shows r then h.report (.record r) else pure ()

/-- Reports some texts in order. -/
def reportAll (h : Host m φ) : List String → m Unit
  | [] => pure ()
  | text :: texts => do
    h.report (.text text)
    reportAll h texts

/-- The whole command, given what the log is filtered by. The result is the exit code: 0 if all went
well, 1 for a failure, 2 if the arguments make no command. -/
def main (h : Host m φ) (filter : Option String) (arguments : List String) : m UInt32 := do
  let (f, warnings) := filterOf filter
  reportAll h warnings
  match Arguments.parse arguments with
  | .error .help => do
    let _ ← h.writeConsole (Text.encode helpText.toList)
    pure 0
  | .error fault => do
    h.report (.text fault.message)
    pure 2
  | .ok a =>
    match ← execute h (logThrough h f) a with
    | .error failure => do
      h.report (.text s!"Error: {failure.message}")
      pure 1
    | .ok _ => pure 0

end FaceAnnotator.CommandLine
