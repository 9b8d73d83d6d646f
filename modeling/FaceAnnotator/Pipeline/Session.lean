import FaceAnnotator.Pipeline.Parts
/-!
# FaceAnnotator.Pipeline.Session

**A pipeline and all that it remembers.**

A `Session` holds the states of a reader, an annotator, a writer and telemetry, and
`Session.pipeline` is the pipeline over them: lines of JSON in, lines of JSON out, and a
label wherever there can be one. The session outlives a run, so a second run finds what the
first one left.
-/

namespace FaceAnnotator

variable {m : Type → Type} [Monad m] {δ : Type}

/-- The states of all parts. -/
structure Session (δ : Type) where
  reader : LineReader := {}
  annotator : Annotator := {}
  writer : LineWriter δ
  telemetry : Telemetry := .new

namespace Session

variable (δ)

/-- Where the reader is kept. -/
def readerCell : Cell (StateT (Session δ) m) LineReader :=
  .ofState Session.reader fun r s => { s with reader := r }

/-- Where the annotator is kept. -/
def annotatorCell : Cell (StateT (Session δ) m) Annotator :=
  .ofState Session.annotator fun a s => { s with annotator := a }

/-- Where the writer is kept. -/
def writerCell : Cell (StateT (Session δ) m) (LineWriter δ) :=
  .ofState Session.writer fun w s => { s with writer := w }

/-- Where the telemetry is kept. -/
def telemetryCell : Cell (StateT (Session δ) m) Telemetry :=
  .ofState Session.telemetry fun t s => { s with telemetry := t }

variable {δ}

/-- An operation that leaves the session alone. -/
def lift {α : Type} (x : m α) : StateT (Session δ) m α := fun s => do
  let a ← x
  pure (a, s)

/-- A device whose state is in the session. -/
def liftDevice (d : Device m δ) : Device (StateT (Session δ) m) δ where
  write state bytes := lift (d.write state bytes)
  flush state := lift (d.flush state)
  release state := lift (d.release state)

/-- The pipeline over a session, given how files are read, where bytes go, what is logged, the
clock, and when it started. -/
def pipeline (readFile : String → m (Except SystemError (List UInt8))) (d : Device m δ)
    (log : Record → m Unit) (now : m Nat) (started : Nat) :
    Pipeline (StateT (Session δ) m) RecordingFault Undecodable where
  source := LineReader.source (readerCell δ) (fun path => lift (readFile path))
    fun record => lift (log record)
  processor := Annotator.processor (annotatorCell δ) fun record => lift (log record)
  sink := LineWriter.sink (writerCell δ) (liftDevice d)
  observe := Telemetry.observer (telemetryCell δ)
    (do
      let time ← lift now
      pure (Pipeline.milliseconds (time - started)))
    fun record => lift (log record)
  now := lift now

end Session

end FaceAnnotator
