import FaceAnnotator.Pipeline.Basic
/-!
# FaceAnnotator.Pipeline.Run

**A run from the first frame to the last.**

Frames go through one at a time: a frame is written before the next one is read. A *round* takes one
frame all the way; the first operation that fails ends it and the run. A processor may also end the
run without any failure, and then the frame that it did so at is still written.

Whatever happens in the rounds, afterwards source and sink are closed, in this order. A fault of the
rounds hides one of the closing, and only a run without faults is told to be finished.
-/

namespace FaceAnnotator.Pipeline

open Numeric

variable {m : Type → Type} [Monad m] {ε π : Type}

/-- How many nanoseconds a second has. -/
def nanosecondsPerSecond : Nat := 1000000000

/-- Nanoseconds in seconds: the whole ones, and what is left as a part of one. -/
def seconds (nanoseconds : Nat) : Double :=
  (Binary.ofNat (nanoseconds / nanosecondsPerSecond)).add
    ((Binary.ofNat (nanoseconds % nanosecondsPerSecond)).div (Binary.ofNat nanosecondsPerSecond))

/-- Nanoseconds in milliseconds, by way of seconds: each step is rounded. -/
def milliseconds (nanoseconds : Nat) : Double := (seconds nanoseconds).mul (Binary.ofNat 1000)

/-- Tells how long a stage took that began at the given time. -/
def stageDone (p : Pipeline m ε π) (stage : String) (start : Nat) : m Unit := do
  let now ← p.now
  p.observe (.timing stage (milliseconds (now - start)))

/-- Tells what a written frame brought. -/
def frameDone (p : Pipeline m ε π) (total : Nat) (stats : RunStats) (f : Frame) (labels : Nat) :
    m Unit := do
  p.observe (.metric "regions" (Binary.ofNat f.regions.length))
  p.observe (.metric "labels" (Binary.ofNat labels))
  p.observe (.progress stats.frames total)

/-- One frame from the source to the sink, given the counts before it. -/
def round (p : Pipeline m ε π) (total : Nat) (stats : RunStats) (item : m (Except ε Frame)) :
    m (Except (RunFault ε π) RunStats) := do
  let start ← p.now
  match ← item with
  | .error cause => pure (.error (.transfer cause))
  | .ok f =>
    p.stageDone "read" start
    let start ← p.now
    let processed ← p.processor.process f
    match processed.outcome with
    | .error cause => pure (.error (.processing processed.frame.index cause))
    | .ok goOn =>
      p.stageDone "label" start
      let start ← p.now
      match ← p.sink.write processed.frame with
      | .error cause => pure (.error (.transfer cause))
      | .ok _ =>
        p.stageDone "write" start
        let labels ← p.processor.labelCount
        let stats := stats.add processed.frame labels
        p.frameDone total stats processed.frame labels
        if goOn then pure (.ok stats)
        else
          -- The frame has been written and counted all the same.
          p.observe (.info s!"Processor stopped the pipeline at frame {processed.frame.index}")
          pure (.ok { stats with stoppedEarly := true })

/-- All frames up to the last, to the first fault, or to the frame that ends the run. -/
def rounds (p : Pipeline m ε π) (total : Nat) (finish : m Unit) :
    RunStats → List (m (Except ε Frame)) → m (Except (RunFault ε π) RunStats)
  | stats, [] => do
    finish
    pure (.ok stats)
  | stats, item :: items => do
    match ← p.round total stats item with
    | .error fault => pure (.error fault)
    | .ok stats =>
      if stats.stoppedEarly then pure (.ok stats) else rounds p total finish stats items

/-- What a run comes to, given what its rounds and its closing came to. -/
def verdict (outcome : Except (RunFault ε π) RunStats) (closed : Except ε Unit) :
    Except (RunFault ε π) RunStats :=
  match outcome, closed with
  | .error fault, _ => .error fault
  | .ok _, .error cause => .error (.transfer cause)
  | .ok stats, .ok _ => .ok stats

/-- A run over what a path names. -/
def run (p : Pipeline m ε π) (path : String) : m (Except (RunFault ε π) RunStats) := do
  match ← p.source.connect path with
  | .error cause => pure (.error (.transfer cause))
  | .ok total =>
    p.observe (.info s!"Labeling {total} frames from {path}")
    let feed ← p.source.frames
    let outcome ← p.rounds total feed.finish {} feed.items
    p.source.close
    let closed ← p.sink.close
    match verdict outcome closed with
    | .error fault => pure (.error fault)
    | .ok stats => do
      p.observe .finished
      pure (.ok stats)

end FaceAnnotator.Pipeline
