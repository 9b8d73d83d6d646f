import FaceAnnotator.Log
import FaceAnnotator.Numeric.Fixed
import FaceAnnotator.Telemetry.Event
import FaceAnnotator.Telemetry.Series
/-!
# FaceAnnotator.Telemetry.Basic

**Telemetry: an observer that keeps totals and logs progress.**

Timings and metrics go into two tallies and are logged only in the summary at the end. Progress is
logged for every so many frames and for the last frame. The summary shows a line for each name, so
it depends on nothing but the two tallies, the last progress and the time that has passed.
-/

namespace FaceAnnotator

open Numeric

/-- What has been observed of a run. -/
structure Telemetry where
  /-- Progress is logged when this divides the number of frames. -/
  every : Nat
  /-- What the stages took, in milliseconds. -/
  timings : Tally := {}
  /-- The counts of the frames. -/
  metrics : Tally := {}
  /-- How many frames are done. -/
  frames : Nat := 0
  /-- Whether there is to be a summary at the end. -/
  reportsSummary : Bool := true

namespace Telemetry

/-- How often progress is logged if nobody says so. -/
def defaultEvery : Nat := 10

/-- An observer before its run. A step of no frames counts as one of a single frame. -/
def new (every : Nat := defaultEvery) : Telemetry where
  every := max every 1

/-- The observer without a summary at the end. -/
def withoutSummary (t : Telemetry) : Telemetry := { t with reportsSummary := false }

/-! ### The summary -/

/-- The share of a total, in percent. -/
def percentage (current total : Nat) : Double :=
  ((Binary.ofNat current).div (Binary.ofNat total)).mul (Binary.ofNat 100)

/-- The first line of a summary. -/
def headline (frames : Nat) (seconds : Double) : String :=
  s!"Labeling summary ({frames} frames, {String.ofList (seconds.fixed 1)}s total):"

/-- The line of a stage. Its name fills a column of eight characters. -/
def stageLine (stage : String) (s : Series) : String :=
  String.ofList <|
    [' ', ' '] ++ padRight 8 stage.toList ++ ": avg ".toList ++ padLeft 6 (s.mean.fixed 2) ++
      "ms  total ".toList ++ padLeft 7 (s.total.fixed 1) ++ "ms".toList

/-- The line of a metric. -/
def metricLine (name : String) (s : Series) : String :=
  s!"  {name}: avg {String.ofList (s.mean.fixed 1)}  total {String.ofList (s.total.fixed 0)}"

/-- The last line of a summary. -/
def throughputLine (frames : Nat) (seconds : Double) : String :=
  s!"  Throughput: {String.ofList (((Binary.ofNat frames).div seconds).fixed 1)} fps"

/-- The summary after some milliseconds; none if there is nothing to sum up. -/
def summary (t : Telemetry) (elapsed : Double) : Option String :=
  if t.timings.isEmpty && t.metrics.isEmpty then none
  else
    let seconds := elapsed.div (Binary.ofNat 1000)
    some <| String.intercalate "\n" <|
      headline t.frames seconds ::
        t.timings.entries.map (fun (stage, series) => stageLine stage series) ++
        t.metrics.entries.map (fun (name, series) => metricLine name series) ++
        -- A speed needs both frames and time.
        if 0 < t.frames && (Binary.zero false).less elapsed then [throughputLine t.frames seconds]
        else []

/-! ### Observing -/

/-- The record of some progress, if it is worth one. -/
def progressRecord (t : Telemetry) (current total : Nat) : List Record :=
  if current % t.every = 0 || current = total then
    [.info .pipeline <|
      if 0 < total then
        s!"Labeled {current}/{total} frames ({String.ofList ((percentage current total).fixed 1)}%)"
      else s!"Labeled {current} frames"]
  else []

/-- The record of the summary, if there is to be one. -/
def summaryRecord (t : Telemetry) (elapsed : Double) : List Record :=
  if t.reportsSummary then
    (t.summary elapsed).toList.map fun text => .info .pipeline ("\n\n" ++ text)
  else []

/-- Takes note of an event, some milliseconds after the start. -/
def observe (t : Telemetry) (elapsed : Double) : Event → Telemetry × List Record
  | .info message => (t, [.info .pipeline message])
  | .timing stage milliseconds => ({ t with timings := t.timings.record stage milliseconds }, [])
  | .metric name value => ({ t with metrics := t.metrics.record name value }, [])
  | .progress current total => ({ t with frames := current }, t.progressRecord current total)
  | .finished => (t, t.summaryRecord elapsed)

end Telemetry

end FaceAnnotator
