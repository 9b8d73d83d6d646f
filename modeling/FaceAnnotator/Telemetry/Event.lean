import FaceAnnotator.Numeric.Binary
/-!
# FaceAnnotator.Telemetry.Event

**What a run tells while it goes on.** An `Event` is told to whoever observes the run; what becomes
of it is up to the observer.
-/

namespace FaceAnnotator

open Numeric

/-- Something that an observer of a run is told. -/
inductive Event where
  /-- A message in words. -/
  | info (message : String)
  /-- How many milliseconds a stage took for one frame. -/
  | timing (stage : String) (milliseconds : Double)
  /-- A count that belongs to one frame. -/
  | metric (name : String) (value : Double)
  /-- How many frames are done, out of how many. -/
  | progress (current total : Nat)
  /-- The run has come to a good end. -/
  | finished
deriving DecidableEq

end FaceAnnotator
