import FaceAnnotator.Labeling
import FaceAnnotator.Telemetry.Event
/-!
# FaceAnnotator.Pipeline.Basic

**The parts of a pipeline.**

A `Pipeline` takes frames from a `Source`, has each changed by a `Processor`, and gives it to a
`Sink`. Meanwhile an observer is told how it goes. The parts are operations in some monad, and
nothing is known about them but these operations: any of them may fail at any time.
-/

namespace FaceAnnotator

/-- What a source has to give, before anybody asks for it. -/
structure Feed (m : Type → Type) (ε : Type) where
  /-- What is done to get the items, one after the other. -/
  items : List (m (Except ε Frame))
  /-- What is done when somebody asks for one more. -/
  finish : m Unit

/-- Where frames come from. -/
structure Source (m : Type → Type) (ε : Type) where
  /-- Connects to what a path names, and tells how many items it has. -/
  connect : String → m (Except ε Nat)
  /-- The items in order. -/
  frames : m (Feed m ε)
  /-- Lets go of what the path named. -/
  close : m Unit

/-- What is done to frames. -/
structure Processor (m : Type → Type) (π : Type) where
  /-- Changes a frame, and tells whether to go on. -/
  process : Frame → m (Processed π)
  /-- How many labels the last frame got. -/
  labelCount : m Nat

/-- Where frames go. -/
structure Sink (m : Type → Type) (ε : Type) where
  /-- Takes a frame. -/
  write : Frame → m (Except ε Unit)
  /-- Ends the taking of frames. -/
  close : m (Except ε Unit)

/-- All that a run needs. -/
structure Pipeline (m : Type → Type) (ε π : Type) where
  source : Source m ε
  processor : Processor m π
  sink : Sink m ε
  /-- Whom to tell how the run goes. -/
  observe : Event → m Unit
  /-- The time, in nanoseconds. -/
  now : m Nat

/-- What a run has done. -/
structure RunStats where
  /-- How many frames were written. -/
  frames : Nat := 0
  /-- How many regions they have. -/
  regions : Nat := 0
  /-- How many labels they got. -/
  labels : Nat := 0
  /-- Whether the processor put an end to the run. -/
  stoppedEarly : Bool := false
deriving DecidableEq, Repr

/-- The counts with one more frame. -/
def RunStats.add (s : RunStats) (f : Frame) (labels : Nat) : RunStats :=
  { s with
    frames := s.frames + 1
    regions := s.regions + f.regions.length
    labels := s.labels + labels }

/-- Why a run failed. -/
inductive RunFault (ε π : Type) where
  /-- Getting a frame or giving one away failed. -/
  | transfer (cause : ε)
  /-- A frame could not be processed. -/
  | processing (index : UInt64) (cause : π)
deriving DecidableEq

/-- The text of a fault, given the texts of its causes. -/
def RunFault.message {ε π : Type} (transferText : ε → String) (processingText : π → String) :
    RunFault ε π → String
  | transfer cause => transferText cause
  | processing index cause => s!"frame {index}: {processingText cause}"

end FaceAnnotator
