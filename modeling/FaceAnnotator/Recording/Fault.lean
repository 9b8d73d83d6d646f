import FaceAnnotator.FileSystem.Basic
import FaceAnnotator.Json.Fault
/-!
# FaceAnnotator.Recording.Fault

**What can go wrong with a recording**, and how it is put in words.
-/

namespace FaceAnnotator

/-- Why a recording could not be read or written. -/
inductive RecordingFault where
  /-- The file of the recording has no readable text. -/
  | unreadable (path : String) (cause : SystemError)
  /-- The file for a recording could not be made. -/
  | uncreatable (path : String) (cause : SystemError)
  /-- A line spells no frame. -/
  | badLine (number : Nat) (cause : Json.Complaint)
  /-- A frame could not be stored. -/
  | unstored (index : UInt64) (cause : SystemError)
  /-- What was stored could not be brought to an end. -/
  | unwritable (cause : SystemError)
  /-- No recording is open. -/
  | notOpen
  /-- The recording has been closed. -/
  | closed
deriving DecidableEq

/-- The text of a fault. -/
def RecordingFault.message : RecordingFault → String
  | unreadable path cause => s!"failed to read {path}: {cause.message}"
  | uncreatable path cause => s!"failed to create {path}: {cause.message}"
  | badLine number cause => s!"invalid frame on line {number}: {cause.message}"
  | unstored index cause => s!"failed to encode frame {index}: {cause.message}"
  | unwritable cause => s!"failed to write frames: {cause.message}"
  | notOpen => "reader is not open"
  | closed => "writer is closed"

end FaceAnnotator
