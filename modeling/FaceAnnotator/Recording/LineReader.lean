import FaceAnnotator.Frame.Reading
import FaceAnnotator.Log
import FaceAnnotator.Recording.Fault
import FaceAnnotator.Text.Blank
import FaceAnnotator.Text.Lines
import FaceAnnotator.Text.Utf8
/-!
# FaceAnnotator.Recording.LineReader

**Reading a recording that has a frame on every line.**

The lines are taken when the recording is opened, so their number is known before the first of them
is read as a frame, and whatever becomes of the file later does not matter. Blank lines hold no
frame and still count for the numbers of the lines behind them. Each line is read on its own: a bad
one spoils no other.
-/

namespace FaceAnnotator

/-- The lines of a text with their numbers, from a number on. -/
def numberedFrom : Nat → List (List Char) → List (Nat × List Char)
  | _, [] => []
  | number, line :: lines => (number, line) :: numberedFrom (number + 1) lines

/-- The lines that hold frames, with their numbers. -/
def frameLines (text : List Char) : List (Nat × List Char) :=
  (numberedFrom 1 (Text.lines text)).filter fun (_, line) => !line.all Text.isBlank

/-- A reader of recordings: the lines of the recording that is open. -/
structure LineReader where
  /-- The lines that hold frames, with their numbers; none if no recording is open. -/
  lines : Option (List (Nat × List Char)) := none
deriving DecidableEq

/-- What is known about a recording before its frames are read. -/
structure Overview where
  /-- How many lines hold frames. -/
  frames : Nat
  /-- Where the recording comes from. -/
  path : String
deriving DecidableEq, Repr

namespace LineReader

/-- The text of a file, given its bytes. -/
def textOf : Except SystemError (List UInt8) → Except SystemError (List Char)
  | .error cause => .error cause
  | .ok bytes =>
    match Text.decode bytes with
    | some text => .ok text
    | none => .error .notText

/-- The record of a recording that was opened. -/
def openedRecord (path : String) (frames : Nat) : Record :=
  .debug .recording s!"Opened {path} ({frames} frames)"

/-- Opens a recording, given what is in its file. If there is no text in it, the recording that was
open before stays open. -/
def connect (r : LineReader) (path : String) (found : Except SystemError (List UInt8)) :
    LineReader × Except RecordingFault Overview × List Record :=
  match textOf found with
  | .error cause => (r, .error (.unreadable path cause), [])
  | .ok text =>
    let lines := frameLines text
    (⟨some lines⟩, .ok ⟨lines.length, path⟩, [openedRecord path lines.length])

/-- The frame on a line. -/
def readLine (number : Nat) (line : List Char) : Except RecordingFault Frame :=
  match Frame.ofJson line with
  | .ok f => .ok f
  | .error cause => .error (.badLine number cause)

/-- What is to be read from the recording that is open, a line at a time. -/
def items (r : LineReader) : List (Unit → Except RecordingFault Frame) :=
  match r.lines with
  | none => [fun _ => .error .notOpen]
  | some lines => lines.map fun (number, line) _ => readLine number line

/-- The frames of the recording that is open, or the faults in their place. -/
def frames (r : LineReader) : List (Except RecordingFault Frame) := r.items.map fun read => read ()

/-- The reader without its recording. -/
def close (_ : LineReader) : LineReader := {}

end LineReader

end FaceAnnotator
