import FaceAnnotator.Frame.Printing
import FaceAnnotator.Recording.Device
import FaceAnnotator.Recording.Fault
import FaceAnnotator.Text.Utf8
/-!
# FaceAnnotator.Recording.LineWriter

**Writing a recording that has a frame on every line.**

A frame goes to the device in the pieces of its JSON text, and a line feed after it. A frame that is
refused half-way leaves its first bytes behind. After it was closed a writer takes no more frames;
closing it again does nothing.
-/

namespace FaceAnnotator

/-- A writer of recordings over a device. -/
structure LineWriter (δ : Type) where
  /-- Whether the writer takes frames. -/
  isOpen : Bool := true
  /-- The state of the device. -/
  device : δ

/-- The chunks in which a frame is stored. -/
def Frame.chunks (f : Frame) : List (List UInt8) := f.pieces.map Text.encode

/-- The byte that ends a line. -/
def lineEnd : List UInt8 := Text.encode ['\n']

namespace LineWriter

variable {m : Type → Type} [Monad m] {δ : Type}

/-- Writes a frame on a line of its own. -/
def write (d : Device m δ) (w : LineWriter δ) (f : Frame) :
    m (Except RecordingFault Unit × LineWriter δ) := do
  if w.isOpen then
    match ← d.writeAll w.device f.chunks with
    | (.error refusal, state) => pure (.error (.unstored f.index refusal.cause), ⟨true, state⟩)
    | (.ok _, state) =>
      match ← d.write state lineEnd with
      | (.error refusal, state) => pure (.error (.unwritable refusal.cause), ⟨true, state⟩)
      | (.ok _, state) => pure (.ok (), ⟨true, state⟩)
  else pure (.error .closed, w)

/-- Lets the device go without closing the writer first. -/
def abandon (d : Device m δ) (w : LineWriter δ) : m (LineWriter δ) := do
  if w.isOpen then
    let state ← d.release w.device
    pure ⟨false, state⟩
  else pure w

/-- Closes the writer. The device is let go even if it cannot be flushed. -/
def close (d : Device m δ) (w : LineWriter δ) :
    m (Except RecordingFault Unit × LineWriter δ) := do
  if w.isOpen then
    let (outcome, state) ← d.flush w.device
    let state ← d.release state
    match outcome with
    | .error cause => pure (.error (.unwritable cause), ⟨false, state⟩)
    | .ok _ => pure (.ok (), ⟨false, state⟩)
  else pure (.ok (), w)

end LineWriter

end FaceAnnotator
