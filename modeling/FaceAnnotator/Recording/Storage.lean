import FaceAnnotator.Host.Basic
import FaceAnnotator.Recording.Fault
/-!
# FaceAnnotator.Recording.Storage

**Where recordings are stored**: in a file that is made for them, or on the console.

The directories on the way to a file are made if they are not there. A file that is there already is
emptied.
-/

namespace FaceAnnotator

variable {m : Type → Type} [Monad m] {φ : Type}

/-- Counts an error as success if there is a directory nevertheless. -/
def Host.unlessDirectory (h : Host m φ) (path : Path) (cause : SystemError) :
    m (Except SystemError Unit) := do
  if ← h.isDirectory path then pure (.ok ()) else pure (.error cause)

/-- Makes the first of some directories, each of which is in the next. The next ones are looked
after only if the first cannot be made without them. -/
def Host.makeDirectories (h : Host m φ) : List Path → m (Except SystemError Unit)
  | [] => pure (.ok ())
  | path :: above =>
    -- A path of nothing is the working directory, which is there.
    if path.isEmpty then pure (.ok ())
    else do
      match ← h.makeDirectory path with
      | .ok _ => pure (.ok ())
      | .error .noEntry =>
        -- Something on the way is missing: make it and come back.
        match ← h.makeDirectories above with
        | .error cause => pure (.error cause)
        | .ok _ =>
          match ← h.makeDirectory path with
          | .ok _ => pure (.ok ())
          | .error cause => h.unlessDirectory path cause
      | .error cause => h.unlessDirectory path cause

/-- Makes the directories on the way to what a path names. -/
def Host.makeParents (h : Host m φ) (path : Path) : m (Except SystemError Unit) :=
  h.makeDirectories path.ancestors

/-- Opens a new file for a recording. -/
def Host.createRecording (h : Host m φ) (path : String) : m (Except RecordingFault φ) := do
  let place : Path := ⟨path⟩
  match ← h.makeParents place with
  | .error cause => pure (.error (.uncreatable path cause))
  | .ok _ =>
    match ← h.createFile place with
    | .error cause => pure (.error (.uncreatable path cause))
    | .ok file => pure (.ok file)

/-- Where the output of the program goes. -/
inductive Output (φ : Type) where
  | console
  | file (handle : φ)

/-- The output as a device. -/
def Host.outputDevice (h : Host m φ) : Device m (Output φ) where
  write output bytes :=
    match output with
    | .console => do
      let outcome ← h.writeConsole bytes
      pure (outcome, .console)
    | .file handle => do
      let (outcome, handle) ← h.writeFile handle bytes
      pure (outcome, .file handle)
  flush output := pure (.ok (), output)
  release output := pure output

end FaceAnnotator
