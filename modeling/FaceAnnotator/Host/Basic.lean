import FaceAnnotator.FileSystem.Path
import FaceAnnotator.Log
import FaceAnnotator.Recording.Device
/-!
# FaceAnnotator.Host.Basic

**What the program needs of its surroundings**: files, a console, somebody to tell things to,
and a clock.

Whatever the program does to the world it does through a `Host`. So one definition of the program
runs on a machine and on a world in memory (`FaceAnnotator.Host.World`).
-/

namespace FaceAnnotator

/-- The operations of the surroundings. `φ` is an open file. -/
structure Host (m : Type → Type) (φ : Type) where
  /-- Where relative paths begin, if that place can be named. -/
  workingDirectory : m (Option Location)
  /-- The location of what stands at a path. -/
  canonicalize : Path → m (Except SystemError Location)
  /-- Whether something stands at a path. -/
  pathExists : Path → m Bool
  /-- Whether a directory stands at a path. -/
  isDirectory : Path → m Bool
  /-- The bytes of a file. -/
  contents : Path → m (Except SystemError (List UInt8))
  /-- Makes a directory in one that is there. -/
  makeDirectory : Path → m (Except SystemError Unit)
  /-- Makes or empties a file and opens it. -/
  createFile : Path → m (Except SystemError φ)
  /-- Writes to an open file. -/
  writeFile : φ → List UInt8 → m (Except Refusal Unit × φ)
  /-- Writes to the console. -/
  writeConsole : List UInt8 → m (Except Refusal Unit)
  /-- Tells something to whoever runs the program. -/
  report : Notice → m Unit
  /-- The time, in nanoseconds. -/
  now : m Nat

end FaceAnnotator
