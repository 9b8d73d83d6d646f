import FaceAnnotator.FileSystem.Operations
import FaceAnnotator.Host.Basic
/-!
# FaceAnnotator.Host.World

**A world in memory**: a tree of files, what was printed, what was reported, and a clock that moves
on whenever somebody looks at it. In such a world writing never fails.
-/

namespace FaceAnnotator

/-- All that the program can see or change. -/
structure World where
  /-- The tree of files. -/
  files : FileSystem := {}
  /-- What was written to the console. -/
  console : List UInt8 := []
  /-- What was reported, in order. -/
  notices : List Notice := []
  /-- The time, in nanoseconds. -/
  clock : Nat := 0

namespace World

/-- Looks at the files. -/
def look {α : Type} (see : FileSystem → α) : StateM World α := fun w => (see w.files, w)

/-- Does something to the files. -/
def change {α : Type} (act : FileSystem → α × FileSystem) : StateM World α := fun w =>
  let (a, files) := act w.files
  (a, { w with files := files })

/-- A world in memory as the surroundings of the program. -/
def host : Host (StateM World) FileSystem.Handle where
  workingDirectory := look fun fs => some fs.cwd
  canonicalize path := look fun fs => fs.canonicalize path
  pathExists path := look fun fs => fs.pathExists path
  isDirectory path := look fun fs => fs.isDirectory path
  contents path := look fun fs => fs.contents path
  makeDirectory path := change fun fs => fs.makeDirectory path
  createFile path := change fun fs => fs.createFile path
  writeFile handle bytes := change fun fs =>
    let (handle, fs) := fs.write handle bytes
    ((.ok (), handle), fs)
  writeConsole bytes := fun w => (.ok (), { w with console := w.console ++ bytes })
  report notice := fun w => ((), { w with notices := w.notices ++ [notice] })
  now := fun w => (w.clock, { w with clock := w.clock + 1 })

end World

end FaceAnnotator
