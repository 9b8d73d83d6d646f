import FaceAnnotator.FileSystem.Resolution
/-!
# FaceAnnotator.FileSystem.Operations

**What can be done to the tree**: reading a file, making a directory, creating a file, and writing
into one that is open.

Nothing here takes an entry away or turns one into another, so an open file can be known by its
location. A `Handle` writes at its own offset, whatever else happens to the file; a gap in front of
what is written reads as zeros.
-/

namespace FaceAnnotator.FileSystem

/-- The bytes of the file at a path. -/
def contents (fs : FileSystem) (path : Path) : Except SystemError (List UInt8) :=
  match fs.resolve .reading path with
  | .error e => .error e
  | .ok (.directory _) => .error .isDirectory
  | .ok (.vacant _ _) => .error .noEntry
  | .ok (.file location) =>
    match fs.find? location with
    | some (.file bytes) => .ok bytes
    | _ => .error .noEntry

/-- Makes a directory at a path whose parent is there. A link at the path is not followed. -/
def makeDirectory (fs : FileSystem) (path : Path) : Except SystemError Unit × FileSystem :=
  if path.isCut then (.error .unexpectedEnd, fs)
  else if path.isOverlong then (.error .nameTooLong, fs)
  else
    match path.segments.getLast? with
    | none => (.error (if path.absolute then .alreadyExists else .noEntry), fs)
    | some name =>
      match fs.follow .reading maxLinks (fs.origin path) path.segments.dropLast true with
      | .error e => (.error e, fs)
      | .ok (.directory parent) =>
        if name = "." || name = ".." || (fs.find? (parent ++ [name])).isSome then
          (.error .alreadyExists, fs)
        else if nameLimit < name.utf8ByteSize then (.error .nameTooLong, fs)
        else (.ok (), fs.put (parent ++ [name]) .directory)
      | .ok _ => (.error .notDirectory, fs)

/-- An open file: where it is, and where the next byte goes. -/
structure Handle where
  location : Location
  offset : Nat := 0
deriving DecidableEq, Repr

/-- Opens the file at a path for writing. An existing file is emptied, a missing one made. -/
def createFile (fs : FileSystem) (path : Path) : Except SystemError Handle × FileSystem :=
  match fs.resolve .creating path with
  | .error e => (.error e, fs)
  | .ok (.directory _) => (.error .isDirectory, fs)
  | .ok target => (.ok ⟨target.location, 0⟩, fs.put target.location (.file []))

/-- Bytes with some others written over them from an offset on. -/
def overwrite (bytes : List UInt8) (offset : Nat) (others : List UInt8) : List UInt8 :=
  bytes.take offset ++ List.replicate (offset - bytes.length) 0 ++ others ++
    bytes.drop (offset + others.length)

/-- Writes bytes to an open file, where the bytes before them ended. To write nothing leaves the
file alone, even if it is shorter by now. -/
def write (fs : FileSystem) (handle : Handle) (bytes : List UInt8) : Handle × FileSystem :=
  match fs.find? handle.location with
  | some (.file old) =>
    if bytes.isEmpty then (handle, fs)
    else
      (⟨handle.location, handle.offset + bytes.length⟩,
        fs.put handle.location (.file (overwrite old handle.offset bytes)))
  | _ => (handle, fs)

end FaceAnnotator.FileSystem
