import FaceAnnotator.FileSystem.Basic
/-!
# FaceAnnotator.FileSystem.Resolution

**Following a path through the tree.**

`descend` goes from directory to directory until the path ends or something else than a directory is
in the way. `resolve` deals with links: the path that a link stands for takes the place of the link,
and the walk goes on from the directory that the link is in, or from the root. After forty links the
walk is given up, which also ends walks through links that lead back to themselves.

`..` goes up from the place that has been reached, so behind a link to a directory it does not lead
back to where the link is.
-/

namespace FaceAnnotator.FileSystem

/-- What a walk ran into. -/
inductive Stop where
  /-- The path ended in a directory. -/
  | directory (location : Location)
  /-- A file, and the segments that were still to go. -/
  | file (location : Location) (rest : List String)
  /-- A name that a directory does not have. -/
  | missing (parent : Location) (name : String) (rest : List String)
  /-- A link in a directory, and the path that it stands for. -/
  | link (parent : Location) (target : String) (rest : List String)
deriving DecidableEq, Repr

/-- Goes from a directory along some segments as far as there are directories. -/
def descend (fs : FileSystem) : Location → List String → Stop
  | location, [] => .directory location
  | location, segment :: rest =>
    if segment = "." then descend fs location rest
    else if segment = ".." then descend fs location.dropLast rest
    else
      match fs.find? (location ++ [segment]) with
      | some .directory => descend fs (location ++ [segment]) rest
      | some (.file _) => .file (location ++ [segment]) rest
      | some (.link target) => .link location target rest
      | none => .missing location segment rest

/-- What a path leads to. -/
inductive Target where
  | directory (location : Location)
  | file (location : Location)
  /-- Nothing yet: a name that could be added to a directory. -/
  | vacant (parent : Location) (name : String)
deriving DecidableEq, Repr

namespace Target

/-- The location of a target, be it there or not. -/
def location : Target → Location
  | directory location => location
  | file location => location
  | vacant parent name => parent ++ [name]

end Target

/-- What a path is followed for. -/
inductive Purpose where
  /-- To look at what is there. -/
  | reading
  /-- To write a file, which need not be there. A path that ends in a slash names no file. -/
  | creating
deriving DecidableEq, Repr

/-- How many bytes a name may have. -/
def nameLimit : Nat := 255

/-- How many links one walk may lead through. -/
def maxLinks : Nat := 40

/-- Where the path of a link is followed from. -/
def linkOrigin (parent : Location) (target : Path) : Location :=
  if target.absolute then [] else parent

/-- Follows segments from a directory on, through at most the given number of links. `slash` tells
whether they must lead to a directory. -/
def follow (fs : FileSystem) (purpose : Purpose) :
    Nat → Location → List String → Bool → Except SystemError Target
  | links, origin, segments, slash =>
    match fs.descend origin segments with
    | .directory location => .ok (.directory location)
    | .file location rest =>
      if !rest.isEmpty then .error .notDirectory
      else if slash then
        .error (match purpose with | .reading => .notDirectory | .creating => .isDirectory)
      else .ok (.file location)
    | .missing parent name rest =>
      -- The slash is noticed before the name is looked up.
      if rest.isEmpty && slash && purpose = .creating then .error .isDirectory
      else if nameLimit < name.utf8ByteSize then .error .nameTooLong
      else if !rest.isEmpty || slash then .error .noEntry
      else .ok (.vacant parent name)
    | .link parent target rest =>
      -- The slash is noticed before the link is followed.
      if rest.isEmpty && slash && purpose = .creating then .error .isDirectory
      else
        match links with
        | 0 => .error .tooManyLinks
        | links + 1 =>
          let path : Path := ⟨target⟩
          -- A slash behind the target counts only where the target is the end of the walk.
          follow fs purpose links (linkOrigin parent path) (path.segments ++ rest)
            (if rest.isEmpty then slash || path.slash else slash)

/-- Where a path begins. -/
def origin (fs : FileSystem) (path : Path) : Location := if path.absolute then [] else fs.cwd

/-- Follows a path to its end, however long its text is. -/
def walk (fs : FileSystem) (purpose : Purpose) (path : Path) : Except SystemError Target :=
  if path.isCut then .error .unexpectedEnd
  else if path.isEmpty then .error .noEntry
  else fs.follow purpose maxLinks (fs.origin path) path.segments path.slash

/-- Follows a path to its end. A path that is too long is not looked at. -/
def resolve (fs : FileSystem) (purpose : Purpose) (path : Path) : Except SystemError Target :=
  if path.isOverlong && !path.isCut then .error .nameTooLong else fs.walk purpose path

/-- What of a tree can be asked for by its location. -/
def addressable (fs : FileSystem) : FileSystem :=
  { fs with entries := fs.entries.filter fun (location, _) => location.isAddressable }

/-- The location of what stands at a path; links are followed to their end. The path is taken apart
and followed name by name, so its own length does not matter. But each place on the way is asked for
by its location, and the way ends where that cannot be done. -/
def canonicalize (fs : FileSystem) (path : Path) : Except SystemError Location :=
  match fs.addressable.walk .reading path with
  | .error e => .error e
  | .ok (.vacant _ _) => .error .noEntry
  | .ok target => .ok target.location

/-- Whether something stands at a path. -/
def pathExists (fs : FileSystem) (path : Path) : Bool :=
  match fs.resolve .reading path with
  | .ok (.directory _) => true
  | .ok (.file _) => true
  | _ => false

/-- Whether a directory stands at a path. -/
def isDirectory (fs : FileSystem) (path : Path) : Bool :=
  match fs.resolve .reading path with
  | .ok (.directory _) => true
  | _ => false

end FaceAnnotator.FileSystem
