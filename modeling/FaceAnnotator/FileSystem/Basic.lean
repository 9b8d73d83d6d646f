import FaceAnnotator.FileSystem.Path
/-!
# FaceAnnotator.FileSystem.Basic

**A tree of directories, files and symbolic links**, as a process sees it.

The tree is kept flat: each entry stands at its `Location`. The root is always a directory and is
not listed. Where the process works is part of the value, because relative paths depend on it.
-/

namespace FaceAnnotator

/-- Why something could not be done with a file. -/
inductive SystemError where
  /-- There is nothing at the path. -/
  | noEntry
  /-- There is something at the path already. -/
  | alreadyExists
  /-- The path goes on behind something that is no directory. -/
  | notDirectory
  /-- A directory is at the path. -/
  | isDirectory
  /-- The path leads through too many links. -/
  | tooManyLinks
  /-- A name in the path is longer than a directory can hold, or the path is too long. -/
  | nameTooLong
  /-- A name in the path holds the character that ends all names. -/
  | unexpectedEnd
  /-- The bytes of a file spell no text. -/
  | notText
  /-- Any other cause, in its own words. -/
  | other (text : String)
deriving DecidableEq, Repr

/-- The text of a cause. -/
def SystemError.message : SystemError → String
  | noEntry => "No such file or directory (os error 2)"
  | alreadyExists => "File exists (os error 17)"
  | notDirectory => "Not a directory (os error 20)"
  | isDirectory => "Is a directory (os error 21)"
  | tooManyLinks => "Too many levels of symbolic links (os error 40)"
  | nameTooLong => "File name too long (os error 36)"
  | unexpectedEnd => "file name contained an unexpected NUL byte"
  | notText => "stream did not contain valid UTF-8"
  | other text => text

/-- What stands at a location. -/
inductive Entry where
  | directory
  | file (bytes : List UInt8)
  /-- A link and the path that it stands for. -/
  | link (target : String)
deriving DecidableEq, Repr

/-- A tree of files and a place in it. -/
structure FileSystem where
  /-- Everything but the root, each at its location. -/
  entries : List (Location × Entry) := []
  /-- Where relative paths begin. -/
  cwd : Location := []
deriving Repr

namespace FileSystem

/-- Replaces the entry at a location, or adds it behind all others. -/
def putEntry (location : Location) (entry : Entry) :
    List (Location × Entry) → List (Location × Entry)
  | [] => [(location, entry)]
  | (other, old) :: entries =>
    if other = location then (location, entry) :: entries
    else (other, old) :: putEntry location entry entries

/-- The entry at a location. -/
def findEntry (location : Location) : List (Location × Entry) → Option Entry
  | [] => none
  | (other, entry) :: entries => if other = location then some entry else findEntry location entries

/-- What stands at a location. -/
def find? (fs : FileSystem) (location : Location) : Option Entry :=
  if location = [] then some .directory else findEntry location fs.entries

/-- The tree with an entry at a location. -/
def put (fs : FileSystem) (location : Location) (entry : Entry) : FileSystem :=
  { fs with entries := putEntry location entry fs.entries }

theorem findEntry_putEntry (location : Location) (entry : Entry) (entries : List (Location × Entry))
    (other : Location) :
    findEntry other (putEntry location entry entries) =
      if location = other then some entry else findEntry other entries := by
  induction entries with
  | nil => simp [putEntry, findEntry]
  | cons head entries ih =>
    obtain ⟨place, old⟩ := head
    by_cases h : place = location
    · by_cases h' : location = other <;> simp [putEntry, findEntry, h, h']
    · by_cases h' : place = other
      · subst h'
        simp [putEntry, findEntry, h, Ne.symm h]
      · simp [putEntry, findEntry, h, h', ih]

/-- Putting an entry changes what stands at its location, and nothing else. -/
theorem find?_put (fs : FileSystem) (location : Location) (entry : Entry) (other : Location) :
    (fs.put location entry).find? other =
      if location = other ∧ other ≠ [] then some entry else fs.find? other := by
  by_cases h : other = []
  · simp [find?, h]
  · by_cases h' : location = other <;> simp [find?, put, findEntry_putEntry, h, h']

@[simp] theorem find?_root (fs : FileSystem) : fs.find? [] = some .directory := by simp [find?]

@[simp] theorem cwd_put (fs : FileSystem) (location : Location) (entry : Entry) :
    (fs.put location entry).cwd = fs.cwd := rfl

end FileSystem

end FaceAnnotator
