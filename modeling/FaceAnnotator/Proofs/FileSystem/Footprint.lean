import FaceAnnotator.Proofs.FileSystem.Ancestors
import FaceAnnotator.Proofs.FileSystem.Creation
import FaceAnnotator.Proofs.FileSystem.Persistence
/-!
# FaceAnnotator.Proofs.FileSystem.Footprint

**All that a tree shows of an output that was written to it.**

On the way to the output directories were made, each of them for one of the paths above it (`Made`).
Then one file was made or emptied, and bytes were written to it. `Footprint` names these
differences, with the paths followed in the tree as it is in the end; the steps keep it
(`Made.makeDirectory`, `Made.createFile`, `Footprint.write`).
-/

namespace FaceAnnotator.FileSystem

/-- Directories were made where nothing stood, and to each of them leads one of the given paths. -/
structure Made (before : FileSystem) (paths : List Path) (after : FileSystem) : Prop where
  cwd : after.cwd = before.cwd
  find : ∀ location, after.find? location = before.find? location ∨
    before.find? location = none ∧ after.find? location = some .directory ∧
      ∃ p ∈ paths, after.resolve .reading p = .ok (.directory location)

/-- Two trees differ by new directories at beginnings of a path, and by the one file that the path
leads to: it is new, or it holds other bytes. -/
structure Footprint (before : FileSystem) (path : Path) (after : FileSystem) : Prop where
  cwd : after.cwd = before.cwd
  find : ∀ location, after.find? location = before.find? location ∨
    (before.find? location = none ∧ after.find? location = some .directory ∧
      ∃ p, p.Begins path ∧ after.resolve .reading p = .ok (.directory location)) ∨
    (before.find? location = none ∨ ∃ old, before.find? location = some (.file old)) ∧
      (∃ bytes, after.find? location = some (.file bytes)) ∧
      after.resolve .reading path = .ok (.file location)

variable {before mid after : FileSystem} {paths : List Path} {path : Path}

namespace Made

protected theorem refl (fs : FileSystem) (paths : List Path) : Made fs paths fs :=
  ⟨rfl, fun _ => .inl rfl⟩

/-- One more directory for one of the paths. -/
theorem makeDirectory (h : Made before paths mid) {p : Path} (mem : p ∈ paths)
    (made : mid.makeDirectory p = (.ok (), after)) : Made before paths after := by
  obtain ⟨location, free, rfl, found⟩ := resolve_makeDirectory made
  have grows : Grows mid (mid.put location .directory) := .put (free ▸ .directory)
  refine ⟨grows.cwd.trans h.cwd, fun other => ?_⟩
  rw [find?_put]
  split
  · rename_i here
    obtain ⟨rfl, -⟩ := here
    rcases h.find location with same | ⟨none, -, -⟩
    · exact .inr ⟨same.symm.trans free, rfl, p, mem, found⟩
    · exact .inr ⟨none, rfl, p, mem, found⟩
  · rcases h.find other with same | ⟨none, directory, q, within, leads⟩
    · exact .inl same
    · exact .inr ⟨none, directory, q, within, grows.resolve leads trivial⟩

theorem footprint (h : Made before path.ancestors after) : Footprint before path after := by
  refine ⟨h.cwd, fun location => ?_⟩
  rcases h.find location with same | ⟨none, directory, p, mem, leads⟩
  · exact .inl same
  · exact .inr (.inl ⟨none, directory, p, Path.begins_of_mem_ancestors mem, leads⟩)

end Made

theorem resolve_createFile {handle : Handle} (h : before.createFile path = (.ok handle, after)) :
    after.resolve .reading path = .ok (.file handle.location) := by
  have walked := (walk_createFile h).1
  unfold createFile resolve at h
  unfold resolve
  split at h
  · cases h
  · cases h
  · rename_i t _ resolved
    split at resolved
    · cases resolved
    · rename_i short
      rw [if_neg short, walked]

namespace Footprint

/-- What was there is there, and only the file that the path leads to may hold other bytes. -/
theorem keeps (h : Footprint before path after) {location : Location} {entry : Entry}
    (found : before.find? location = some entry) :
    after.find? location = some entry ∨ ∃ old new, entry = .file old ∧
      after.find? location = some (.file new) ∧
      after.resolve .reading path = .ok (.file location) := by
  rcases h.find location with same | ⟨none, -, -⟩ | ⟨none | ⟨old, file⟩, ⟨new, later⟩, leads⟩
  · exact .inl (same.trans found)
  · rw [none] at found
    cases found
  · rw [none] at found
    cases found
  · rw [file] at found
    cases found
    exact .inr ⟨old, new, rfl, later, leads⟩

/-- The file that the path leads to gets other bytes. -/
theorem write (h : Footprint before path mid) {location : Location} {old : List UInt8}
    (leads : mid.resolve .reading path = .ok (.file location))
    (found : mid.find? location = some (.file old)) (bytes : List UInt8) :
    Footprint before path (mid.put location (.file bytes)) ∧
      (mid.put location (.file bytes)).resolve .reading path = .ok (.file location) := by
  have grows : Grows mid (mid.put location (.file bytes)) := .put (found ▸ .bytes old bytes)
  have still := grows.resolve leads trivial
  refine ⟨⟨grows.cwd.trans h.cwd, fun other => ?_⟩, still⟩
  rw [find?_put]
  split
  · rename_i here
    obtain ⟨rfl, -⟩ := here
    refine .inr (.inr ⟨?_, ⟨bytes, rfl⟩, still⟩)
    rcases h.find location with same | ⟨-, directory, -⟩ | ⟨could, -, -⟩
    · exact .inr ⟨old, same.symm.trans found⟩
    · rw [directory] at found
      cases found
    · exact could
  · rcases h.find other with same | ⟨none, directory, p, begins, leads'⟩ |
      ⟨could, ⟨stored, file⟩, leads'⟩
    · exact .inl same
    · exact .inr (.inl ⟨none, directory, p, begins, grows.resolve leads' trivial⟩)
    · exact .inr (.inr ⟨could, ⟨stored, file⟩, grows.resolve leads' trivial⟩)

end Footprint

/-- The file for the output is made or emptied after its directories were made. -/
theorem Made.createFile (h : Made before path.ancestors mid) {handle : Handle}
    (created : mid.createFile path = (.ok handle, after)) :
    Footprint before path after ∧ after.resolve .reading path = .ok (.file handle.location) := by
  have leads := resolve_createFile created
  obtain ⟨-, grows, rfl⟩ := createFile_eq_ok created
  refine ⟨⟨grows.cwd.trans h.cwd, fun other => ?_⟩, leads⟩
  have grown := grows.find other
  rw [find?_put] at grown ⊢
  split
  · rename_i here
    obtain ⟨rfl, inside⟩ := here
    rw [if_pos ⟨rfl, inside⟩] at grown
    refine .inr (.inr ⟨?_, ⟨[], rfl⟩, leads⟩)
    rcases h.find handle.location with same | ⟨none, -, -⟩
    · rw [← same]
      exact grown.of_file
    · exact .inl none
  · rcases h.footprint.find other with same | ⟨none, directory, p, begins, leads'⟩ |
      ⟨could, file, leads'⟩
    · exact .inl same
    · exact .inr (.inl ⟨none, directory, p, begins, grows.resolve leads' trivial⟩)
    · exact .inr (.inr ⟨could, file, grows.resolve leads' trivial⟩)

end FaceAnnotator.FileSystem
