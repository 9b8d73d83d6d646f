import FaceAnnotator.FileSystem.Operations
import FaceAnnotator.Proofs.FileSystem.Reach
/-!
# FaceAnnotator.Proofs.FileSystem.Growth

**How a tree changes while a program only adds to it.**

Directories and files are made where nothing was, and files get other bytes; everything else stays
(`Grows`). In a tree that has grown so, segments lead nowhere that they did not lead before
(`Reaches.of_grows`). Making a directory does less: whatever was there is kept as it was (`Keeps`).
-/

namespace FaceAnnotator.FileSystem

/-- What may stand at a location later, after what stands there now. -/
inductive Grown : Option Entry → Option Entry → Prop where
  | same (entry : Option Entry) : Grown entry entry
  | directory : Grown none (some .directory)
  | file (bytes : List UInt8) : Grown none (some (.file bytes))
  | bytes (before after : List UInt8) : Grown (some (.file before)) (some (.file after))

namespace Grown

variable {before : Option Entry}

theorem eq_none (h : Grown before none) : before = none := by
  cases h
  rfl

theorem eq_link {target : String} (h : Grown before (some (.link target))) :
    before = some (.link target) := by
  cases h
  rfl

theorem of_directory (h : Grown before (some .directory)) :
    before = none ∨ before = some .directory := by
  cases h with
  | same => exact .inr rfl
  | directory => exact .inl rfl

theorem of_file {bytes : List UInt8} (h : Grown before (some (.file bytes))) :
    before = none ∨ ∃ bytes, before = some (.file bytes) := by
  cases h with
  | same => exact .inr ⟨bytes, rfl⟩
  | file => exact .inl rfl
  | bytes old => exact .inr ⟨old, rfl⟩

end Grown

/-- A tree has only been added to. -/
structure Grows (before after : FileSystem) : Prop where
  cwd : after.cwd = before.cwd
  find : ∀ location, Grown (before.find? location) (after.find? location)

/-- Everything in a tree is in another, too. -/
def Keeps (before after : FileSystem) : Prop :=
  ∀ location entry, before.find? location = some entry → after.find? location = some entry

namespace Grows

variable {fs before between after : FileSystem}

protected theorem refl (fs : FileSystem) : Grows fs fs := ⟨rfl, fun _ => .same _⟩

protected theorem trans (h : Grows before between) (h' : Grows between after) :
    Grows before after := by
  refine ⟨h'.cwd.trans h.cwd, fun location => ?_⟩
  have first := h.find location
  have second := h'.find location
  generalize before.find? location = a at *
  generalize between.find? location = b at *
  generalize after.find? location = c at *
  -- Nothing leads from a file or a directory back to nothing, or from one of them to the other.
  cases first <;> cases second <;> constructor

theorem put {location : Location} {entry : Entry} (h : Grown (fs.find? location) (some entry)) :
    Grows fs (fs.put location entry) := by
  refine ⟨rfl, fun other => ?_⟩
  rw [find?_put]
  split
  · rename_i here
    rw [← here.1]
    exact h
  · exact .same _

end Grows

/-- Where segments lead later they led before. -/
theorem Reaches.of_grows {before after : FileSystem} (h : Grows before after)
    {place goal : Location} {segments : List String} (later : Reaches after place segments goal) :
    Reaches before place segments goal := by
  induction later with
  | done => exact .done
  | stay here _ ih => exact .stay here ih
  | up above _ ih => exact .up above ih
  | @enter place goal name _ plain passable _ ih =>
      have grown := h.find (place ++ [name])
      refine .enter plain ?_ ih
      rcases passable with found | found <;> rw [found] at grown
      · exact .inl grown.eq_none
      · exact grown.of_directory
  | @file place name bytes plain found =>
      have grown := h.find (place ++ [name])
      rw [found] at grown
      -- A file that was made since then is a name that was taken for a directory before.
      rcases grown.of_file with missing | ⟨old, found⟩
      · exact .enter plain (.inl missing) .done
      · exact .file plain found
  | @link place goal name target _ plain found _ ih =>
      have grown := h.find (place ++ [name])
      rw [found] at grown
      exact .link plain grown.eq_link ih

/-! ### Making directories, making files -/

variable {fs : FileSystem}

theorem makeDirectory_eq_error {path : Path} {cause : SystemError} {after : FileSystem}
    (h : fs.makeDirectory path = (.error cause, after)) : after = fs := by
  unfold makeDirectory at h
  repeat' split at h
  all_goals cases h
  all_goals rfl

/-- A directory is made where nothing stands, in the directory that the other segments lead to. -/
theorem makeDirectory_eq_ok {path : Path} {after : FileSystem}
    (h : fs.makeDirectory path = (.ok (), after)) :
    ¬path.isCut ∧ ¬path.isOverlong ∧ ∃ above parent name,
      path.segments = above ++ [name] ∧ name ≠ "." ∧ name ≠ ".." ∧
      fs.follow .reading maxLinks (fs.origin path) above true = .ok (.directory parent) ∧
      fs.find? (parent ++ [name]) = none ∧ after = fs.put (parent ++ [name]) .directory := by
  unfold makeDirectory at h
  split at h
  · cases h
  rename_i whole
  split at h
  · cases h
  rename_i short
  split at h
  · cases h
  rename_i name last
  obtain ⟨above, segments⟩ := List.getLast?_eq_some_iff.1 last
  rw [segments, List.dropLast_concat] at h
  split at h
  · cases h
  · rename_i parent walked
    split at h
    · cases h
    rename_i free
    split at h
    · cases h
    cases h
    simp only [Bool.or_eq_true, decide_eq_true_eq, not_or, Bool.not_eq_true,
      Option.isSome_eq_false_iff, Option.isNone_iff_eq_none] at free
    exact ⟨whole, short, above, parent, name, segments, free.1.1, free.1.2, walked, free.2, rfl⟩
  · cases h

theorem find?_makeDirectory (fs : FileSystem) (path : Path) :
    (fs.makeDirectory path).2 = fs ∨ ∃ location, fs.find? location = none ∧
      (fs.makeDirectory path).2 = fs.put location .directory := by
  cases made : fs.makeDirectory path with
  | mk outcome after =>
      cases outcome with
      | error cause => exact .inl (makeDirectory_eq_error made)
      | ok _ =>
          obtain ⟨-, -, above, parent, name, -, -, -, -, free, eq⟩ := makeDirectory_eq_ok made
          exact .inr ⟨parent ++ [name], free, eq⟩

/-- Making a directory adds to a tree, and changes nothing that is there. -/
theorem grows_makeDirectory (fs : FileSystem) (path : Path) :
    Grows fs (fs.makeDirectory path).2 ∧ Keeps fs (fs.makeDirectory path).2 := by
  rcases find?_makeDirectory fs path with eq | ⟨location, free, eq⟩ <;> rw [eq]
  · exact ⟨.refl fs, fun _ _ found => found⟩
  · refine ⟨.put (free ▸ .directory), fun other entry found => ?_⟩
    rw [find?_put, if_neg]
    · exact found
    · rintro ⟨rfl, -⟩
      rw [free] at found
      cases found

/-- What creating a file opens is where the path leads, and it holds nothing then. -/
theorem createFile_eq_ok {path : Path} {handle : Handle} {after : FileSystem}
    (h : fs.createFile path = (.ok handle, after)) :
    Reaches fs (fs.origin path) path.segments handle.location ∧ Grows fs after ∧
      after = fs.put handle.location (.file []) := by
  unfold createFile at h
  split at h
  · cases h
  · cases h
  · rename_i t not_directory resolved
    obtain ⟨reaches, stands⟩ := reaches_of_walk (walk_of_resolve resolved)
    cases h
    refine ⟨reaches, .put ?_, rfl⟩
    cases t with
    | directory location => exact absurd rfl (not_directory location)
    | file location =>
        obtain ⟨bytes, found⟩ := stands
        exact found ▸ .bytes bytes []
    | vacant parent name => exact stands ▸ .file []

theorem createFile_eq_error {path : Path} {cause : SystemError} {after : FileSystem}
    (h : fs.createFile path = (.error cause, after)) : after = fs := by
  unfold createFile at h
  split at h <;> cases h <;> rfl

end FaceAnnotator.FileSystem
