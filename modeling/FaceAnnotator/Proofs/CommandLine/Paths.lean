import FaceAnnotator.CommandLine.Paths
import FaceAnnotator.Host.World
import FaceAnnotator.Proofs.FileSystem.Canonical
import FaceAnnotator.Proofs.Triple
/-!
# FaceAnnotator.Proofs.CommandLine.Paths

**Which output is taken for the input.**

The place that is found for an output before anything is made is the place that its path reaches,
unless there is a **dead link** on its way: a link that the system cannot follow, and that is
therefore taken for a plain name (`enteredAll_of_reaches`). So of two paths to one file, the second
of which meets no dead link, the second is refused as an output for the first
(`not_reaches_of_validated`).
-/

namespace FaceAnnotator

namespace FileSystem

/-- Where a name leads from a place in a tree. -/
def entered (fs : FileSystem) (place : Location) (segment : String) : Location :=
  if segment = ".." then place.dropLast
  else
    match fs.canonicalize (Path.ofLocation (place ++ [segment])) with
    | .ok real => real
    | .error _ => place ++ [segment]

/-- Where some names lead in a tree, one after the other. -/
def enteredAll (fs : FileSystem) (place : Location) (segments : List String) : Location :=
  segments.foldl fs.entered place

/-- There is a link at a location, and it cannot be followed. -/
def IsDeadLink (fs : FileSystem) (location : Location) : Prop :=
  (∃ target, fs.find? location = some (.link target)) ∧
    ∃ cause, fs.canonicalize (Path.ofLocation location) = .error cause

/-- Some names lead over a dead link. -/
def MeetsDeadLink (fs : FileSystem) : Location → List String → Prop
  | _, [] => False
  | place, segment :: rest =>
    segment ≠ ".." ∧ fs.IsDeadLink (place ++ [segment]) ∨
      MeetsDeadLink fs (fs.entered place segment) rest

/-- In a tree the place that is found for an output is the location of the input. -/
def sameFile (fs : FileSystem) (input output : Path) : Bool :=
  match fs.canonicalize input with
  | .error _ => false
  | .ok real => fs.enteredAll (fs.origin output) output.components = real

variable {fs : FileSystem} {place goal : Location}

/-- A name that is no dead link is entered as it is walked through. -/
theorem entered_of_reaches {name : String} {rest : List String} (is : IsName name)
    (plain : IsPlain name) (grounded : fs.Grounded place) (alive : ¬fs.IsDeadLink (place ++ [name]))
    (h : Reaches fs place (name :: rest) goal) :
    Reaches fs (fs.entered place name) rest goal ∧
      (rest ≠ [] → fs.Grounded (fs.entered place name)) := by
  have all : ∀ other ∈ place ++ [name], IsName other := grounded.isName_concat is
  -- What the system finds at the name is what the name alone reaches.
  have found_real : ∀ real, fs.canonicalize (Path.ofLocation (place ++ [name])) = .ok real →
      Reaches fs place [name] real :=
    fun real found => (reaches_of_canonicalize all found).of_grounded grounded
  have entered_eq : ∀ real, Reaches fs place [name] real →
      (∀ cause, fs.canonicalize (Path.ofLocation (place ++ [name])) = .error cause →
        real = place ++ [name]) → fs.entered place name = real := by
    intro real reached lexical
    rw [entered, if_neg plain.2]
    split
    · rename_i found
      exact (found_real _ found).unique reached
    · rename_i cause lost
      exact (lexical cause lost).symm
  rcases h.of_plain plain with ⟨passable, next⟩ | ⟨rfl, rfl, bytes, found⟩ | ⟨target, found, next⟩
  · rw [entered_eq _ (.enter plain passable .done) fun _ _ => rfl]
    exact ⟨next, fun _ => grounded.concat is plain passable⟩
  · rw [entered_eq _ (.file plain found) fun _ _ => rfl]
    exact ⟨.done, fun more => absurd rfl more⟩
  · obtain ⟨mid, before, after, ground⟩ :=
      next.split (grounded.linkOrigin _) fun other mem => Path.isName_of_mem_segments mem
    have reached : Reaches fs place [name] mid := .link plain found (by simpa using before)
    have entered_mid := entered_eq mid reached fun cause lost =>
      absurd ⟨⟨target, found⟩, cause, lost⟩ alive
    rw [entered_mid]
    exact ⟨after, ground⟩

/-- Without a dead link on the way, the place that is found is the one that is reached. -/
theorem enteredAll_of_reaches {segments : List String} (grounded : fs.Grounded place)
    (names : ∀ name ∈ segments, IsName name) (h : Reaches fs place segments goal)
    (alive : ¬fs.MeetsDeadLink place (segments.filter fun segment => segment != ".")) :
    fs.enteredAll place (segments.filter fun segment => segment != ".") = goal := by
  induction segments generalizing place with
  | nil =>
      cases h
      rfl
  | cons segment rest ih =>
      have others : ∀ name ∈ rest, IsName name :=
        fun name mem => names name (List.mem_cons_of_mem _ mem)
      by_cases here : segment = "."
      · rw [List.filter_cons_of_neg (by simpa using here)] at alive ⊢
        exact ih grounded others (h.of_stay here) alive
      rw [List.filter_cons_of_pos (by simpa using here)] at alive ⊢
      rw [MeetsDeadLink, not_or] at alive
      by_cases above : segment = ".."
      · have up : fs.entered place segment = place.dropLast := by rw [entered, if_pos above]
        rw [up] at alive
        rw [enteredAll, List.foldl_cons, up]
        exact ih grounded.dropLast others (h.of_up above) alive.2
      have living : ¬fs.IsDeadLink (place ++ [segment]) := fun dead => alive.1 ⟨above, dead⟩
      obtain ⟨next, ground⟩ := entered_of_reaches (names _ List.mem_cons_self) ⟨here, above⟩
        grounded living h
      rw [enteredAll, List.foldl_cons]
      cases rest with
      | nil =>
          cases next
          rfl
      | cons name rest => exact ih (ground (List.cons_ne_nil _ _)) others next alive.2

end FileSystem

/-! ### Looking at a world -/

namespace CommandLine

theorem canonicalize_host (path : Path) (w : World) :
    World.host.canonicalize path w = (w.files.canonicalize path, w) := rfl

theorem enter_host (place : Location) (segment : String) (w : World) :
    enter World.host place segment w = (w.files.entered place segment, w) := by
  unfold enter FileSystem.entered
  split
  · rfl
  · refine (bind_run (canonicalize_host _ w)).trans ?_
    cases w.files.canonicalize (Path.ofLocation (place ++ [segment])) <;> rfl

theorem enterAll_host (place : Location) (segments : List String) (w : World) :
    enterAll World.host place segments w = (w.files.enteredAll place segments, w) := by
  induction segments generalizing place with
  | nil => rfl
  | cons segment rest ih => exact (bind_run (enter_host place segment w)).trans (ih _)

theorem resolvePath_host (path : Path) (w : World) :
    resolvePath World.host path w =
      (some (w.files.enteredAll (w.files.origin path) path.components), w) := by
  have start : startOf World.host path w = (some (w.files.origin path), w) := by
    unfold startOf FileSystem.origin
    split <;> rfl
  exact (bind_run start).trans (bind_run (enterAll_host _ _ w))

theorem isSameFile_host (input output : Path) (w : World) :
    isSameFile World.host input output w = (w.files.sameFile input output, w) := by
  refine (bind_run (canonicalize_host input w)).trans ?_
  unfold FileSystem.sameFile
  cases w.files.canonicalize input with
  | error cause => rfl
  | ok real =>
      refine (bind_run (resolvePath_host output w)).trans ?_
      have equal : ∀ found : Location, (some found == some real) = decide (found = real) :=
        fun found => by rw [Bool.eq_iff_iff]; simp
      exact congrArg (·, w) (equal _)

/-- What comes of validating a command, given the files. -/
def validated (fs : FileSystem) (a : Arguments) : Except Objection Unit :=
  if !fs.pathExists ⟨a.input⟩ then .error (.inputNotFound a.input)
  else if a.progressEvery = 0 then .error .noStep
  else
    match a.output with
    | none => .ok ()
    | some output =>
      if fs.sameFile ⟨a.input⟩ ⟨output⟩ then .error (.sameFile output a.input) else .ok ()

/-- Validating only looks at the files. -/
theorem validate_host (a : Arguments) (w : World) :
    validate World.host a w = (validated w.files a, w) := by
  have there : World.host.pathExists ⟨a.input⟩ w = (w.files.pathExists ⟨a.input⟩, w) := rfl
  refine (bind_run there).trans ?_
  unfold validated
  split
  · rfl
  split
  · rfl
  cases a.output with
  | none => rfl
  | some output =>
      refine (bind_run (isSameFile_host _ _ w)).trans ?_
      dsimp only
      split <;> rfl

/-- A command that is let pass does not write over its input, unless the location of the input
cannot be told or there is a dead link on the way to the output. -/
theorem not_reaches_of_validated {fs : FileSystem} {a : Arguments} {output : String}
    {location real : Location} (ground : fs.Grounded fs.cwd) (valid : validated fs a = .ok ())
    (written : a.output = some output)
    (named : fs.resolve .reading ⟨a.input⟩ = .ok (.file location))
    (told : fs.canonicalize ⟨a.input⟩ = .ok real)
    (alive : ¬fs.MeetsDeadLink (fs.origin ⟨output⟩) (Path.components ⟨output⟩)) :
    ¬fs.Reaches (fs.origin ⟨output⟩) (Path.segments ⟨output⟩) location := by
  intro reaches
  have place := FileSystem.enteredAll_of_reaches (ground.origin ⟨output⟩)
    (fun name mem => Path.isName_of_mem_segments mem) reaches alive
  have here : real = location :=
    FileSystem.eq_of_canonicalize told (FileSystem.walk_of_resolve named)
  have same : fs.sameFile ⟨a.input⟩ ⟨output⟩ = true := by
    unfold FileSystem.sameFile
    rw [told, here]
    exact decide_eq_true place
  unfold validated at valid
  rw [written] at valid
  simp [same] at valid
  split at valid
  · cases valid
  split at valid <;> cases valid

end CommandLine

end FaceAnnotator
