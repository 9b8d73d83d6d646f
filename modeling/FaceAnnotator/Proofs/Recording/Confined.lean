import FaceAnnotator.Proofs.FileSystem.Footprint
import FaceAnnotator.Proofs.Recording.Output
/-!
# FaceAnnotator.Proofs.Recording.Confined

**Surroundings in which anything may fail.**

`Host.Confined` says of the surroundings that they do to the files what they are asked to do, or
less. They may refuse anything at any time, whatever they did before, and they may answer whatever
they like when they are asked for something. A file that is written to may hold anything afterwards.

In such surroundings an output leaves a footprint, from the first directory that is made for it
(`leaves_makeDirectories`) to the last byte that is written to it (`preserves_traced`).
-/

namespace FaceAnnotator

open FileSystem
open Session (KeepsFiles)

/-- Whoever is asked something leaves the files alone. Who makes or writes something does at most
that: a refusal may come before it was done or after it. -/
structure Host.Confined (h : Host (StateM World) Handle) : Prop where
  workingDirectory : KeepsFiles h.workingDirectory
  canonicalize : ∀ path, KeepsFiles (h.canonicalize path)
  pathExists : ∀ path, KeepsFiles (h.pathExists path)
  isDirectory : ∀ path, KeepsFiles (h.isDirectory path)
  contents : ∀ path, KeepsFiles (h.contents path)
  makeDirectory : ∀ path (w : World), (h.makeDirectory path w).2.files = w.files ∨
    w.files.makeDirectory path = (.ok (), (h.makeDirectory path w).2.files)
  createFile : ∀ path (w : World),
    ((h.createFile path w).2.files = w.files ∧ ∃ cause, (h.createFile path w).1 = .error cause) ∨
      ∃ handle, w.files.createFile path = (.ok handle, (h.createFile path w).2.files) ∧
        ∀ opened, (h.createFile path w).1 = .ok opened → opened.location = handle.location
  writeFile :
    ∀ handle bytes (w : World), (h.writeFile handle bytes w).1.2.location = handle.location ∧
    ((h.writeFile handle bytes w).2.files = w.files ∨ ∃ old stored,
      w.files.find? handle.location = some (.file old) ∧
        (h.writeFile handle bytes w).2.files = w.files.put handle.location (.file stored))
  writeConsole : ∀ bytes, KeepsFiles (h.writeConsole bytes)
  report : ∀ notice, KeepsFiles (h.report notice)
  now : KeepsFiles h.now

/-! ### Opening an output -/

/-- What is known of the files when a file was to be opened at a path: all that they show is a
footprint, and if the file was opened, the path leads to it. -/
def Placed {ε : Type} (before : FileSystem) (path : Path) (outcome : Except ε Handle)
    (fs : FileSystem) : Prop :=
  Footprint before path fs ∧
    ∀ handle, outcome = .ok handle → fs.resolve .reading path = .ok (.file handle.location)

/-- The output is the file at a location, to which the path leads, and all that the files show
is a footprint. -/
structure Traced (before : FileSystem) (path : Path) (location : Location) (output : Output Handle)
    (fs : FileSystem) : Prop where
  handle : ∃ handle, output = .file handle ∧ handle.location = location
  leads : fs.resolve .reading path = .ok (.file location)
  footprint : Footprint before path fs

namespace Host.Confined

variable {h : Host (StateM World) Handle} {before : FileSystem}

section directories

variable {paths : List Path}

theorem leaves_makeDirectory (confined : h.Confined) {path : Path} (mem : path ∈ paths) :
    Leaves (fun w => Made before paths w.files) (h.makeDirectory path) fun _ w =>
      Made before paths w.files := by
  intro w made
  rcases confined.makeDirectory path w with same | done
  · rw [same]
    exact made
  · exact made.makeDirectory mem done

theorem leaves_unlessDirectory (confined : h.Confined) (path : Path) (cause : SystemError)
    (P : FileSystem → Prop) :
    Leaves (fun w => P w.files) (h.unlessDirectory path cause) fun _ w => P w.files := by
  refine .bind ((confined.isDirectory path).leaves P) fun there => ?_
  split <;> exact .done fun _ holds => holds

/-- However often making the directories fails, and wherever: there are those that could be made. -/
theorem leaves_makeDirectories (confined : h.Confined) {chosen : List Path}
    (within : chosen ⊆ paths) :
    Leaves (fun w => Made before paths w.files) (h.makeDirectories chosen) fun _ w =>
      Made before paths w.files := by
  induction chosen with
  | nil => exact .done fun _ holds => holds
  | cons path above ih =>
      have mem := within List.mem_cons_self
      unfold Host.makeDirectories
      split
      · exact .done fun _ holds => holds
      refine .bind (confined.leaves_makeDirectory mem) fun made => ?_
      split
      · exact .done fun _ holds => holds
      · refine .bind (ih fun other there => within (List.mem_cons_of_mem _ there)) fun outcome => ?_
        cases outcome with
        | error cause => exact .done fun _ holds => holds
        | ok _ =>
            refine .bind (confined.leaves_makeDirectory mem) fun again => ?_
            cases again with
            | ok _ => exact .done fun _ holds => holds
            | error cause => exact confined.leaves_unlessDirectory path cause (Made before paths)
      · exact confined.leaves_unlessDirectory path _ (Made before paths)

end directories

theorem leaves_createFile (confined : h.Confined) (path : Path) :
    Leaves (fun w => Made before path.ancestors w.files) (h.createFile path) fun outcome w =>
      Placed before path outcome w.files := by
  intro w made
  rcases confined.createFile path w with ⟨same, cause, refused⟩ | ⟨handle, created, opened⟩
  · rw [same, refused]
    exact ⟨made.footprint, fun _ eq => nomatch eq⟩
  · obtain ⟨footprint, leads⟩ := made.createFile created
    exact ⟨footprint, fun other eq => opened other eq ▸ leads⟩

/-- Creating a recording leaves a footprint, also if it fails. -/
theorem leaves_createRecording (confined : h.Confined) (path : String) :
    Leaves (fun w => w.files = before) (h.createRecording path) fun outcome w =>
      Placed before ⟨path⟩ outcome w.files := by
  have parents : Leaves (fun w => w.files = before) (h.makeParents ⟨path⟩)
      fun _ w => Made before (Path.ancestors ⟨path⟩) w.files := by
    intro w eq
    exact confined.leaves_makeDirectories (fun _ mem => mem) w (eq ▸ .refl before _)
  refine .bind parents fun made => ?_
  cases made with
  | error cause => exact .done fun _ made => ⟨made.footprint, fun _ eq => nomatch eq⟩
  | ok _ =>
      refine .bind (confined.leaves_createFile ⟨path⟩) fun created => ?_
      cases created with
      | error cause => exact .done fun _ placed => ⟨placed.1, fun _ eq => nomatch eq⟩
      | ok handle =>
          exact .done fun _ placed => ⟨placed.1, fun _ eq => by cases eq; exact placed.2 handle rfl⟩

/-! ### Writing to an output -/

/-- Writing to the file that the path leads to keeps it that, and leaves no more than a
footprint. -/
theorem preserves_traced (confined : h.Confined) (before : FileSystem) (path : Path)
    (location : Location) :
    h.outputDevice.Preserves (Traced before path location) True where
  write _ output bytes := by
    rintro w ⟨⟨handle, rfl, rfl⟩, leads, footprint⟩
    obtain ⟨kept, wrote⟩ := confined.writeFile handle bytes w
    have ran : h.outputDevice.write (.file handle) bytes w =
        (((h.writeFile handle bytes w).1.1, .file (h.writeFile handle bytes w).1.2),
          (h.writeFile handle bytes w).2) := rfl
    rw [ran]
    rcases wrote with same | ⟨old, stored, found, put⟩
    · rw [same]
      exact ⟨⟨_, rfl, kept⟩, leads, footprint⟩
    · rw [put]
      obtain ⟨footprint, leads⟩ := footprint.write leads found stored
      exact ⟨⟨_, rfl, kept⟩, leads, footprint⟩
  flush _ := .done fun _ traced => traced
  release _ := .done fun _ traced => traced

/-- Writing to the console leaves the files alone. -/
theorem preserves_console (confined : h.Confined) (before : FileSystem) :
    h.outputDevice.Preserves (fun output files => output = .console ∧ files = before) True where
  write _ output bytes := by
    rintro w ⟨rfl, eq⟩
    exact ⟨rfl, (confined.writeConsole bytes w).trans eq⟩
  flush _ := .done fun _ kept => kept
  release _ := .done fun _ kept => kept

end Host.Confined

/-! ### Two worlds -/

/-- A world in memory does what it is asked to do. -/
theorem World.confined_host : World.host.Confined where
  workingDirectory _ := rfl
  canonicalize _ _ := rfl
  pathExists _ _ := rfl
  isDirectory _ _ := rfl
  contents _ _ := rfl
  makeDirectory path w := by
    have ran : (World.host.makeDirectory path w).2.files = (w.files.makeDirectory path).2 := rfl
    rw [ran]
    cases made : w.files.makeDirectory path with
    | mk outcome after =>
        cases outcome with
        | ok _ => exact .inr rfl
        | error cause => exact .inl (makeDirectory_eq_error made)
  createFile path w := by
    have ran : World.host.createFile path w =
        ((w.files.createFile path).1, { w with files := (w.files.createFile path).2 }) := rfl
    rw [ran]
    cases created : w.files.createFile path with
    | mk outcome after =>
        cases outcome with
        | ok handle => exact .inr ⟨handle, rfl, fun _ eq => by cases eq; rfl⟩
        | error cause => exact .inl ⟨createFile_eq_error created, cause, rfl⟩
  writeFile handle bytes w := by
    have ran : World.host.writeFile handle bytes w =
        ((.ok (), (w.files.write handle bytes).1),
          { w with files := (w.files.write handle bytes).2 }) := rfl
    rw [ran]
    exact ⟨location_write w.files handle bytes, write_cases w.files handle bytes⟩
  writeConsole _ _ := rfl
  report _ _ := rfl
  now _ := rfl

/-! ### A world with faults -/

namespace World

/-- Moves the clock on. -/
def tick (w : World) : World := { w with clock := w.clock + 1 }

/-- Does something unless it is refused at this time. -/
def unlessRefused {α : Type} (refused : Nat → Bool) (refuse act : StateM World α) :
    StateM World α := fun w => if refused w.clock then refuse w.tick else act w.tick

/-- Writes the first half of some bytes and refuses the others. -/
def writeHalf (cause : SystemError) (handle : Handle) (bytes : List UInt8) :
    StateM World (Except Refusal Unit × Handle) :=
  let half := bytes.length / 2
  change fun fs =>
    let (handle, fs) := fs.write handle (bytes.take half)
    ((.error ⟨cause, bytes.drop half⟩, handle), fs)

/-- A world in memory that refuses at some times what it is asked to do with the files. -/
def faulty (refused : Nat → Bool) (cause : SystemError) : Host (StateM World) Handle :=
  { host with
    contents := fun path => unlessRefused refused (pure (.error cause)) (host.contents path)
    makeDirectory := fun path =>
      unlessRefused refused (pure (.error cause)) (host.makeDirectory path)
    createFile := fun path => unlessRefused refused (pure (.error cause)) (host.createFile path)
    writeFile := fun handle bytes =>
      unlessRefused refused (writeHalf cause handle bytes) (host.writeFile handle bytes) }

theorem unlessRefused_cases {α : Type} (refused : Nat → Bool) (refuse act : StateM World α)
    (w : World) :
    unlessRefused refused refuse act w = refuse w.tick ∨
      unlessRefused refused refuse act w = act w.tick := by
  unfold unlessRefused
  split
  · exact .inl rfl
  · exact .inr rfl

theorem confined_faulty (refused : Nat → Bool) (cause : SystemError) :
    (faulty refused cause).Confined where
  workingDirectory := confined_host.workingDirectory
  canonicalize := confined_host.canonicalize
  pathExists := confined_host.pathExists
  isDirectory := confined_host.isDirectory
  contents path w := by
    rcases unlessRefused_cases refused (pure (.error cause)) (host.contents path) w with
      ran | ran <;>
      exact congrArg (fun found => found.2.files) ran
  makeDirectory path w := by
    rcases unlessRefused_cases refused (pure (.error cause)) (host.makeDirectory path) w with
      ran | ran
    · exact .inl (congrArg (fun made => made.2.files) ran)
    · have same : (faulty refused cause).makeDirectory path w = host.makeDirectory path w.tick :=
        ran
      rw [same]
      exact confined_host.makeDirectory path w.tick
  createFile path w := by
    rcases unlessRefused_cases refused (pure (.error cause)) (host.createFile path) w with ran | ran
    · have same : (faulty refused cause).createFile path w = (.error cause, w.tick) := ran
      rw [same]
      exact .inl ⟨rfl, cause, rfl⟩
    · have same : (faulty refused cause).createFile path w = host.createFile path w.tick := ran
      rw [same]
      exact confined_host.createFile path w.tick
  writeFile handle bytes w := by
    rcases unlessRefused_cases refused (writeHalf cause handle bytes) (host.writeFile handle bytes)
      w with ran | ran
    · have same : (faulty refused cause).writeFile handle bytes w =
          writeHalf cause handle bytes w.tick := ran
      rw [same]
      exact ⟨location_write w.files handle _, write_cases w.files handle _⟩
    · have same : (faulty refused cause).writeFile handle bytes w =
          host.writeFile handle bytes w.tick := ran
      rw [same]
      exact confined_host.writeFile handle bytes w.tick
  writeConsole := confined_host.writeConsole
  report := confined_host.report
  now := confined_host.now

end World

end FaceAnnotator
