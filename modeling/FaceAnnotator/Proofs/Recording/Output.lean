import FaceAnnotator.Proofs.FileSystem.Growth
import FaceAnnotator.Proofs.Session.Invariant
import FaceAnnotator.Recording.Storage
/-!
# FaceAnnotator.Proofs.Recording.Output

**What writing to an output does to the other files: nothing.**

An output that is a file stays the file that it is, so whatever is known of another file is known as
long as there is writing, with a buffer in between or without one (`preserves_elsewhere`). And an
output to which nothing is ever written leaves all files as they are (`preserves_untouched`).
-/

namespace FaceAnnotator

open FileSystem

section write

variable (fs : FileSystem) (handle : Handle) (bytes : List UInt8)

theorem location_write : (fs.write handle bytes).1.location = handle.location := by
  unfold write
  split
  · split <;> rfl
  · rfl

theorem find?_write_of_ne {location : Location} (h : handle.location ≠ location) :
    (fs.write handle bytes).2.find? location = fs.find? location := by
  unfold write
  split
  · split
    · rfl
    · rw [find?_put, if_neg fun same => h same.1]
  · rfl

/-- Writing changes what is in the file, if it changes anything. -/
theorem write_cases : (fs.write handle bytes).2 = fs ∨ ∃ old stored,
    fs.find? handle.location = some (.file old) ∧
      (fs.write handle bytes).2 = fs.put handle.location (.file stored) := by
  unfold write
  split
  · rename_i old found
    split
    · exact .inl rfl
    · exact .inr ⟨old, _, found, rfl⟩
  · exact .inl rfl

theorem write_nil : fs.write handle [] = (handle, fs) := by
  unfold write
  split <;> rfl

end write

/-- The output is not the file at a location, and that file holds some bytes. -/
def Elsewhere (location : Location) (bytes : List UInt8) (output : Output Handle)
    (fs : FileSystem) : Prop :=
  (∀ handle, output = .file handle → handle.location ≠ location) ∧
    fs.find? location = some (.file bytes)

theorem preserves_output (location : Location) (bytes : List UInt8) :
    World.host.outputDevice.Preserves (Elsewhere location bytes) True where
  write _ output others := by
    intro w holds
    cases output with
    | console => exact holds
    | file handle =>
        have other := holds.1 handle rfl
        refine ⟨fun later eq => ?_, ?_⟩
        · cases eq
          exact (location_write w.files handle others).symm ▸ other
        · exact (find?_write_of_ne w.files handle others other).trans holds.2
  flush output := fun w holds => holds
  release output := fun w holds => holds

/-- A buffer in front of a device does to the files what the device does. -/
theorem Device.Preserves.buffered {δ : Type} {d : Device (StateM World) δ}
    {D : δ → FileSystem → Prop} (h : d.Preserves D True) :
    (buffered d).Preserves (fun b => D b.inner) True := by
  have empties : ∀ b : Buffered δ,
      Leaves (fun w => D b.inner w.files) (b.empty d) fun emptied w =>
        D emptied.2.inner w.files := by
    intro b
    refine .bind (h.write trivial b.inner b.held) fun stored => ?_
    obtain ⟨outcome, inner⟩ := stored
    cases outcome <;> exact .done fun _ holds => holds
  refine ⟨fun _ b bytes => ?_, fun b => ?_, fun b => ?_⟩
  · have room : Leaves (fun w => D b.inner w.files) (b.makeRoom d bytes.length)
        fun made w => D made.2.inner w.files := by
      unfold Buffered.makeRoom
      split
      · exact empties b
      · exact .done fun _ holds => holds
    refine .bind room fun made => ?_
    obtain ⟨outcome, b⟩ := made
    cases outcome with
    | error cause => exact .done fun _ holds => holds
    | ok _ =>
        dsimp only
        split
        · exact .done fun _ holds => holds
        · exact .bind (h.write trivial b.inner bytes) fun _ => .done fun _ holds => holds
  · refine .bind (empties b) fun emptied => ?_
    obtain ⟨outcome, b⟩ := emptied
    cases outcome with
    | error cause => exact .done fun _ holds => holds
    | ok _ => exact .bind (h.flush b.inner) fun _ => .done fun _ holds => holds
  · exact .bind (empties b) fun emptied =>
      .bind (h.release emptied.2.inner) fun _ => .done fun _ holds => holds

theorem preserves_elsewhere (location : Location) (bytes : List UInt8) :
    (buffered World.host.outputDevice).Preserves (fun b => Elsewhere location bytes b.inner) True :=
  (preserves_output location bytes).buffered

/-- Nothing was written to the output, and the files are the given ones. -/
def Untouched (output : Output Handle) (files : FileSystem) (b : Buffered (Output Handle))
    (fs : FileSystem) : Prop :=
  b = ⟨[], output⟩ ∧ fs = files

theorem preserves_untouched (output : Output Handle) (files : FileSystem) :
    (buffered World.host.outputDevice).Preserves (Untouched output files) False := by
  have empties : ∀ b : Buffered (Output Handle),
      Leaves (fun w => Untouched output files b w.files) (b.empty World.host.outputDevice)
        fun emptied w => Untouched output files emptied.2 w.files := by
    rintro b w ⟨rfl, eq⟩
    -- An empty buffer is written out like any other, and that changes no file.
    cases output with
    | console => exact ⟨rfl, eq⟩
    | file handle =>
        have wrote : World.host.outputDevice.write (.file handle) [] w =
            ((.ok (), .file (w.files.write handle []).1),
              { w with files := (w.files.write handle []).2 }) := rfl
        rw [write_nil] at wrote
        have emptied : Buffered.empty World.host.outputDevice ⟨[], .file handle⟩ w =
            ((.ok (), ⟨[], .file handle⟩), w) := bind_run wrote
        rw [emptied]
        exact ⟨rfl, eq⟩
  refine ⟨fun never => never.elim, fun b => ?_, fun b => ?_⟩
  · refine .bind (empties b) fun emptied => ?_
    obtain ⟨outcome, b⟩ := emptied
    cases outcome with
    | error cause => exact .done fun _ holds => holds
    | ok _ => exact fun _ holds => holds
  · exact .bind (empties b) fun _ _ holds => holds

end FaceAnnotator
