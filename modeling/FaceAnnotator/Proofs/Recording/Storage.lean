import FaceAnnotator.CommandLine.Run
import FaceAnnotator.Host.World
import FaceAnnotator.Proofs.FileSystem.Growth
import FaceAnnotator.Proofs.Triple
/-!
# FaceAnnotator.Proofs.Recording.Storage

**Opening an output: what is made, and what is emptied.**

Making the directories on the way only adds to the files of a world (`World.Adds`). After that
one file is made or emptied, and it is the one that the path of the output reached before any
of this (`openOutput_host`).
-/

namespace FaceAnnotator

open FileSystem

namespace World

variable {α β : Type}

/-- A computation that only adds to the files of a world, and heeds nothing else. -/
def Adds (x : StateM World α) : Prop :=
  ∀ fs, ∃ a after, Grows fs after ∧ Keeps fs after ∧
    ∀ w : World, w.files = fs → x w = (a, { w with files := after })

namespace Adds

theorem look (see : FileSystem → α) : Adds (World.look see) := by
  refine fun fs => ⟨see fs, fs, .refl fs, fun _ _ found => found, ?_⟩
  rintro w rfl
  rfl

theorem done (a : α) : Adds (pure a : StateM World α) := look fun _ => a

theorem bind {x : StateM World α} {f : α → StateM World β} (hx : Adds x) (hf : ∀ a, Adds (f a)) :
    Adds (x >>= f) := by
  intro fs
  obtain ⟨a, between, grows, keeps, first⟩ := hx fs
  obtain ⟨b, after, grows', keeps', second⟩ := hf a between
  refine ⟨b, after, grows.trans grows', fun _ _ found => keeps' _ _ (keeps _ _ found), ?_⟩
  exact fun w eq => (bind_run (first w eq)).trans (second _ rfl)

theorem makeDirectory (path : Path) : Adds (World.host.makeDirectory path) := by
  intro fs
  obtain ⟨grows, keeps⟩ := grows_makeDirectory fs path
  refine ⟨(fs.makeDirectory path).1, (fs.makeDirectory path).2, grows, keeps, ?_⟩
  rintro w rfl
  rfl

theorem unlessDirectory (path : Path) (cause : SystemError) :
    Adds (World.host.unlessDirectory path cause) := by
  refine .bind (.look fun fs => fs.isDirectory path) fun there => ?_
  split <;> exact .done _

theorem makeDirectories (paths : List Path) : Adds (World.host.makeDirectories paths) := by
  induction paths with
  | nil => exact .done _
  | cons path above ih =>
      unfold Host.makeDirectories
      split
      · exact .done _
      refine .bind (makeDirectory path) fun made => ?_
      split
      · exact .done _
      · refine .bind ih fun outcome => ?_
        cases outcome with
        | error cause => exact .done _
        | ok _ =>
            refine .bind (makeDirectory path) fun again => ?_
            cases again with
            | ok _ => exact .done _
            | error cause => exact unlessDirectory path cause
      · exact unlessDirectory path _

end Adds

end World

/-- What is known of the files after an output was opened, given what came of that. -/
def Opened (before : FileSystem) (out : Option String) (after : FileSystem) :
    Except RecordingFault (Output Handle) → Prop
  | .error _ => Keeps before after
  | .ok .console => out = none ∧ after = before
  | .ok (.file handle) => ∃ path ∈ out, ∃ grown,
    Reaches before (before.origin ⟨path⟩) (Path.segments ⟨path⟩) handle.location ∧
      Keeps before grown ∧ after = grown.put handle.location (.file [])

/-- Creating a recording heeds nothing of a world but its files. -/
theorem createRecording_host (path : String) (fs : FileSystem) :
    ∃ outcome after, Grows fs after ∧ Opened fs (some path) after (outcome.map Output.file) ∧
      ∀ w : World, w.files = fs →
        World.host.createRecording path w = (outcome, { w with files := after }) := by
  obtain ⟨made, grown, grows, keeps, first⟩ := World.Adds.makeDirectories (Path.ancestors ⟨path⟩) fs
  cases made with
  | error cause =>
      exact ⟨.error (.uncreatable path cause), grown, grows, keeps,
        fun w eq => bind_run (first w eq)⟩
  | ok _ =>
      have second : ∀ w : World, World.host.createFile ⟨path⟩ { w with files := grown } =
          ((grown.createFile ⟨path⟩).1, { w with files := (grown.createFile ⟨path⟩).2 }) :=
        fun _ => rfl
      cases created : grown.createFile ⟨path⟩ with
      | mk outcome after =>
          rw [created] at second
          cases outcome with
          | error cause =>
              cases createFile_eq_error created
              exact ⟨.error (.uncreatable path cause), grown, grows, keeps,
                fun w eq => (bind_run (first w eq)).trans (bind_run (second w))⟩
          | ok handle =>
              obtain ⟨reaches, grows', rfl⟩ := createFile_eq_ok created
              -- The file is opened in the tree that has grown, but its path led there before.
              have from_here : grown.origin ⟨path⟩ = fs.origin ⟨path⟩ := by
                rw [origin, origin, grows.cwd]
              rw [from_here] at reaches
              exact ⟨.ok handle, _, grows.trans grows',
                ⟨path, rfl, grown, reaches.of_grows grows, keeps, rfl⟩,
                fun w eq => (bind_run (first w eq)).trans (bind_run (second w))⟩

/-- Opening an output heeds nothing of a world but its files. -/
theorem openOutput_host (out : Option String) (fs : FileSystem) :
    ∃ outcome after, Grows fs after ∧ Opened fs out after outcome ∧
      ∀ w : World, w.files = fs →
        CommandLine.openOutput World.host out w = (outcome, { w with files := after }) := by
  cases out with
  | none =>
      refine ⟨.ok .console, fs, .refl fs, ⟨rfl, rfl⟩, ?_⟩
      rintro w rfl
      rfl
  | some path =>
      obtain ⟨outcome, after, grows, opened, creates⟩ := createRecording_host path fs
      exact ⟨outcome.map Output.file, after, grows, opened, fun w eq => bind_run (creates w eq)⟩

end FaceAnnotator
