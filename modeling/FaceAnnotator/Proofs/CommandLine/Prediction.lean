import FaceAnnotator.Proofs.CommandLine.Paths
import FaceAnnotator.Proofs.FileSystem.Creation
import FaceAnnotator.Proofs.Recording.Storage
import Mathlib.Control.Monad.Basic
/-!
# FaceAnnotator.Proofs.CommandLine.Prediction

**The place that is found for an output is the place of the file that is then made.**

The place is found before there is anything on the way to the output, and the way changes while its
directories are made. Two facts bring the two together: directories that are made lead nowhere new,
so a file that was created is reached by its path in the tree from before
(`exists_createFile_of_createRecording`), and without a link that cannot be followed the place that
is found is the one that is reached.
-/

namespace FaceAnnotator

open FileSystem

/-- Every link in a tree leads to something, and the system can tell where that is. -/
def FileSystem.LinksResolve (fs : FileSystem) : Prop :=
  ∀ location target, fs.find? location = some (.link target) →
    ∃ real, fs.canonicalize (Path.ofLocation location) = .ok real

theorem FileSystem.LinksResolve.not_meetsDeadLink {fs : FileSystem} (h : fs.LinksResolve)
    (place : Location) (segments : List String) : ¬fs.MeetsDeadLink place segments := by
  induction segments generalizing place with
  | nil => exact id
  | cons segment rest ih =>
      rintro (⟨-, ⟨target, found⟩, cause, lost⟩ | later)
      · obtain ⟨real, alive⟩ := h _ target found
        rw [alive] at lost
        cases lost
      · exact ih _ later

theorem createFile_host (path : Path) (w : World) :
    World.host.createFile path w =
      ((w.files.createFile path).1, { w with files := (w.files.createFile path).2 }) := rfl

/-- A recording is created in a tree that has only been added to. -/
theorem exists_createFile_of_createRecording {w : World} {path : String} {handle : Handle}
    (h : (World.host.createRecording path w).1 = .ok handle) :
    ∃ grown, Grows w.files grown ∧
      grown.createFile ⟨path⟩ = (.ok handle, (World.host.createRecording path w).2.files) := by
  obtain ⟨made, grown, grows, -, first⟩ :=
    World.Adds.makeDirectories (Path.ancestors ⟨path⟩) w.files
  have first := first w rfl
  rcases created : grown.createFile ⟨path⟩ with ⟨outcome, after⟩
  have second := createFile_host ⟨path⟩ { w with files := grown }
  rw [created] at second
  cases made with
  | error cause =>
      have ran : World.host.createRecording path w = _ := bind_run first
      rw [ran] at h
      cases h
  | ok _ =>
      have ran : World.host.createRecording path w = _ := (bind_run first).trans (bind_run second)
      rw [ran] at h ⊢
      cases outcome with
      | error cause => cases h
      | ok opened =>
          cases h
          exact ⟨grown, grows, created⟩

namespace CommandLine

/-- In a tree in which every link resolves, the place that is found for a path is where a recording
is then created: going along the path leads to the file there, and no other location is told for the
path. It is told, if the whole tree can be addressed. -/
theorem resolvePath_predicts {w : World} {path : String} {handle : Handle}
    (ground : w.files.Grounded w.files.cwd) (links : w.files.LinksResolve)
    (created : (World.host.createRecording path w).1 = .ok handle) :
    let after := (World.host.createRecording path w).2.files
    (resolvePath World.host ⟨path⟩ w).1 = some handle.location ∧
      after.find? handle.location = some (.file []) ∧
      after.walk .reading ⟨path⟩ = .ok (.file handle.location) ∧
      (∀ real, after.canonicalize ⟨path⟩ = .ok real → real = handle.location) ∧
      (after.addressable = after → after.canonicalize ⟨path⟩ = .ok handle.location) := by
  intro after
  obtain ⟨grown, grows, file⟩ := exists_createFile_of_createRecording created
  obtain ⟨later, -, -⟩ := createFile_eq_ok file
  have from_here : grown.origin ⟨path⟩ = w.files.origin ⟨path⟩ := by rw [origin, origin, grows.cwd]
  rw [from_here] at later
  -- The way through the tree as it was before anything was made.
  have before : Reaches w.files (w.files.origin ⟨path⟩) (Path.segments ⟨path⟩) handle.location :=
    later.of_grows grows
  have place := enteredAll_of_reaches (ground.origin ⟨path⟩)
    (fun name mem => Path.isName_of_mem_segments mem) before (links.not_meetsDeadLink _ _)
  obtain ⟨walked, found⟩ := walk_createFile file
  refine ⟨?_, found, walked, fun real told => eq_of_canonicalize told walked, fun whole => ?_⟩
  · rw [resolvePath_host]
    exact congrArg some place
  · unfold canonicalize
    rw [whole, walked]
    rfl

/-- A tree with a link to a directory, a link to that link, and a link to a file. -/
def linked : World where
  files :=
    { entries :=
        [(["home"], .directory), (["home", "a"], .directory), (["home", "a", "b"], .directory),
          (["home", "a", "f"], .file []), (["home", "l"], .link "a/b"),
          (["home", "a", "m"], .link "/home/l"), (["home", "a", "b", "g"], .link "../f")]
      cwd := ["home"] }

theorem linksResolve_linked : linked.files.LinksResolve := by
  intro location target found
  unfold FileSystem.find? at found
  split at found
  · cases found
  simp only [linked, FileSystem.findEntry] at found
  repeat' split at found
  all_goals cases found
  · exact ⟨["home", "a", "b"], by subst location; decide +kernel⟩
  · exact ⟨["home", "a", "b"], by subst location; decide +kernel⟩
  · exact ⟨["home", "a", "f"], by subst location; decide +kernel⟩

theorem grounded_linked : linked.files.Grounded linked.files.cwd := by
  have root := FileSystem.grounded_root linked.files
  exact root.concat ⟨by decide, by decide⟩ ⟨by decide, by decide⟩ (.inr (by decide))

/-- Through two links, out of a directory that is missing, and into another one. -/
theorem resolvePath_predicts_through_links :
    let path := "a/./m/x/../y/out.jsonl"
    let created := World.host.createRecording path linked
    linked.files.Grounded linked.files.cwd ∧ linked.files.LinksResolve ∧
      created.1 = .ok ⟨["home", "a", "b", "y", "out.jsonl"], 0⟩ ∧
      (resolvePath World.host ⟨path⟩ linked).1 = some ["home", "a", "b", "y", "out.jsonl"] ∧
      created.2.files.canonicalize ⟨path⟩ = .ok ["home", "a", "b", "y", "out.jsonl"] := by
  intro path created
  have done : created.1 = .ok ⟨["home", "a", "b", "y", "out.jsonl"], 0⟩ := by decide +kernel
  have whole : created.2.files.addressable = created.2.files :=
    addressable_eq_self (by decide +kernel)
  obtain ⟨place, -, -, -, canonical⟩ :=
    resolvePath_predicts grounded_linked linksResolve_linked done
  exact ⟨grounded_linked, linksResolve_linked, done, place, canonical whole⟩

end CommandLine

end FaceAnnotator
