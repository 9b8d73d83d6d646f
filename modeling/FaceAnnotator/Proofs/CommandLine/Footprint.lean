import FaceAnnotator.Proofs.CommandLine.Safety
import FaceAnnotator.Proofs.Recording.Confined
/-!
# FaceAnnotator.Proofs.CommandLine.Footprint

**All that a command leaves behind in the files.**

In surroundings in which anything may fail, a command that is not let pass or has no output leaves
the files as they were. Any other leaves the footprint of its output, however far it comes
(`main_footprint`).
-/

namespace FaceAnnotator.CommandLine

open FileSystem
open Session (KeepsFiles)

variable {h : Host (StateM World) Handle} {log : Record → StateM World Unit} {a : Arguments}
  {w : World}

/-! ### Looking at the paths -/

section validation

variable (confined : h.Confined)
include confined

theorem keepsFiles_enterAll (place : Location) (segments : List String) :
    KeepsFiles (enterAll h place segments) := by
  induction segments generalizing place with
  | nil => exact .done place
  | cons segment rest ih =>
      refine .bind ?_ ih
      unfold enter
      split
      · exact .done _
      · refine (confined.canonicalize _).bind fun found => ?_
        cases found <;> exact .done _

theorem keepsFiles_resolvePath (path : Path) : KeepsFiles (resolvePath h path) := by
  have start : KeepsFiles (startOf h path) := by
    unfold startOf
    split
    · exact .done _
    · exact confined.workingDirectory
  refine start.bind fun start => ?_
  cases start with
  | none => exact .done _
  | some place => exact (keepsFiles_enterAll confined place _).bind fun _ => .done _

theorem keepsFiles_validate (a : Arguments) : KeepsFiles (validate h a) := by
  refine (confined.pathExists _).bind fun there => ?_
  split
  · exact .done _
  split
  · exact .done _
  split
  · exact .done _
  · rename_i output _
    have compared : KeepsFiles (isSameFile h ⟨a.input⟩ ⟨output⟩) := by
      refine (confined.canonicalize _).bind fun real => ?_
      cases real with
      | error cause => exact .done _
      | ok real => exact (keepsFiles_resolvePath confined _).bind fun _ => .done _
    refine compared.bind fun same => ?_
    split <;> exact .done _

end validation

/-! ### Carrying out a command -/

/-- Opening an output leaves a footprint, and an output that was opened is the file that its
path leads to. -/
theorem leaves_openOutput (confined : h.Confined) {before : FileSystem} (path : String) :
    Leaves (fun w => w.files = before) (openOutput h (some path)) fun outcome w =>
      Footprint before ⟨path⟩ w.files ∧
        ∀ output, outcome = .ok output →
          ∃ location, Traced before ⟨path⟩ location output w.files := by
  refine .bind (confined.leaves_createRecording path)
    fun outcome => .done fun w placed => ⟨placed.1, ?_⟩
  intro output opened
  cases outcome with
  | error cause => cases opened
  | ok handle =>
      cases opened
      exact ⟨handle.location, ⟨handle, rfl, rfl⟩, placed.2 handle rfl, placed.1⟩

section execution

variable (confined : h.Confined) (quiet : ∀ record, KeepsFiles (log record))
include confined quiet

/-- A run preserves what writing to the output preserves, whatever is read and whatever is
found in it. -/
theorem leaves_runInto {D : Output Handle → FileSystem → Prop}
    (hd : h.outputDevice.Preserves D True) (output : Output Handle) :
    Leaves (fun w => D output w.files) (runInto h log a output) fun _ w =>
      ∃ output, D output w.files := by
  have upholds : Session.Upholds (fun path => h.contents ⟨path⟩) (buffered h.outputDevice) log h.now
      a.input (fun _ => True) (fun v w => D v.device.inner w.files) True :=
    Session.upholds_device hd.buffered (confined.contents _) quiet confined.now
      (fun _ _ _ _ _ => trivial) (fun _ _ => trivial) fun _ _ _ _ _ => trivial
  intro w holds
  obtain ⟨v, kept⟩ := runInto_upholds upholds (Session.leaves_abandon hd.buffered) trivial w holds
  exact ⟨_, kept⟩

/-- What holds of an output that was opened holds in the end. -/
theorem execute_preserves {D : Output Handle → FileSystem → Prop}
    (hd : h.outputDevice.Preserves D True) {output : Output Handle} {w' : World}
    (valid : (validate h a w).1 = .ok ())
    (opened : openOutput h a.output (validate h a w).2 = (.ok output, w'))
    (holds : D output w'.files) :
    ∃ output, D output (execute h log a w).2.files := by
  have passed : validate h a w = (.ok (), (validate h a w).2) := Prod.ext valid rfl
  have ran : execute h log a w = _ := (bind_run passed).trans (bind_run opened)
  rw [ran]
  refine Leaves.bind (R := fun _ w => ∃ output, D output w.files)
    (leaves_runInto confined quiet hd output) (fun outcome => ?_) w' holds
  cases outcome with
  | error cause => exact .done fun _ kept => kept
  | ok stats =>
      exact .bind ((keepsFiles_logAll quiet _).leaves fun files => ∃ output, D output files)
        fun _ => .done fun _ kept => kept

omit quiet in
/-- A command that is not let pass leaves the files alone. -/
theorem files_execute_of_objection {cause : Objection}
    (objected : (validate h a w).1 = .error cause) :
    (execute h log a w).2.files = w.files := by
  have stopped : validate h a w = (.error cause, (validate h a w).2) := Prod.ext objected rfl
  have ran : execute h log a w = _ := bind_run stopped
  rw [ran]
  exact keepsFiles_validate confined a w

/-- A command without an output leaves the files alone. -/
theorem files_execute_of_no_output (none : a.output = none) :
    (execute h log a w).2.files = w.files := by
  have looked := keepsFiles_validate confined a w
  cases valid : (validate h a w).1 with
  | error cause => exact files_execute_of_objection confined valid
  | ok _ =>
      have opened : openOutput h a.output (validate h a w).2 =
          (.ok .console, (validate h a w).2) := by
        rw [none]
        rfl
      obtain ⟨-, -, kept⟩ :=
        execute_preserves confined quiet (confined.preserves_console w.files) valid opened
          ⟨rfl, looked⟩
      exact kept

/-- A command leaves the footprint of its output. If the output was opened, its path leads to the
file that was opened, then and in the end. -/
theorem footprint_execute {path : String} (to_path : a.output = some path) :
    let opened := openOutput h a.output (validate h a w).2
    let after := (execute h log a w).2.files
    Footprint w.files ⟨path⟩ after ∧
      ((validate h a w).1 = .ok () → ∀ handle, opened.1 = .ok (.file handle) →
        opened.2.files.resolve .reading ⟨path⟩ = .ok (.file handle.location) ∧
          after.resolve .reading ⟨path⟩ = .ok (.file handle.location)) := by
  intro opened after
  have looked := keepsFiles_validate confined a w
  cases valid : (validate h a w).1 with
  | error cause =>
      have same : after = w.files := files_execute_of_objection confined valid
      rw [same]
      exact ⟨(Made.refl w.files _).footprint, fun passed => nomatch passed⟩
  | ok _ =>
      have passed : validate h a w = (.ok (), (validate h a w).2) := Prod.ext valid rfl
      obtain ⟨footprint, traced⟩ := leaves_openOutput confined path (validate h a w).2 looked
      rw [← to_path] at footprint traced
      rcases outcome : opened.1 with cause | output
      · have ran : execute h log a w = _ :=
          (bind_run passed).trans (bind_run (Prod.ext outcome rfl))
        have same : after = opened.2.files := congrArg (fun ran => ran.2.files) ran
        rw [same]
        exact ⟨footprint, fun _ _ eq => nomatch eq⟩
      · obtain ⟨location, before⟩ := traced output outcome
        obtain ⟨later, ended⟩ := execute_preserves confined quiet
          (confined.preserves_traced w.files ⟨path⟩ location) valid (Prod.ext outcome rfl) before
        refine ⟨ended.footprint, ?_⟩
        rintro - handle ⟨⟩
        obtain ⟨_, ⟨⟩, here⟩ := before.handle
        rw [here]
        exact ⟨before.leads, ended.leads⟩

end execution

/-! ### The command -/

/-- Reporting aside, a command does to the files what carrying it out does. -/
theorem files_main (confined : h.Confined) (filter : Option String) {arguments : List String}
    (parsed : Arguments.parse arguments = .ok a) :
    let begun := (reportAll h (filterOf filter).2 w).2
    begun.files = w.files ∧ (main h filter arguments w).2.files =
      (execute h (logThrough h (filterOf filter).1) a begun).2.files := by
  intro begun
  refine ⟨keepsFiles_reportAll confined.report _ w, ?_⟩
  have started : reportAll h (filterOf filter).2 w = ((), begun) := rfl
  have ran : main h filter arguments w = _ := bind_run started
  rw [ran, parsed]
  refine KeepsFiles.after (fun outcome => ?_) (execute h (logThrough h (filterOf filter).1) a) begun
  cases outcome with
  | error failure => exact (confined.report _).bind fun _ => .done 1
  | ok _ => exact .done 0

/-- In surroundings in which anything may fail, a command that is not let pass or has no output
leaves the files as they were. Any other leaves its footprint: new directories at beginnings of the
path of the output, and the file that the path leads to, which is the one that was opened if one
was. Everything else that was there is there as it was. -/
theorem main_footprint (confined : h.Confined) (filter : Option String) {arguments : List String}
    (parsed : Arguments.parse arguments = .ok a) (w : World) :
    let begun := (reportAll h (filterOf filter).2 w).2
    let validated := validate h a begun
    let opened := openOutput h a.output validated.2
    let after := (main h filter arguments w).2.files
    (validated.1 ≠ .ok () ∨ a.output = none → after = w.files) ∧
      (∀ path ∈ a.output, Footprint w.files ⟨path⟩ after ∧
        (validated.1 = .ok () → ∀ handle, opened.1 = .ok (.file handle) →
          opened.2.files.resolve .reading ⟨path⟩ = .ok (.file handle.location) ∧
            after.resolve .reading ⟨path⟩ = .ok (.file handle.location))) ∧
      ∀ location entry, w.files.find? location = some entry →
        after.find? location = some entry ∨ ∃ old new, entry = .file old ∧
          after.find? location = some (.file new) ∧
            ∃ path ∈ a.output, after.resolve .reading ⟨path⟩ = .ok (.file location) := by
  intro begun validated opened after
  have quiet := keepsFiles_logThrough confined.report (filterOf filter).1
  obtain ⟨same, ended⟩ := files_main confined filter parsed (w := w)
  have after_eq : after = (execute h (logThrough h (filterOf filter).1) a begun).2.files := ended
  rw [← same, after_eq]
  refine ⟨?_, ?_, ?_⟩
  · rintro (refused | none)
    · rcases outcome : validated.1 with cause | _
      · exact files_execute_of_objection confined outcome
      · exact absurd outcome refused
    · exact files_execute_of_no_output confined quiet none
  · exact fun path to_path => footprint_execute confined quiet to_path
  · intro location entry found
    cases out : a.output with
    | none =>
        rw [files_execute_of_no_output confined quiet out]
        exact .inl found
    | some path =>
        obtain ⟨footprint, -⟩ := footprint_execute confined quiet (w := begun) out
        rcases footprint.keeps found with kept | ⟨old, new, file, later, leads⟩
        · exact .inl kept
        · exact .inr ⟨old, new, file, later, path, rfl, leads⟩

/-- A recording of two frames, and a link to a directory that is in another. -/
def crossed : World where
  files :=
    { entries :=
        [(["in.jsonl"], .file (Text.encode "\x7b\"index\":0\x7d\n\x7b\"index\":1\x7d\n".toList)),
          (["d"], .directory), (["d", "e"], .directory), (["l"], .link "d/e")] }

/-- The disk is full when the frames are written. By then there are two directories behind the link,
and the file ends in the middle of the second frame. -/
theorem main_footprint_on_full_disk :
    let h := World.faulty (fun time => decide (8 ≤ time))
      (.other "No space left on device (os error 28)")
    let arguments := ["in.jsonl", "l/x/../y/out.jsonl"]
    let a : Arguments := { input := "in.jsonl", output := some "l/x/../y/out.jsonl" }
    let after := (main h none arguments crossed).2.files
    h.Confined ∧ Arguments.parse arguments = .ok a ∧
      Footprint crossed.files ⟨"l/x/../y/out.jsonl"⟩ after ∧
      after.find? ["d", "e", "x"] = some .directory ∧
      after.find? ["d", "e", "y"] = some .directory ∧
      after.find? ["d", "e", "y", "out.jsonl"] =
        some (.file
          (Text.encode "\x7b\"index\":0,\"regions\":[]\x7d\n\x7b\"index\":1,\"".toList)) := by
  intro h arguments a after
  have confined : h.Confined := World.confined_faulty _ _
  have parsed : Arguments.parse arguments = .ok a := eq_ok_of_toOption (by decide +kernel)
  obtain ⟨-, footprint, -⟩ := main_footprint confined none parsed crossed
  refine ⟨confined, parsed, (footprint _ rfl).1, ?_, ?_, ?_⟩
  · decide +kernel
  · decide +kernel
  · decide +kernel

end FaceAnnotator.CommandLine
