import FaceAnnotator.Proofs.Labeling.Assignment
import FaceAnnotator.Proofs.Labeling.Pointwise
import Mathlib.Data.Finset.Card
/-!
# FaceAnnotator.Proofs.Labeling.History

**An annotator has no memory, and its count is that of the labels it set.**

An annotator counts the assignments of a survey before anybody knows what writing them does. What it
does is said here by going along with the writing: an assignment sets a label if the tensor carries
its text once it is written (`Frame.writtenTo`). A survey names each tensor at most once and none
that is not there, so every assignment sets the label of a tensor of its own
(`IsLabeling.card_writtenTo`). These tensors are those that are to have a label, they still carry
the texts when all is written, and no other tensor is touched (`IsLabeling.labelsSet`).
-/

namespace FaceAnnotator

/-! ### Labels that are set -/

namespace Frame

/-- The places at which a label is set while assignments are written one after the other. -/
def writtenTo (f : Frame) : List Assignment → List (Nat × Nat)
  | [] => []
  | a :: rest =>
    let later := (f.assign a).writtenTo rest
    -- An assignment to a tensor that is not there is lost.
    if (f.assign a).label? a.region a.tensor = some a.label.text then a.place :: later else later

theorem isSome_tensor?_assign (f : Frame) (a : Assignment) (i j : Nat) :
    ((f.assign a).tensor? i j).isSome = (f.tensor? i j).isSome := by
  rw [tensor?_assign]
  split
  · exact Option.isSome_map
  · rfl

/-- A label is set wherever there is an assignment and a tensor to take it. -/
theorem mem_writtenTo {f : Frame} {assignments : List Assignment} {i j : Nat} :
    (i, j) ∈ f.writtenTo assignments ↔
      (f.tensor? i j).isSome ∧ ∃ a ∈ assignments, a.place = (i, j) := by
  induction assignments generalizing f with
  | nil => simp [writtenTo]
  | cons a rest ih =>
      have later : (i, j) ∈ (f.assign a).writtenTo rest ↔
          (f.tensor? i j).isSome ∧ ∃ b ∈ rest, b.place = (i, j) := by
        rw [ih, isSome_tensor?_assign]
      by_cases here : a.place = (i, j)
      · obtain ⟨rfl, rfl⟩ := Prod.mk.inj here
        by_cases there : (f.tensor? a.region a.tensor).isSome
        · simp [writtenTo, label?_assign_eq_iff, there, Assignment.place]
        · simp [writtenTo, label?_assign_eq_iff, there, later]
      · simp only [List.exists_mem_cons_iff, here, false_or, ← later, writtenTo]
        split
        · simp [Ne.symm here]
        · rfl

/-- If all tensors are there, each assignment sets a label. -/
theorem writtenTo_eq_map {f : Frame} {assignments : List Assignment}
    (h : ∀ a ∈ assignments, (f.tensor? a.region a.tensor).isSome) :
    f.writtenTo assignments = assignments.map Assignment.place := by
  induction assignments generalizing f with
  | nil => rfl
  | cons a rest ih =>
      have later : (f.assign a).writtenTo rest = rest.map Assignment.place :=
        ih fun b mem => by rw [isSome_tensor?_assign]; exact h b (List.mem_cons_of_mem a mem)
      have taken := (label?_assign_eq_iff f a).2 (h a List.mem_cons_self)
      rw [writtenTo, later, if_pos taken, List.map_cons]

/-- Where no label is set, the tensor is the same when all is written. -/
theorem tensor?_assignAll_of_notMem {f : Frame} {assignments : List Assignment} {i j : Nat}
    (h : (i, j) ∉ f.writtenTo assignments) :
    (f.assignAll assignments).tensor? i j = f.tensor? i j := by
  rw [tensor?_assignAll]
  cases found : f.tensor? i j with
  | none => rfl
  | some t =>
      have unassigned : assignmentsAt i j assignments = [] := by
        refine List.eq_nil_iff_forall_not_mem.2 fun a mem => h (mem_writtenTo.2 ?_)
        obtain ⟨given, region, tensor⟩ := mem_assignmentsAt.1 mem
        exact ⟨by rw [found]; rfl, a, given, Prod.ext region tensor⟩
      rw [unassigned]
      rfl

/-- Where a label is set, the tensor carries the text of an assignment to it when all is written. -/
theorem tensor?_assignAll_of_mem {f : Frame} {assignments : List Assignment} {i j : Nat}
    (h : (i, j) ∈ f.writtenTo assignments) :
    ∃ a ∈ assignments, a.place = (i, j) ∧ ∃ t, f.tensor? i j = some t ∧
      (f.assignAll assignments).tensor? i j = some (t.withLabel a.label.text) := by
  obtain ⟨there, b, mem, place⟩ := mem_writtenTo.1 h
  obtain ⟨t, found⟩ := Option.isSome_iff_exists.1 there
  obtain ⟨region, tensor⟩ := Prod.mk.inj place
  have assigned : assignmentsAt i j assignments ≠ [] :=
    List.ne_nil_of_mem (mem_assignmentsAt.2 ⟨mem, region, tensor⟩)
  -- Of several assignments the last one counts.
  obtain ⟨mem, region, tensor⟩ := mem_assignmentsAt.1 (List.getLast_mem assigned)
  refine ⟨_, mem, Prod.ext region tensor, t, found, ?_⟩
  rw [tensor?_assignAll, found, Option.map_some, Tensor.assigned,
    List.getLast?_eq_some_getLast assigned]

/-- What the writing of assignments leaves of a frame: the labels of its own tensors are set, and
nothing else is changed. -/
structure LabelsSet (f : Frame) (assignments : List Assignment) (after : Frame) : Prop where
  /-- Labels are set at the places of the tensors that are to have one. -/
  places : ∀ i j, (i, j) ∈ f.writtenTo assignments ↔ ∃ t, f.tensor? i j = some t ∧ t.Labelable
  /-- A tensor whose label is set carries the text that was assigned to it, and this text tells what
  the tensor itself says. -/
  carries : ∀ i j, (i, j) ∈ f.writtenTo assignments →
    ∃ a ∈ assignments, a.place = (i, j) ∧ ∃ t, f.tensor? i j = some t ∧
      t.decode = .ok (some a.label) ∧ after.tensor? i j = some (t.withLabel a.label.text)
  /-- Every other tensor is as it was. -/
  keeps : ∀ i j, (i, j) ∉ f.writtenTo assignments → after.tensor? i j = f.tensor? i j
  /-- All that is no label is as it was, too. -/
  outline : after.unlabeled = f.unlabeled

namespace IsLabeling

variable {f : Frame} {assignments : List Assignment}

/-- Each assignment of a labeling sets the label of a tensor of its own. -/
theorem card_writtenTo (h : f.IsLabeling assignments) :
    (f.writtenTo assignments).toFinset.card = assignments.length := by
  have there : ∀ a ∈ assignments, (f.tensor? a.region a.tensor).isSome := by
    intro a mem
    obtain ⟨t, found, -⟩ := h.sound a mem
    rw [found, Option.isSome_some]
  rw [writtenTo_eq_map there, List.toFinset_card_of_nodup (nodup_place h.ordered), List.length_map]

/-- To write a labeling sets its labels and nothing else. -/
theorem labelsSet (h : f.IsLabeling assignments) :
    f.LabelsSet assignments (f.assignAll assignments) where
  places i j := by
    constructor
    · intro written
      obtain ⟨-, a, mem, place⟩ := mem_writtenTo.1 written
      obtain ⟨rfl, rfl⟩ := Prod.mk.inj place
      obtain ⟨t, found, labelable, -⟩ := h.sound a mem
      exact ⟨t, found, labelable⟩
    · rintro ⟨t, found, labelable⟩
      obtain ⟨label, mem⟩ := h.complete i j t found labelable
      exact mem_writtenTo.2 ⟨by rw [found]; rfl, _, mem, rfl⟩
  carries i j written := by
    obtain ⟨a, mem, place, t, found, after⟩ := tensor?_assignAll_of_mem written
    obtain ⟨rfl, rfl⟩ := Prod.mk.inj place
    obtain ⟨u, found', -, decoded⟩ := h.sound a mem
    cases found.symm.trans found'
    exact ⟨a, mem, rfl, t, found, decoded, after⟩
  keeps _ _ := tensor?_assignAll_of_notMem
  outline := unlabeled_assignAll f assignments

end IsLabeling

end Frame

/-! ### Frame after frame -/

/-- What comes of a frame that an annotator labels. -/
structure Report where
  /-- The frame afterwards, and what went wrong if anything did. -/
  processed : Processed Undecodable
  /-- How many labels the annotator says it wrote. -/
  labelCount : Nat

/-- An annotator labels one frame after the other. -/
def Annotator.reports (a : Annotator) : List Frame → List Report
  | [] => []
  | f :: frames =>
    let (a, processed) := a.process f
    ⟨processed, a.labelCount⟩ :: a.reports frames

namespace Frame

/-- A report on a frame says what comes of this frame alone. -/
structure Reported (f : Frame) (report : Report) : Prop where
  /-- The frame and the outcome are those of labeling without an annotator. -/
  alone : report.processed = f.annotate
  /-- Either all went well: the labels of the survey, and nothing else, are set in the frame, and
  the count is that of the tensors whose label was set, which are those that are to have one. Or
  something went wrong, and the frame is as it was and nothing is counted. -/
  counted :
    (∃ assignments, f.survey.outcome = .ok assignments ∧
        report.processed = ⟨f.assignAll assignments, .ok true⟩ ∧
        f.LabelsSet assignments report.processed.frame ∧
        report.labelCount = (f.writtenTo assignments).toFinset.card ∧
        report.labelCount = f.tensors.countP (·.Labelable)) ∨
      ∃ cause, f.survey.outcome = .error cause ∧
        report.processed = ⟨f, .error cause⟩ ∧ report.labelCount = 0

/-- Whatever an annotator labeled before, its report on the next frame is about this frame alone. -/
theorem reported_process (a : Annotator) (f : Frame) :
    f.Reported ⟨(a.process f).2, (a.process f).1.labelCount⟩ where
  alone := process_eq_annotate a f
  counted := by
    unfold Annotator.process
    cases bad : f.undecodable? with
    | some cause =>
        have found : f.survey.outcome = .error cause := by rw [outcome_survey, bad]; rfl
        rw [found]
        exact .inr ⟨cause, rfl, rfl, rfl⟩
    | none =>
        have found : f.survey.outcome = .ok (regionAssignments 0 f.regions) := by
          rw [outcome_survey, bad]; rfl
        have labeling := isLabeling_regionAssignments (List.findSome?_eq_none_iff.1 bad)
        rw [found]
        exact .inl ⟨_, rfl, rfl, labeling.labelsSet, labeling.card_writtenTo.symm,
          length_regionAssignments 0 bad⟩

/-- An annotator in any state reports on any frames, one after the other, what comes of each alone:
the same frame and the same outcome as without it, and the number of the tensors whose label was
set, which is none after a failure. -/
theorem reported_one_by_one (a : Annotator) (frames : List Frame) :
    List.Forall₂ Reported frames (a.reports frames) := by
  induction frames generalizing a with
  | nil => exact .nil
  | cons f frames ih => exact .cons (reported_process a f) (ih (a.process f).1)

end Frame

end FaceAnnotator
