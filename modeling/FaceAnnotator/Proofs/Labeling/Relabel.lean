import FaceAnnotator.Proofs.Labeling.Survey
/-!
# FaceAnnotator.Proofs.Labeling.Relabel

**Labeling a frame is labeling each of its tensors.**

A frame that can be labeled gets on each tensor what that tensor alone says, and nothing else
changes (`annotate_of_decodable`). What a tensor says does not depend on its label, so to label a
frame twice is to label it once.
-/

namespace FaceAnnotator

namespace Tensor

/-- The tensor with its label, if one can be read out of it. -/
def relabel (t : Tensor) : Tensor :=
  match t.readable? with
  | some label => t.withLabel label.text
  | none => t

theorem relabel_eq (t : Tensor) : ∃ label, t.relabel = { t with label := label } := by
  unfold relabel
  split
  · exact ⟨_, rfl⟩
  · exact ⟨t.label, rfl⟩

@[simp] theorem name_relabel (t : Tensor) : t.relabel.name = t.name := by
  obtain ⟨label, eq⟩ := t.relabel_eq
  rw [eq]

@[simp] theorem layer_relabel (t : Tensor) : t.relabel.layer = t.layer := by
  obtain ⟨label, eq⟩ := t.relabel_eq
  rw [eq]

@[simp] theorem data_relabel (t : Tensor) : t.relabel.data = t.data := by
  obtain ⟨label, eq⟩ := t.relabel_eq
  rw [eq]

theorem decode_relabel (t : Tensor) : t.relabel.decode = t.decode := by
  obtain ⟨label, eq⟩ := t.relabel_eq
  rw [eq]
  rfl

@[simp] theorem undecodable?_relabel (t : Tensor) : t.relabel.undecodable? = t.undecodable? := by
  rw [undecodable?, decode_relabel, ← undecodable?]

@[simp] theorem readable?_relabel (t : Tensor) : t.relabel.readable? = t.readable? := by
  rw [readable?, decode_relabel, ← readable?]

@[simp] theorem labelable_relabel (t : Tensor) : t.relabel.Labelable ↔ t.Labelable := by
  simp [Labelable]

theorem relabel_relabel (t : Tensor) : t.relabel.relabel = t.relabel := by
  have again := t.readable?_relabel
  unfold relabel at again ⊢
  cases label : t.readable? with
  | none => simp [label]
  | some l =>
      rw [label] at again
      dsimp only at again ⊢
      rw [again]
      rfl

end Tensor

/-- The region with the labels that can be read out of its tensors. -/
def Region.relabel (r : Region) : Region := { r with tensors := r.tensors.map Tensor.relabel }

/-- The element behind a list is found by the length of the list. -/
theorem modify_length {α : Type} (before behind : List α) (x : α) (change : α → α) :
    (before ++ x :: behind).modify before.length change = before ++ change x :: behind := by
  induction before with
  | nil => rfl
  | cons y before ih => simpa using ih

namespace Frame

/-- The frame with the labels that can be read out of its tensors. -/
def relabel (f : Frame) : Frame := { f with regions := f.regions.map Region.relabel }

theorem assignAll_tensorAssignments (f : Frame) (above below : List Region) (r : Region)
    (before tensors : List Tensor) :
    assignAll { f with regions := above ++ { r with tensors := before ++ tensors } :: below }
        (tensorAssignments above.length before.length tensors) =
      { f with
        regions :=
          above ++ { r with tensors := before ++ tensors.map Tensor.relabel } :: below } := by
  induction tensors generalizing before with
  | nil => rfl
  | cons t tensors ih =>
      have later := ih (before ++ [t.relabel])
      have place : (before ++ [t.relabel]).length = before.length + 1 := by simp
      rw [place] at later
      simp only [List.append_assoc, List.singleton_append] at later
      rw [List.map_cons, ← later]
      unfold tensorAssignments
      rw [List.zipIdx_cons, List.filterMap_cons]
      cases label : t.readable? with
      | none =>
          have same : t.relabel = t := by rw [Tensor.relabel, label]
          simp only [label, Option.map_none, same]
      | some l =>
          have changed : t.relabel = t.withLabel l.text := by rw [Tensor.relabel, label]
          simp only [label, Option.map_some, assignAll_cons, changed]
          simp only [assign, modifyTensor, Region.modifyTensor, modify_length]

theorem assignAll_regionAssignments (f : Frame) (above regions : List Region) :
    assignAll { f with regions := above ++ regions } (regionAssignments above.length regions) =
      { f with regions := above ++ regions.map Region.relabel } := by
  induction regions generalizing above with
  | nil => rfl
  | cons r regions ih =>
      have first := f.assignAll_tensorAssignments above regions r [] r.tensors
      have later := ih (above ++ [r.relabel])
      have place : (above ++ [r.relabel]).length = above.length + 1 := by simp
      rw [place] at later
      simp only [List.append_assoc, List.singleton_append] at later
      unfold regionAssignments at later ⊢
      rw [List.zipIdx_cons, List.flatMap_cons, assignAll_append]
      simp only [List.nil_append, List.length_nil] at first
      rw [first]
      exact later

/-- A frame all of whose tensors can be decoded gets all labels that there are. -/
theorem annotate_of_decodable {f : Frame} (h : f.undecodable? = none) :
    f.annotate = ⟨f.relabel, .ok true⟩ := by
  have all := f.assignAll_regionAssignments [] f.regions
  simp only [List.nil_append, List.length_nil] at all
  simp only [annotate, f.outcome_survey, h, surveyed]
  rw [all]
  rfl

theorem annotate_of_undecodable {f : Frame} {cause : Undecodable}
    (h : f.undecodable? = some cause) :
    f.annotate = ⟨f, .error cause⟩ := by
  simp only [annotate, f.outcome_survey, h, surveyed]

theorem tensors_relabel (f : Frame) : f.relabel.tensors = f.tensors.map Tensor.relabel := by
  simp [tensors, relabel, List.flatMap_map, List.map_flatMap, Region.relabel]

@[simp] theorem undecodable?_relabel (f : Frame) : f.relabel.undecodable? = f.undecodable? := by
  simp [undecodable?, tensors_relabel, List.findSome?_map, Function.comp_def]

@[simp] theorem length_regions_relabel (f : Frame) :
    f.relabel.regions.length = f.regions.length := by
  simp [relabel]

theorem countP_labelable_relabel (f : Frame) :
    f.relabel.tensors.countP (·.Labelable) = f.tensors.countP (·.Labelable) := by
  simp [tensors_relabel, List.countP_map, Function.comp_def]

/-- To label a frame again changes nothing. -/
theorem relabel_relabel (f : Frame) : f.relabel.relabel = f.relabel := by
  simp [relabel, Region.relabel, Tensor.relabel_relabel]

end Frame

end FaceAnnotator
