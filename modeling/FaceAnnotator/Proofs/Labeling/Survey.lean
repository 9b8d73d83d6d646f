import FaceAnnotator.Labeling
import Mathlib.Tactic.SplitIfs
/-!
# FaceAnnotator.Proofs.Labeling.Survey

**What a survey finds, said tensor by tensor.**

A survey goes through a frame in two loops, with an early end. Here it is said what comes out of it
without the loops: the first tensor of all that cannot be decoded, or else an assignment for each
tensor that has a label (`outcome_survey`). A tensor has one exactly if it is `Labelable`, which
only its two names decide.
-/

namespace FaceAnnotator

namespace Tensor

/-- Whether a tensor is to have a label: it is not the detector's, and its layer is known. -/
def Labelable (t : Tensor) : Prop :=
  t.name ≠ detectionName ∧ (t.layer = ageLayer ∨ t.layer = genderLayer ∨ t.layer = emotionLayer)

instance : DecidablePred Labelable := fun _ => inferInstanceAs (Decidable (_ ∧ _))

/-- Why a tensor has no label though it is to have one. -/
def undecodable? (t : Tensor) : Option Undecodable :=
  match t.decode with
  | .error e => some e
  | .ok _ => none

/-- The label that can be read out of a tensor. -/
def readable? (t : Tensor) : Option Label := t.decode.toOption.join

theorem decode_of_undecodable?_eq_some {t : Tensor} {e : Undecodable}
    (h : t.undecodable? = some e) :
    t.decode = .error e := by
  unfold undecodable? at h
  split at h
  · rename_i eq
    rw [eq, Option.some.inj h]
  · contradiction

theorem decode_of_undecodable?_eq_none {t : Tensor} (h : t.undecodable? = none) :
    t.decode = .ok t.readable? := by
  unfold undecodable? at h
  split at h
  · contradiction
  · rename_i label eq
    rw [readable?, eq]
    rfl

theorem labelable_iff_kind (t : Tensor) :
    t.Labelable ↔ t.kind ≠ .detection ∧ t.kind ≠ .unknown := by
  unfold Labelable kind Kind.ofNames
  split_ifs <;> simp_all

/-- A kind has labels unless it is the detector's or not known. -/
theorem isSome_of_decode_eq_ok {kind : Kind} {layer : String} {data : List Numeric.Single}
    {label : Option Label} (h : Label.decode kind layer data = .ok label) :
    label.isSome ↔ kind ≠ .detection ∧ kind ≠ .unknown := by
  unfold Label.decode at h
  split at h
  · cases h
    simp
  · cases h
    simp
  · cases read : Label.decodeAge layer data with
    | error e => rw [read] at h; contradiction
    | ok years => rw [read] at h; cases h; simp
  · cases read : Label.decodeGender layer data with
    | error e => rw [read] at h; contradiction
    | ok gender => rw [read] at h; cases h; simp
  · cases read : Label.decodeEmotion layer data with
    | error e => rw [read] at h; contradiction
    | ok emotion => rw [read] at h; cases h; simp

/-- Among the tensors that can be decoded, those that are to have a label have one. -/
theorem isSome_readable?_iff {t : Tensor} (h : t.undecodable? = none) :
    t.readable?.isSome ↔ t.Labelable := by
  rw [labelable_iff_kind]
  exact isSome_of_decode_eq_ok (decode_of_undecodable?_eq_none h)

end Tensor

namespace Frame

/-- All tensors of a frame, region after region. -/
def tensors (f : Frame) : List Tensor := f.regions.flatMap Region.tensors

/-- The first tensor of a frame that has no label though it is to have one, and why. -/
def undecodable? (f : Frame) : Option Undecodable := f.tensors.findSome? Tensor.undecodable?

/-- The labels of the tensors of a region, the first of which stands at a place. -/
def tensorAssignments (region place : Nat) (tensors : List Tensor) : List Assignment :=
  (tensors.zipIdx place).filterMap fun (t, i) => t.readable?.map fun label => ⟨region, i, label⟩

/-- The labels of the tensors of some regions, the first of which stands at a place. -/
def regionAssignments (place : Nat) (regions : List Region) : List Assignment :=
  (regions.zipIdx place).flatMap fun (r, i) => tensorAssignments i 0 r.tensors

/-- All labels, or why there are none. -/
def surveyed (bad : Option Undecodable) (found : List Assignment) :
    Except Undecodable (List Assignment) :=
  match bad with
  | some e => .error e
  | none => .ok found

theorem outcome_surveyTensors (index : UInt64) (region place : Nat) (tensors : List Tensor) :
    (surveyTensors index region place tensors).outcome =
      surveyed (tensors.findSome? Tensor.undecodable?)
        (tensorAssignments region place tensors) := by
  induction tensors generalizing place with
  | nil => rfl
  | cons t tensors ih =>
      simp only [surveyTensors, Survey.andThen, surveyTensor]
      -- A tensor that cannot be decoded ends the loop; any other adds its label to those of
      -- the rest.
      cases bad : t.undecodable? with
      | some e =>
          rw [Tensor.decode_of_undecodable?_eq_some bad]
          simp [bad, surveyed, Except.map]
      | none =>
          rw [Tensor.decode_of_undecodable?_eq_none bad]
          simp only [Except.map, List.findSome?_cons, bad, ih]
          cases tensors.findSome? Tensor.undecodable? with
          | some e => rfl
          | none =>
              cases label : t.readable? <;>
                simp [surveyed, tensorAssignments, label]

theorem outcome_surveyRegions (index : UInt64) (place : Nat) (regions : List Region) :
    (surveyRegions index place regions).outcome =
      surveyed ((regions.flatMap Region.tensors).findSome? Tensor.undecodable?)
        (regionAssignments place regions) := by
  induction regions generalizing place with
  | nil => rfl
  | cons r regions ih =>
      simp only [surveyRegions, Survey.andThen, outcome_surveyTensors, List.flatMap_cons,
        List.findSome?_append]
      cases r.tensors.findSome? Tensor.undecodable? with
      | some e => rfl
      | none =>
          simp only [surveyed, ih, Option.none_or]
          cases (regions.flatMap Region.tensors).findSome? Tensor.undecodable? with
          | some e => rfl
          | none => simp [Except.map, regionAssignments]

/-- A survey finds the first tensor that cannot be decoded, or else all labels. -/
theorem outcome_survey (f : Frame) :
    f.survey.outcome = surveyed f.undecodable? (regionAssignments 0 f.regions) :=
  outcome_surveyRegions f.index 0 f.regions

theorem length_tensorAssignments (region place : Nat) {tensors : List Tensor}
    (h : tensors.findSome? Tensor.undecodable? = none) :
    (tensorAssignments region place tensors).length = tensors.countP (·.Labelable) := by
  induction tensors generalizing place with
  | nil => rfl
  | cons t tensors ih =>
      rw [List.findSome?_eq_none_iff] at h
      have good := Tensor.isSome_readable?_iff (h t List.mem_cons_self)
      have rest := ih (place + 1)
        (List.findSome?_eq_none_iff.2 fun other mem => h other (List.mem_cons_of_mem _ mem))
      simp only [tensorAssignments, List.zipIdx_cons, List.filterMap_cons,
        List.countP_cons] at rest ⊢
      cases label : t.readable? with
      | none =>
          rw [label] at good
          simp only [Option.map_none, rest]
          simp [show ¬t.Labelable from fun l => by simpa using good.2 l]
      | some l =>
          rw [label] at good
          simp only [Option.map_some, List.length_cons, rest]
          simp [good.1 rfl]

/-- A survey finds as many labels as there are tensors that are to have one. -/
theorem length_regionAssignments (place : Nat) {regions : List Region}
    (h : (regions.flatMap Region.tensors).findSome? Tensor.undecodable? = none) :
    (regionAssignments place regions).length =
      (regions.flatMap Region.tensors).countP (·.Labelable) := by
  induction regions generalizing place with
  | nil => rfl
  | cons r regions ih =>
      rw [List.flatMap_cons, List.findSome?_append, Option.or_eq_none_iff] at h
      have first := length_tensorAssignments place 0 h.1
      have rest := ih (place + 1) h.2
      simp only [regionAssignments, List.zipIdx_cons, List.flatMap_cons, List.length_append,
        List.countP_append] at rest ⊢
      rw [first, rest]

/-! ### What labeling leaves as it was -/

@[simp] theorem length_regions_assignAll (f : Frame) (assignments : List Assignment) :
    (f.assignAll assignments).regions.length = f.regions.length := by
  induction assignments generalizing f with
  | nil => rfl
  | cons a rest ih => rw [assignAll_cons, ih]; simp [assign, modifyTensor]

end Frame

end FaceAnnotator
