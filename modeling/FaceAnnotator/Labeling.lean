import FaceAnnotator.Label.Decoding
import FaceAnnotator.Log
/-!
# FaceAnnotator.Labeling

**Labeling a frame**: first every label is read, then all of them are written.

`Frame.survey` goes through the tensors in order and stops at the first that cannot be decoded. It
changes nothing; what it finds are `Assignment`s, each naming a tensor by its two places. Only then
`Frame.assignAll` writes their texts. So a frame with one bad tensor keeps all its old labels.

`Frame.annotate` does both for one frame. An `Annotator` does both for one frame after the other and
remembers how many labels the last one got.
-/

namespace FaceAnnotator

/-- A label and the tensor that it belongs to. -/
structure Assignment where
  /-- The place of the region in the frame. -/
  region : Nat
  /-- The place of the tensor in the region. -/
  tensor : Nat
  /-- The label. -/
  label : Label
deriving DecidableEq, Repr

/-- What going through a frame brings to light. -/
structure Survey where
  /-- A record for each tensor of unknown kind, as far as the survey went. -/
  records : List Record
  /-- All labels in order, or why there are none. -/
  outcome : Except Undecodable (List Assignment)

/-- A frame after it was processed. -/
structure Processed (ε : Type) where
  /-- The frame, changed or not. -/
  frame : Frame
  /-- Whether to go on with the next frame, or what went wrong. -/
  outcome : Except ε Bool

namespace Survey

/-- Nothing to tell and nothing to label. -/
def empty : Survey := ⟨[], .ok []⟩

/-- One survey after another. After a failure nothing more is looked at. -/
def andThen (first : Survey) (second : Survey) : Survey :=
  match first.outcome with
  | .error e => ⟨first.records, .error e⟩
  | .ok found => ⟨first.records ++ second.records, second.outcome.map (found ++ ·)⟩

end Survey

namespace Frame

/-- The record of a tensor whose layer is not known. -/
def unknownLayer (index : UInt64) (layer : String) : Record :=
  .debug .labeling s!"Frame {index}: no decoder for layer '{layer}'"

/-- The survey of one tensor. -/
def surveyTensor (index : UInt64) (region place : Nat) (t : Tensor) : Survey where
  records := if t.kind = .unknown then [unknownLayer index t.layer] else []
  outcome := t.decode.map fun label => label.toList.map fun l => ⟨region, place, l⟩

/-- The survey of the tensors of a region from a place on. -/
def surveyTensors (index : UInt64) (region : Nat) : Nat → List Tensor → Survey
  | _, [] => .empty
  | place, t :: tensors =>
    (surveyTensor index region place t).andThen (surveyTensors index region (place + 1) tensors)

/-- The survey of the regions of a frame from a place on. -/
def surveyRegions (index : UInt64) : Nat → List Region → Survey
  | _, [] => .empty
  | place, r :: regions =>
    (surveyTensors index place 0 r.tensors).andThen (surveyRegions index (place + 1) regions)

/-- All labels of a frame, or the first tensor that has none though it should. -/
def survey (f : Frame) : Survey := surveyRegions f.index 0 f.regions

/-- The frame after one assignment. An assignment to a tensor that is not there changes nothing. -/
def assign (f : Frame) (a : Assignment) : Frame :=
  f.modifyTensor a.region a.tensor fun t => t.withLabel a.label.text

/-- The frame after some assignments, one after the other. -/
def assignAll (f : Frame) (assignments : List Assignment) : Frame := assignments.foldl assign f

/-- The frame with its labels. On a failure it is left as it was. -/
def annotate (f : Frame) : Processed Undecodable :=
  match f.survey.outcome with
  | .ok assignments => ⟨f.assignAll assignments, .ok true⟩
  | .error e => ⟨f, .error e⟩

@[simp] theorem assignAll_nil (f : Frame) : f.assignAll [] = f := rfl
@[simp] theorem assignAll_cons (f : Frame) (a : Assignment) (rest : List Assignment) :
    f.assignAll (a :: rest) = (f.assign a).assignAll rest := rfl
theorem assignAll_append (f : Frame) (before after : List Assignment) :
    f.assignAll (before ++ after) = (f.assignAll before).assignAll after := by
  simp [assignAll]

end Frame

/-- Labels one frame after the other. -/
structure Annotator where
  /-- How many labels the last frame got; none if it could not be labeled. -/
  labelCount : Nat := 0
deriving DecidableEq, Repr

/-- Labels a frame and counts what it wrote. -/
def Annotator.process (_ : Annotator) (f : Frame) : Annotator × Processed Undecodable :=
  match f.survey.outcome with
  | .ok assignments => (⟨assignments.length⟩, ⟨f.assignAll assignments, .ok true⟩)
  | .error e => (⟨0⟩, ⟨f, .error e⟩)

end FaceAnnotator
