import FaceAnnotator.Numeric.Binary
/-!
# FaceAnnotator.Frame.Basic

**Frames, regions and tensors.**

A *frame* is one step of a recording. It holds the *regions* in which a face was found, and every
region holds *tensors*, the raw outputs of the classifiers that looked at it. A tensor may carry a
*label*, the text that is shown for it; an unset label and an empty one are different.

Data is kept as words (`FaceAnnotator.Numeric.Single`), so two frames can be compared in two ways:
`=` compares words, and `Frame.sameAs` compares numbers, for which the two zeros are equal and a
word that is no number equals nothing.
-/

namespace FaceAnnotator

open Numeric

/-- One named output of a classifier. -/
structure Tensor where
  /-- What the recording calls the tensor. -/
  name : String
  /-- The layer of the classifier that it comes from. -/
  layer : String
  /-- The outputs. -/
  data : List Single
  /-- The text that is shown for the tensor, once there is one. -/
  label : Option String := none
deriving DecidableEq

/-- A rectangle with a face in it. -/
structure Region where
  /-- The left edge. -/
  x : Int32
  /-- The upper edge. -/
  y : Int32
  /-- The extent to the right. -/
  width : Int32
  /-- The extent downwards. -/
  height : Int32
  /-- What the classifiers said about the face. -/
  tensors : List Tensor := []
deriving DecidableEq

/-- One step of a recording. -/
structure Frame where
  /-- The number of the frame in its source. -/
  index : UInt64
  /-- The faces in it. -/
  regions : List Region := []
deriving DecidableEq

instance : Inhabited Frame := ⟨⟨0, []⟩⟩

namespace Tensor

/-- The tensor with another label. -/
def withLabel (t : Tensor) (label : String) : Tensor := { t with label := some label }

/-- Numerical equality of data, equality of everything else. -/
def sameAs (s t : Tensor) : Bool :=
  s.name == t.name && s.layer == t.layer && s.data.isEqv t.data Binary.equals && s.label == t.label

@[simp] theorem name_withLabel (t : Tensor) (label : String) : (t.withLabel label).name = t.name :=
  rfl
@[simp] theorem layer_withLabel (t : Tensor) (label : String) :
    (t.withLabel label).layer = t.layer := rfl
@[simp] theorem data_withLabel (t : Tensor) (label : String) : (t.withLabel label).data = t.data :=
  rfl
@[simp] theorem label_withLabel (t : Tensor) (label : String) :
    (t.withLabel label).label = some label := rfl

end Tensor

namespace Region

/-- The region with one more tensor, after all others. -/
def addTensor (r : Region) (t : Tensor) : Region := { r with tensors := r.tensors ++ [t] }

/-- The region with the tensor at a place changed; the region itself if it has no such tensor. -/
def modifyTensor (r : Region) (place : Nat) (change : Tensor → Tensor) : Region :=
  { r with tensors := r.tensors.modify place change }

/-- Numerical equality of data, equality of everything else. -/
def sameAs (r s : Region) : Bool :=
  r.x == s.x && r.y == s.y && r.width == s.width && r.height == s.height &&
    r.tensors.isEqv s.tensors Tensor.sameAs

@[simp] theorem tensors_addTensor (r : Region) (t : Tensor) :
    (r.addTensor t).tensors = r.tensors ++ [t] := rfl
@[simp] theorem tensors_modifyTensor (r : Region) (place : Nat) (change : Tensor → Tensor) :
    (r.modifyTensor place change).tensors = r.tensors.modify place change := rfl

end Region

namespace Frame

/-- The tensor at a place of the region at another place. -/
def tensor? (f : Frame) (region place : Nat) : Option Tensor :=
  f.regions[region]?.bind fun r => r.tensors[place]?

/-- The frame with one tensor changed; the frame itself if it has no such tensor. -/
def modifyTensor (f : Frame) (region place : Nat) (change : Tensor → Tensor) : Frame :=
  { f with regions := f.regions.modify region fun r => r.modifyTensor place change }

/-- Numerical equality of data, equality of everything else. -/
def sameAs (f g : Frame) : Bool := f.index == g.index && f.regions.isEqv g.regions Region.sameAs

/-- A change reaches the tensor that it is meant for and no other. -/
theorem tensor?_modifyTensor (f : Frame) (region place : Nat) (change : Tensor → Tensor)
    (region' place' : Nat) :
    (f.modifyTensor region place change).tensor? region' place' =
      if region = region' ∧ place = place' then (f.tensor? region' place').map change
      else f.tensor? region' place' := by
  cases h : f.regions[region']? with
  | none => simp [tensor?, modifyTensor, List.getElem?_modify, h]
  | some r =>
    by_cases hr : region = region' <;> by_cases hp : place = place' <;>
      simp [tensor?, modifyTensor, h, hr, hp]

end Frame

end FaceAnnotator
