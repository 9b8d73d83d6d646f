import FaceAnnotator.Frame.Basic
/-!
# FaceAnnotator.Label.Kind

**What a tensor carries**, told from its two names alone.

The name that marks the detector's own output wins over any layer. After that the layer decides; a
layer that is not known is no error, its tensor merely goes unlabeled.
-/

namespace FaceAnnotator.Tensor

/-- What a tensor carries. -/
inductive Kind where
  /-- The detector's rectangle and confidence, which are never labeled. -/
  | detection
  /-- The age regression. -/
  | age
  /-- The gender probabilities. -/
  | gender
  /-- The emotion probabilities. -/
  | emotion
  /-- The output of a layer that is not known. -/
  | unknown
deriving DecidableEq, Repr

/-- The name of the detector's output. -/
def detectionName : String := "detection"

/-- The layer of the age regression. -/
def ageLayer : String := "age_conv3"

/-- The layer of the gender probabilities. -/
def genderLayer : String := "prob"

/-- The layer of the emotion probabilities. -/
def emotionLayer : String := "prob_emotion"

/-- The kind of a tensor with a name and a layer. -/
def Kind.ofNames (name layer : String) : Kind :=
  if name = detectionName then .detection
  else if layer = ageLayer then .age
  else if layer = genderLayer then .gender
  else if layer = emotionLayer then .emotion
  else .unknown

/-- The kind of a tensor. -/
def kind (t : Tensor) : Kind := Kind.ofNames t.name t.layer

/-- A label does not change what a tensor carries. -/
@[simp] theorem kind_withLabel (t : Tensor) (label : String) : (t.withLabel label).kind = t.kind :=
  rfl

end FaceAnnotator.Tensor
