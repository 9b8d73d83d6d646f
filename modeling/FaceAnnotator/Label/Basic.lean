import FaceAnnotator.Numeric.Notation
/-!
# FaceAnnotator.Label.Basic

**What a classifier can say about a face**: an age, a gender or an emotion, and the text that is
shown for it.

The texts are fixed by whoever displays the tensors. Those of the genders are padded with a space on
both sides, the others are not.
-/

namespace FaceAnnotator

open Numeric

/-- The classes of the gender classifier. -/
inductive Gender where
  | male
  | female
deriving DecidableEq, Repr

/-- The text of a gender. -/
def Gender.text : Gender → String
  | male => " M "
  | female => " F "

/-- The classes of the emotion classifier. -/
inductive Emotion where
  | neutral
  | happy
  | sad
  | surprise
  | anger
deriving DecidableEq, Repr

namespace Emotion

/-- All emotions, in the order of the classifier's outputs. -/
def all : List Emotion := [neutral, happy, sad, surprise, anger]

/-- The emotion of an output, if the classifier has one there. -/
def ofIndex? (index : Nat) : Option Emotion := all[index]?

/-- The name of an emotion, which is also its text. -/
def name : Emotion → String
  | neutral => "neutral"
  | happy => "happy"
  | sad => "sad"
  | surprise => "surprise"
  | anger => "anger"

end Emotion

/-- What a tensor says about a face. -/
inductive Label where
  /-- Completed years. -/
  | age (years : Int)
  /-- The likelier gender. -/
  | gender (gender : Gender)
  /-- The strongest emotion. -/
  | emotion (emotion : Emotion)
deriving DecidableEq, Repr

namespace Label

/-- The text that is shown for a label. -/
def text : Label → String
  | age years => String.ofList (integerText years)
  | gender g => g.text
  | emotion e => e.name

@[simp] theorem text_age (years : Int) : (age years).text = String.ofList (integerText years) := rfl
@[simp] theorem text_gender (g : Gender) : (gender g).text = g.text := rfl
@[simp] theorem text_emotion (e : Emotion) : (emotion e).text = e.name := rfl

end Label

end FaceAnnotator
