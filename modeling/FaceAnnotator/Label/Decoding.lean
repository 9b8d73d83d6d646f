import FaceAnnotator.Label.Basic
import FaceAnnotator.Label.Kind
/-!
# FaceAnnotator.Label.Decoding

**Reading a label out of a classifier's outputs.**

* An *age* is the first output times one hundred, without its fraction. The product is taken in the
  wider format, where it is exact: a significand of 24 bits times 100 needs 31.
* A *gender* is male if the second output is strictly above one half.
* An *emotion* is the one with the greatest output, the first of several equally great ones. A word
  that is no number is greater than nothing, so it is only chosen when it comes first, and then
  nothing is greater than it.

Outputs that do not support their label are an `Undecodable`, which names the cause.
-/

namespace FaceAnnotator

open Numeric

/-- Why no label could be read out of a tensor. -/
inductive Undecodable where
  /-- There is no output at all. -/
  | noData (layer : String)
  /-- There are fewer outputs than the classifier has classes. -/
  | tooShort (layer : String) (needed found : Nat)
  /-- The output that counts is infinite or no number. -/
  | notFinite (layer : String) (value : Single)
  /-- The age needs more than 64 bits. -/
  | ageOutOfRange (layer : String) (years : Double)
  /-- The greatest output belongs to no emotion. -/
  | unknownEmotion (index : Nat)
deriving DecidableEq

/-- The complaint about a tensor. -/
def Undecodable.message : Undecodable → String
  | noData layer => s!"tensor for layer '{layer}' has no data"
  | tooShort layer needed found =>
    s!"tensor for layer '{layer}' needs at least {needed} values, got {found}"
  | notFinite layer value =>
    s!"tensor for layer '{layer}' holds non-finite value " ++ String.ofList (value.text .plain)
  | ageOutOfRange layer years =>
    s!"tensor for layer '{layer}' decodes to age " ++ String.ofList (years.text .plain) ++
      ", outside the representable range"
  | unknownEmotion index => s!"emotion argmax index {index} has no known emotion name"

namespace Label

/-- The age regression is in units of one hundred years. -/
def ageScale : Double := Binary.ofNat 100

/-- The output of the male class. -/
def maleIndex : Nat := 1

/-- The probability above which a face is labeled male: one half. -/
def maleThreshold : Single := Binary.round false 1 2

/-- The least age that is not representable any more. -/
def ageLimit : Int := 9223372036854775808

/-- The age of an age regression. -/
def decodeAge (layer : String) (data : List Single) : Except Undecodable Int :=
  match data with
  | [] => .error (.noData layer)
  | value :: _ =>
    if value.isFinite then
      let years := (value.convert : Double).mul ageScale
      if -ageLimit ≤ years.toInt ∧ years.toInt < ageLimit then .ok years.toInt
      else .error (.ageOutOfRange layer years.truncate)
    else .error (.notFinite layer value)

/-- The gender of gender probabilities. -/
def decodeGender (layer : String) (data : List Single) : Except Undecodable Gender :=
  match data[maleIndex]? with
  | none => .error (.tooShort layer (maleIndex + 1) data.length)
  | some male => .ok (if maleThreshold.less male then .male else .female)

/-- The place of the first maximum of some values, of which the best so far stands at `best` and the
next one at `next`. -/
def firstMaximumFrom (best : Nat) (top : Single) (next : Nat) : List Single → Nat
  | [] => best
  | value :: values =>
    if top.less value then firstMaximumFrom next value (next + 1) values
    else firstMaximumFrom best top (next + 1) values

/-- The place of the first maximum. -/
def firstMaximum : List Single → Option Nat
  | [] => none
  | value :: values => some (firstMaximumFrom 0 value 1 values)

/-- The emotion of emotion probabilities. -/
def decodeEmotion (layer : String) (data : List Single) : Except Undecodable Emotion :=
  match firstMaximum data with
  | none => .error (.noData layer)
  | some index =>
    match Emotion.ofIndex? index with
    | none => .error (.unknownEmotion index)
    | some found => .ok found

/-- The label of a tensor of a kind, if that kind has one. The layer is only named in complaints. -/
def decode (kind : Tensor.Kind) (layer : String) (data : List Single) :
    Except Undecodable (Option Label) :=
  match kind with
  | .detection | .unknown => .ok none
  | .age => (decodeAge layer data).map fun years => some (.age years)
  | .gender => (decodeGender layer data).map fun g => some (.gender g)
  | .emotion => (decodeEmotion layer data).map fun e => some (.emotion e)

@[simp] theorem decode_unknown (layer : String) (data : List Single) :
    decode .unknown layer data = .ok none := rfl

end Label

/-- The label that a tensor should carry. -/
def Tensor.decode (t : Tensor) : Except Undecodable (Option Label) :=
  Label.decode t.kind t.layer t.data

end FaceAnnotator
