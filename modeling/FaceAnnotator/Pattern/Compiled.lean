import FaceAnnotator.Pattern.Meaning
import FaceAnnotator.Pattern.Reading
import FaceAnnotator.Pattern.Room
/-!
# FaceAnnotator.Pattern.Compiled

**From a text to a pattern, or to the reason why it writes none.**
-/

namespace FaceAnnotator.Pattern

/-- Why a text writes no pattern that can be used. -/
inductive Objection where
  /-- There is a fault in it. -/
  | fault (fault : Fault)
  /-- The pattern takes too much room. -/
  | overlarge
  /-- The pattern asks for the edge of a word, which takes a table of all letters. -/
  | lettersUnknown
deriving DecidableEq, Repr

/-- What is said about a text that writes no pattern. -/
def Objection.message (text : List Char) : Objection → String
  | fault f => f.text text
  | overlarge => s!"Compiled regex exceeds size limit of {roomLimit} bytes."
  | lettersUnknown => "error building NFA"

/-- The pattern that a text writes. -/
def ofText (text : List Char) : Except Objection Pattern :=
  match Form.read text with
  | .error f => .error (.fault f)
  | .ok form =>
    match form.meaning {} with
    | .error f => .error (.fault f)
    | .ok (p, _) =>
      if p.isOverlarge false then .error .overlarge
      else if p.asksForLetters then .error .lettersUnknown
      else if p.isOverlarge true then .error .overlarge
      else .ok p

end FaceAnnotator.Pattern
