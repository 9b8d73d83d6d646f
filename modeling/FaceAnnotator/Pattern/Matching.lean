import FaceAnnotator.Pattern.Basic
/-!
# FaceAnnotator.Pattern.Matching

**Where in a text a pattern fits.**

A text of `n` characters has `n + 1` places. `Marks` are a set of them, and `advance` moves marks
over a pattern: a place is marked afterwards if the pattern fits the text between it and a place
that was marked before. All ways to fit are followed at once, so there is nothing to go back to. A
repetition is over as soon as it changes no mark, for to go on would change none either; one without
a limit needs no more rounds than there are places, for marks only move to the right.
-/

namespace FaceAnnotator.Pattern

/-- A mark for each place of a text, from the one before its first character on. -/
abbrev Marks := List Bool

/-- The characters before and behind each place of a text; `before` is the one before all of it. -/
def borders (before : Option Char) : List Char → List (Option Char × Option Char)
  | [] => [(before, none)]
  | c :: text => (before, some c) :: borders (some c) text

/-- Whether a character belongs to a word. No character beyond ASCII does. -/
def isWordCharacter (c : Char) : Bool := c.isAlphanum || c = '_'

/-- Whether a border has an edge of a word, given which of its sides belong to one. -/
def WordEdge.holds (edge : WordEdge) (before behind : Bool) : Bool :=
  match edge with
  | boundary => before != behind
  | noBoundary => before == behind
  | start => !before && behind
  | stop => before && !behind
  | startHalf => !before
  | stopHalf => !behind

/-- Whether an assertion holds of the place between two characters, where there are any. -/
def Assertion.holds (assertion : Assertion) (before behind : Option Char) : Bool :=
  match assertion with
  | textStart => before.isNone
  | textEnd => behind.isNone
  | lineStart false => before.all (· = '\n')
  | lineStart true =>
    before.all fun c => c = '\n' || (c = '\r' && behind ≠ some '\n')
  | lineEnd false => behind.all (· = '\n')
  | lineEnd true =>
    behind.all fun c => c = '\r' || (c = '\n' && before ≠ some '\r')
  | word edge _ => edge.holds (before.any isWordCharacter) (behind.any isWordCharacter)

/-- The places that are marked in one of two ways. -/
def Marks.or (marks more : Marks) : Marks := List.zipWith (· || ·) marks more

/-- Does something to marks so many times. It is over as soon as nothing changes. -/
def again (act : Marks → Marks) : Nat → Marks → Marks
  | 0, marks => marks
  | count + 1, marks =>
    let next := act marks
    if next = marks then marks else again act count next

/-- The places behind what a pattern fits, if it begins at a marked place. -/
def advance (text : List Char) : Pattern → Marks → Marks
  | nothing, marks => marks
  | oneOf set, marks =>
    false :: List.zipWith (fun marked c => marked && set.contains c) marks text
  | holding assertion, marks =>
    List.zipWith (fun marked (before, behind) => marked && assertion.holds before behind) marks
      (borders none text)
  | remembered body, marks => advance text body marks
  | sequence first second, marks => advance text second (advance text first marks)
  | choice first second, marks =>
    Marks.or (advance text first marks) (advance text second marks)
  | repeated body least most, marks =>
    let further := fun marks => Marks.or marks (advance text body marks)
    let optional := (most.getD (least + text.length + 1)) - least
    again further optional (again (advance text body) least marks)

/-- Whether a pattern fits some part of a text. -/
def occursIn (p : Pattern) (text : List Char) : Bool :=
  (advance text p (List.replicate (text.length + 1) true)).any id

end FaceAnnotator.Pattern
