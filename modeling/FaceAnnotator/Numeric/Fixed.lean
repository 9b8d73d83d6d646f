import FaceAnnotator.Numeric.Notation
/-!
# FaceAnnotator.Numeric.Fixed

**Numbers with a fixed count of decimal places**, as a report shows them.

The exact value of a word is rounded to the last place that is shown, a tie going to the even digit.
`padLeft` and `padRight` fill a text up to the width of its column and never cut one.
-/

namespace FaceAnnotator.Numeric

/-- A natural number of units of the last of `places` decimal places. -/
def placed (places n : Nat) : List Char :=
  let digits := digitsOf n
  let padded := List.replicate (places + 1 - digits.length) '0' ++ digits
  let whole := padded.take (padded.length - places)
  if places = 0 then whole else whole ++ '.' :: padded.drop (padded.length - places)

/-- The text of a word with the given count of decimal places. -/
def Binary.fixed {f : Format} (x : Binary f) (places : Nat) : List Char :=
  match x.value with
  | .nan => ['N', 'a', 'N']
  | .infinite negative => signText negative ++ ['i', 'n', 'f']
  | .finite negative significand exponent =>
    signText negative ++
      placed places
        (nearestQuotient (significand * power 2 exponent * Nat.pow 10 places) (power 2 (-exponent)))

/-- Spaces before a text up to a width. -/
def padLeft (width : Nat) (text : List Char) : List Char :=
  List.replicate (width - text.length) ' ' ++ text

/-- Spaces after a text up to a width. -/
def padRight (width : Nat) (text : List Char) : List Char :=
  text ++ List.replicate (width - text.length) ' '

end FaceAnnotator.Numeric
