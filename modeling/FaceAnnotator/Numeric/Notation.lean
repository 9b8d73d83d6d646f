import FaceAnnotator.Numeric.Shortest
/-!
# FaceAnnotator.Numeric.Notation

**How a number is spelled once its digits are known.**

A `Layout` holds the decisions of one kind of text: from where to where digits are written in place,
and whether a whole number keeps a zero after the point. The digits are always the shortest ones
that read back (`FaceAnnotator.Numeric.Shortest`). `Binary.text` spells every word, `NaN` and the
infinities included; a document that has no spelling for those asks before it prints.
-/

namespace FaceAnnotator.Numeric

/-- The decisions of one kind of number text. -/
structure Layout where
  /-- The exponents of the first digit for which digits are written in place, the last one not
  included. `none` means always. -/
  inPlace : Option (Int × Int)
  /-- Whether a whole number ends in `.0`. -/
  pointZero : Bool
deriving DecidableEq, Repr

namespace Layout

/-- Data in a document: in place from `0.000001` up to thirteen digits before the point. -/
def data : Layout := ⟨some (-6, 13), true⟩

/-- A number quoted in a complaint about a document. -/
def quoted : Layout := ⟨some (-5, 16), true⟩

/-- A number in running text: never an exponent, and no point without a fraction. -/
def plain : Layout := ⟨none, false⟩

/-- Whether a number whose first digit has the given exponent is written in place. -/
def writesInPlace (l : Layout) (exponent : Int) : Bool :=
  match l.inPlace with
  | none => true
  | some (first, last) => first ≤ exponent && exponent < last

end Layout

/-- The decimal digits of a natural number. -/
def digitsOf (n : Nat) : List Char := Nat.toDigits 10 n

/-- An integer as digits after an optional sign. -/
def integerText (n : Int) : List Char :=
  if n < 0 then '-' :: digitsOf n.natAbs else digitsOf n.natAbs

namespace Decimal

/-- The exponent of the first digit. -/
def leading (d : Decimal) : Int := d.exponent + ((digitsOf d.digits).length - 1 : Nat)

/-- The digits in place, zeros filling the gap to the point. -/
def inPlace (d : Decimal) (pointZero : Bool) : List Char :=
  let digits := digitsOf d.digits
  if 0 ≤ d.exponent then
    digits ++ List.replicate d.exponent.toNat '0' ++ (if pointZero then ['.', '0'] else [])
  else
    let fraction := (-d.exponent).toNat
    if fraction < digits.length then
      digits.take (digits.length - fraction) ++ '.' :: digits.drop (digits.length - fraction)
    else '0' :: '.' :: List.replicate (fraction - digits.length) '0' ++ digits

/-- One digit, the others behind a point, and the exponent with its sign. -/
def scientific (d : Decimal) : List Char :=
  let exponent := 'e' :: (if d.leading < 0 then '-' else '+') :: digitsOf d.leading.natAbs
  match digitsOf d.digits with
  | [] => exponent
  | [digit] => digit :: exponent
  | digit :: others => digit :: '.' :: others ++ exponent

/-- The decimal in a layout. -/
def text (d : Decimal) (l : Layout) : List Char :=
  if l.writesInPlace d.leading then d.inPlace l.pointZero else d.scientific

end Decimal

/-- The text of a sign. -/
def signText (negative : Bool) : List Char := if negative then ['-'] else []

/-- The text of a word. -/
def Binary.text {f : Format} (x : Binary f) (l : Layout) : List Char :=
  match x.value with
  | .nan => ['N', 'a', 'N']
  | .infinite negative => signText negative ++ ['i', 'n', 'f']
  | .finite negative significand exponent =>
    signText negative ++
      if significand = 0 then '0' :: (if l.pointZero then ['.', '0'] else [])
      else (shortestDecimal f significand exponent).text l

end FaceAnnotator.Numeric
