import FaceAnnotator.Json.Scan
/-!
# FaceAnnotator.Json.Number

**Numbers of a document.**

An integer of up to 64 bits is read exactly. Anything else becomes a word of the wide format, in two
steps: the digits are gathered into a significand of 64 bits, and that is scaled by a power of ten.
Each step rounds to the nearest word, so the result is the nearest word to the number when the
significand and the power are both exact, and otherwise close to it.

* Digits that do not fit the significand any more count for its scale if they stand before the
  point, and not at all behind it.
* A negative zero, and integers beyond 64 bits, are words too.
* Beyond the greatest word there is no number; too small a number is zero.
-/

namespace FaceAnnotator.Json

open Numeric

/-- A number of a document. -/
inductive Number where
  /-- An integer from zero on. -/
  | natural (value : Nat)
  /-- An integer below zero. -/
  | negative (value : Int)
  /-- Any other number. -/
  | real (value : Double)
deriving DecidableEq

namespace Number

/-- What a complaint says that it found. -/
def found : Number → Found
  | natural value => .integer value
  | negative value => .integer value
  | real value => .real value

/-- One more than the greatest significand. -/
def significandLimit : Nat := 18446744073709551616

/-- One more than the greatest exponent. -/
def exponentLimit : Nat := 2147483648

/-- The greatest power of ten that is scaled by in one step. -/
def stepExponent : Nat := 308

/-- Gathers digits below a limit: the value, how many digits it took, and the rest. If the rest goes
on with a digit, that one did not fit. -/
def gather (limit : Nat) : Nat → Nat → List Char → Nat × Nat × List Char
  | value, count, c :: rest =>
    if isDigit c && value * 10 + digitValue c < limit then
      gather limit (value * 10 + digitValue c) (count + 1) rest
    else (value, count, c :: rest)
  | value, count, [] => (value, count, [])

/-- A power of ten, as the nearest word. -/
def tenPower (exponent : Nat) : Double := Binary.ofNat (Nat.pow 10 exponent)

/-- Divides by a power of ten in steps. Three steps bring any significand down to zero, so no more
are taken. -/
def scaleDown : Nat → Double → Nat → Double
  | 0, x, _ => x
  | steps + 1, x, exponent =>
    if exponent ≤ stepExponent then x.div (tenPower exponent)
    else if x.rank = 0 then x
    else scaleDown steps (x.div (tenPower stepExponent)) (exponent - stepExponent)

/-- The word for `significand * 10 ^ exponent`, if it is not too great. -/
def scaled (significand : Nat) (exponent : Int) : Option Double :=
  let x : Double := Binary.ofNat significand
  if exponent < 0 then some (scaleDown 3 x exponent.natAbs)
  else if exponent ≤ stepExponent then
    let product := x.mul (tenPower exponent.toNat)
    if product.isFinite then some product else none
  else if significand = 0 then some x else none

/-- A word with the sign that stood before its digits. -/
def signed (negative : Bool) (x : Double) : Number := .real (if negative then x.neg else x)

/-- The number of a sign, a significand and a scale. -/
def ofParts (negative : Bool) (significand : Nat) (exponent : Int) (rest : List Char) :
    Except Fault (Number × List Char) :=
  match scaled significand exponent with
  | some x => .ok (signed negative x, rest)
  | none => .error (.here .numberOutOfRange rest)

/-- The number of an integer without point and exponent. -/
def ofInteger (negative : Bool) (significand : Nat) : Number :=
  if negative then
    if 0 < significand && significand ≤ significandLimit / 2 then .negative (-(significand : Int))
    else signed true (Binary.ofNat significand)
  else .natural significand

/-- Reads the digits of an exponent. -/
def exponentDigits (negative : Bool) (significand : Nat) (scale : Int) (downwards : Bool) :
    Reader Number
  | [] => .error (.here .endInValue [])
  | c :: rest =>
    if isDigit c then
      let (exponent, _, rest) := gather exponentLimit 0 0 (c :: rest)
      if startsWithDigit rest then
        -- The exponent is beyond its limit: the number is too great, or as good as zero.
        if significand ≠ 0 && !downwards then .error (.next .numberOutOfRange rest)
        else .ok (signed negative (Binary.zero false), skipDigits rest)
      else
        ofParts negative significand (if downwards then scale - exponent else scale + exponent) rest
    else .error (.next .badNumber (c :: rest))

/-- Reads what follows the letter of an exponent. -/
def exponent (negative : Bool) (significand : Nat) (scale : Int) : Reader Number
  | '+' :: rest => exponentDigits negative significand scale false rest
  | '-' :: rest => exponentDigits negative significand scale true rest
  | rest => exponentDigits negative significand scale false rest

/-- Reads an exponent if there is one. -/
def maybeExponent (negative : Bool) (significand : Nat) (scale : Int) : Reader Number
  | 'e' :: rest => exponent negative significand scale rest
  | 'E' :: rest => exponent negative significand scale rest
  | rest => ofParts negative significand scale rest

/-- Reads what follows the point. -/
def fraction (negative : Bool) (significand : Nat) (scale : Int) : Reader Number := fun rest =>
  let (significand, count, rest) := gather significandLimit significand 0 rest
  if startsWithDigit rest then
    maybeExponent negative significand (scale - count) (skipDigits rest)
  else if count = 0 then
    .error (.next (if rest.isEmpty then .endInValue else .badNumber) rest)
  else maybeExponent negative significand (scale - count) rest

/-- Reads what follows the digits before the point. -/
def afterWhole (negative : Bool) (significand : Nat) : Reader Number
  | '.' :: rest => fraction negative significand 0 rest
  | 'e' :: rest => exponent negative significand 0 rest
  | 'E' :: rest => exponent negative significand 0 rest
  | rest => .ok (ofInteger negative significand, rest)

/-- Reads what follows when the digits before the point do not fit the significand. -/
def afterLong (negative : Bool) (significand : Nat) (scale : Int) : Reader Number
  | '.' :: rest => fraction negative significand scale rest
  | rest => maybeExponent negative significand scale rest

/-- Reads a number from its first digit on; the sign is already read. -/
def read (negative : Bool) : Reader Number
  | [] => .error (.here .endInValue [])
  | c :: rest =>
    if c = '0' then
      if startsWithDigit rest then .error (.next .badNumber rest) else afterWhole negative 0 rest
    else if isDigit c then
      let (significand, _, rest) := gather significandLimit 0 0 (c :: rest)
      if startsWithDigit rest then
        let after := skipDigits rest
        afterLong negative significand (rest.length - after.length : Nat) after
      else afterWhole negative significand rest
    else .error (.next .badNumber (c :: rest))

end Number

end FaceAnnotator.Json
