import FaceAnnotator.Numeric.Quotient
/-!
# FaceAnnotator.Numeric.Binary

**Binary floating point as bit patterns over exact arithmetic.**

A `Format` says how many bits a significand and an exponent have; `Binary f` is a word of that
format. `Binary.value` reads a word as a sign, a natural significand and an exponent, and
`Binary.round` writes a quotient of naturals as the nearest word. Every operation goes through these
two: it computes its exact result and rounds once, which is what the interchange standard asks for.

Two facts make the words convenient:

* Without its sign bit a word is a natural number, its `magnitude`, and magnitudes grow with the
  values that they stand for. So comparing is comparing magnitudes, and carrying out of the
  significand into the exponent is plain addition.
* `(exponent - lowest) * hidden + significand` is the magnitude both of a normal number and of a
  subnormal one, and of a significand that was rounded up to the next power of two.
-/

namespace FaceAnnotator.Numeric

/-- The two sizes that fix an interchange format. -/
structure Format where
  /-- Bits of a significand, the implicit leading one included. -/
  precision : Nat
  /-- Bits of the biased exponent. -/
  exponentWidth : Nat
deriving DecidableEq, Repr

namespace Format

/-- Thirty-two bits: classifier outputs. -/
def single : Format := ⟨24, 8⟩

/-- Sixty-four bits: everything that is computed from them. -/
def double : Format := ⟨53, 11⟩

/-- All bits of a word: sign, exponent, and the significand without its leading one. -/
def width (f : Format) : Nat := f.precision + f.exponentWidth

/-- One more than the greatest magnitude: the weight of the sign bit. -/
def signWeight (f : Format) : Nat := Nat.pow 2 (f.width - 1)

/-- The least significand of a normal number, the weight of its leading one. -/
def hidden (f : Format) : Nat := Nat.pow 2 (f.precision - 1)

/-- The magnitude of the infinities. Greater magnitudes are not numbers. -/
def infinity (f : Format) : Nat := (Nat.pow 2 f.exponentWidth - 1) * f.hidden

/-- The exponent of the least positive number: no number has a finer last place. -/
def lowest (f : Format) : Int := 3 - (Nat.pow 2 (f.exponentWidth - 1) : Nat) - f.precision

/-- The exponent of the last place that `num / den` has in the format: a full significand if the
format reaches that far down, else the finest place there is. -/
def lastPlace (f : Format) (num den : Nat) : Int :=
  let coarse : Int := (num.log2 : Int) - den.log2 - f.precision
  let place :=
    if den * power 2 (coarse + f.precision) ≤ num * power 2 (-(coarse + f.precision)) then
      coarse + 1
    else coarse
  if place < f.lowest then f.lowest else place

/-- The magnitude of the word nearest to `num / den`; beyond the greatest number, infinity. -/
def roundMagnitude (f : Format) (num den : Nat) : Nat :=
  if num = 0 then 0
  else
    let place := f.lastPlace num den
    let significand := nearestQuotient (num * power 2 (-place)) (den * power 2 place)
    min f.infinity ((place - f.lowest).toNat * f.hidden + significand)

end Format

/-- A word of a binary format. -/
structure Binary (f : Format) where
  /-- The bits, the sign first. -/
  bits : BitVec f.width
deriving DecidableEq

/-- A classifier output. -/
abbrev Single := Binary .single

/-- A computed quantity. -/
abbrev Double := Binary .double

/-- What a word stands for. -/
inductive Value where
  /-- No number. -/
  | nan
  /-- Beyond all numbers of its sign. -/
  | infinite (negative : Bool)
  /-- `significand * 2 ^ exponent` with its sign; zero has two. -/
  | finite (negative : Bool) (significand : Nat) (exponent : Int)
deriving DecidableEq, Repr

namespace Binary

variable {f g : Format}

/-! ### Reading words -/

/-- The word without its sign bit, as a natural number. -/
def magnitude (x : Binary f) : Nat := x.bits.toNat % f.signWeight

/-- Whether the sign bit is set. -/
def negative (x : Binary f) : Bool := decide (f.signWeight ≤ x.bits.toNat)

/-- The value of a word. -/
def value (x : Binary f) : Value :=
  let n := x.magnitude
  if f.infinity < n then .nan
  else if n = f.infinity then .infinite x.negative
  else if n < f.hidden then .finite x.negative n f.lowest
  else .finite x.negative (n % f.hidden + f.hidden) (f.lowest + (n / f.hidden - 1 : Nat))

/-- Whether the word is no number. -/
def isNaN (x : Binary f) : Bool := decide (f.infinity < x.magnitude)

/-- Whether the word is a number, neither infinite nor no number. -/
def isFinite (x : Binary f) : Bool := decide (x.magnitude < f.infinity)

/-- Where the word stands among all words: equal zeros, infinities at the two ends. It has no
meaning for a word that is no number. -/
def rank (x : Binary f) : Int := if x.negative then -(x.magnitude : Int) else x.magnitude

/-- Numerical order. It does not hold if either side is no number. -/
def less (x y : Binary f) : Bool := !x.isNaN && !y.isNaN && decide (x.rank < y.rank)

/-- Numerical equality: the two zeros are equal, and no number equals nothing, itself included. -/
def equals (x y : Binary f) : Bool := !x.isNaN && !y.isNaN && decide (x.rank = y.rank)

/-! ### Writing words -/

/-- The word of a sign and a magnitude. -/
def ofMagnitude (negative : Bool) (magnitude : Nat) : Binary f :=
  ⟨BitVec.ofNat _ (if negative then f.signWeight + magnitude else magnitude)⟩

/-- The quiet word that is no number. -/
def nan : Binary f := ofMagnitude false (f.infinity + f.hidden / 2)

/-- The infinity of a sign. -/
def infinite (negative : Bool) : Binary f := ofMagnitude negative f.infinity

/-- The zero of a sign. -/
def zero (negative : Bool) : Binary f := ofMagnitude negative 0

/-- The word nearest to `num / den` with the given sign. -/
def round (negative : Bool) (num den : Nat) : Binary f :=
  ofMagnitude negative (f.roundMagnitude num den)

/-- The word nearest to `significand * 2 ^ exponent` with the given sign. -/
def roundScaled (negative : Bool) (significand : Nat) (exponent : Int) : Binary f :=
  round negative (significand * power 2 exponent) (power 2 (-exponent))

/-- The word nearest to a natural number. -/
def ofNat (n : Nat) : Binary f := round false n 1

/-- The word nearest to an integer. -/
def ofInt (n : Int) : Binary f := round (decide (n < 0)) n.natAbs 1

/-- The word of the same value in another format, or the nearest one. -/
def convert (x : Binary f) : Binary g :=
  match x.value with
  | .nan => nan
  | .infinite negative => infinite negative
  | .finite negative significand exponent => roundScaled negative significand exponent

/-! ### Arithmetic: the exact result, rounded once -/

/-- The word with the other sign. -/
def neg (x : Binary f) : Binary f := ofMagnitude (!x.negative) x.magnitude

/-- The product. Zero times infinity is no number. -/
def mul (x y : Binary f) : Binary f :=
  match x.value, y.value with
  | .nan, _ | _, .nan => nan
  | .infinite s, .infinite t => infinite (s != t)
  | .infinite s, .finite t m _ => if m = 0 then nan else infinite (s != t)
  | .finite s m _, .infinite t => if m = 0 then nan else infinite (s != t)
  | .finite s m p, .finite t n q => roundScaled (s != t) (m * n) (p + q)

/-- The quotient. A nonzero number over zero is infinite, zero over zero no number. -/
def div (x y : Binary f) : Binary f :=
  match x.value, y.value with
  | .nan, _ | _, .nan => nan
  | .infinite _, .infinite _ => nan
  | .infinite s, .finite t _ _ => infinite (s != t)
  | .finite s _ _, .infinite t => zero (s != t)
  | .finite s m p, .finite t n q =>
    if n = 0 then if m = 0 then nan else infinite (s != t)
    else round (s != t) (m * power 2 (p - q)) (n * power 2 (q - p))

/-- A signed significand. -/
def signed (negative : Bool) (significand : Nat) : Int :=
  if negative then -(significand : Int) else significand

/-- The sum. Infinities of two signs have none; an exact zero is negative only if both sides are. -/
def add (x y : Binary f) : Binary f :=
  match x.value, y.value with
  | .nan, _ | _, .nan => nan
  | .infinite s, .infinite t => if s = t then infinite s else nan
  | .infinite s, .finite _ _ _ => infinite s
  | .finite _ _ _, .infinite t => infinite t
  | .finite s m p, .finite t n q =>
    let place := if p < q then p else q
    let sum := signed s m * power 2 (p - place) + signed t n * power 2 (q - place)
    if sum = 0 then zero (s && t)
    else roundScaled (decide (sum < 0)) sum.natAbs place

/-! ### Whole parts -/

/-- The whole part of a number, rounded toward zero; zero for anything else. -/
def toInt (x : Binary f) : Int :=
  match x.value with
  | .finite negative m q => signed negative (m * power 2 q / power 2 (-q))
  | _ => 0

/-- The number without its fraction; infinities and no number stay what they are. -/
def truncate (x : Binary f) : Binary f :=
  match x.value with
  | .finite negative m q => round negative (m * power 2 q / power 2 (-q)) 1
  | _ => x

end Binary

end FaceAnnotator.Numeric
