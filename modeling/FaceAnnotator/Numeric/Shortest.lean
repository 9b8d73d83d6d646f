import FaceAnnotator.Numeric.Binary
/-!
# FaceAnnotator.Numeric.Shortest

**The fewest decimal digits that read back as the same word.**

The reals that round to a positive word form an interval around its value: half the way to each
neighbour, the ends included when the significand is even, because ties go to even. A decimal
`digits * 10 ^ exponent` stands for the word exactly when it lies in that interval.

`Interval.shortest` looks at one decimal grid after the other, from a grid too coarse to matter down
to finer ones, and stops at the first with a point in the interval. If a grid has such a point, then
one of the value's two neighbours on the grid is one, so two tests a grid are enough. Of two hits
the nearer one is taken, and of two equally near ones the one whose last digit is even.

All comparisons are between products of naturals: nothing is rounded on the way.
-/

namespace FaceAnnotator.Numeric

/-- A positive decimal, `digits * 10 ^ exponent`. -/
structure Decimal where
  /-- All digits, as one natural number. -/
  digits : Nat
  /-- The place of the last digit. -/
  exponent : Int
deriving DecidableEq, Repr

/-- The reals that round to one word, in quarters of its last place. -/
structure Interval where
  /-- The lower end. -/
  low : Nat
  /-- The word's own value. -/
  middle : Nat
  /-- The upper end. -/
  high : Nat
  /-- Whether the ends belong to the interval. -/
  closed : Bool
  /-- The unit of the three numbers above is `2 ^ unit`. -/
  unit : Int
deriving DecidableEq, Repr

namespace Interval

/-- The interval of the positive value `significand * 2 ^ exponent`. At a power of two the lower
neighbour is only half as far away as the upper one, but for the least exponent. -/
def around (f : Format) (significand : Nat) (exponent : Int) : Interval where
  low := 4 * significand - (if significand = f.hidden ∧ f.lowest < exponent then 1 else 2)
  middle := 4 * significand
  high := 4 * significand + 2
  closed := significand % 2 = 0
  unit := exponent - 2

/-- A number of units, brought to the common scale on which it meets the grid of `10 ^ k`. -/
def units (i : Interval) (k : Int) (n : Nat) : Nat := n * (power 2 i.unit * power 10 (-k))

/-- A grid point `n * 10 ^ k` on the same scale. -/
def point (i : Interval) (k : Int) (n : Nat) : Nat := n * (power 10 k * power 2 (-i.unit))

/-- Whether `n * 10 ^ k` lies in the interval. -/
def holds (i : Interval) (k : Int) (n : Nat) : Bool :=
  let p := i.point k n
  if i.closed then i.units k i.low ≤ p && p ≤ i.units k i.high
  else i.units k i.low < p && p < i.units k i.high

/-- The grid point of `10 ^ k` just below the value, or the value itself. -/
def floor (i : Interval) (k : Int) : Nat := i.units k i.middle / i.point k 1

/-- The point of the grid of `10 ^ k` that lies in the interval and nearest to the value. -/
def onGrid (i : Interval) (k : Int) : Option Nat :=
  let below := i.floor k
  let above := below + 1
  match i.holds k below, i.holds k above with
  | false, false => none
  | true, false => some below
  | false, true => some above
  | true, true =>
    let down := i.units k i.middle - i.point k below
    let up := i.point k above - i.units k i.middle
    if down < up then some below
    else if up < down then some above
    else if below % 2 = 0 then some below else some above

/-- The first hit on the grids of `10 ^ k`, `10 ^ (k - 1)` and so on. -/
def search (i : Interval) : Nat → Int → Decimal
  | 0, k => ⟨i.floor k, k⟩
  | grids + 1, k =>
    match i.onGrid k with
    | some digits => ⟨digits, k⟩
    | none => i.search grids (k - 1)

/-- A grid that is at least as coarse as the value: `0.30103` is a little more than the decimal
logarithm of two. -/
def coarsest (i : Interval) : Int := (i.middle.log2 + 1 + i.unit) * 30103 / 100000 + 2

/-- How many grids are tried. Seventeen digits tell any two words of the wider format apart; the
rest makes up for the coarse start. -/
def grids : Nat := 22

/-- The shortest decimal in the interval, and of those the nearest to the value. -/
def shortest (i : Interval) : Decimal := i.search grids i.coarsest

end Interval

/-- The shortest decimal that reads back as the positive number `significand * 2 ^ exponent` of a
format. -/
def shortestDecimal (f : Format) (significand : Nat) (exponent : Int) : Decimal :=
  (Interval.around f significand exponent).shortest

end FaceAnnotator.Numeric
