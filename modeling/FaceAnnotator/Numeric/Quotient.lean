/-!
# FaceAnnotator.Numeric.Quotient

**Rounding an exact quotient**, the one place where a number is ever rounded.

A measured or computed value is held as a quotient of two naturals until it is written into a
format with fewer digits, binary or decimal. Then `nearestQuotient` picks the nearest natural
number and sends a tie to the even neighbour. Because the quotient is exact, there is no second
rounding that could move a value across a tie.

Signed exponents meet naturals in `power`: `b ^ e` is the quotient `power b e / power b (-e)`, one
of whose two parts is always `1`.
-/

namespace FaceAnnotator.Numeric

/-- The natural number nearest to `num / den`; of two equally near ones, the even one. -/
def nearestQuotient (num den : Nat) : Nat :=
  let quotient := num / den
  let remainder := num % den
  if 2 * remainder < den then quotient
  else if den < 2 * remainder then quotient + 1
  else quotient + quotient % 2

/-- The part of `base ^ exponent` that belongs above the fraction line: `power b (-e)` is the part
below it. -/
def power (base : Nat) (exponent : Int) : Nat := Nat.pow base exponent.toNat

/-! ### What rounding keeps -/

/-- Rounding moves a quotient to one of its two neighbours. -/
theorem nearestQuotient_le (num den : Nat) :
    num / den ≤ nearestQuotient num den ∧ nearestQuotient num den ≤ num / den + 1 := by
  unfold nearestQuotient
  have := Nat.mod_lt (num / den) (by omega : 0 < 2)
  simp only
  split
  · omega
  · split <;> omega

/-- A quotient that is a natural number stays what it is. -/
theorem nearestQuotient_mul {den : Nat} (h : 0 < den) (n : Nat) :
    nearestQuotient (n * den) den = n := by
  simp [nearestQuotient, Nat.mul_div_cancel n h, h]

theorem power_pos {base : Nat} (h : 0 < base) (exponent : Int) : 0 < power base exponent :=
  Nat.pow_pos h

/-- One of the two parts of a power is `1`. -/
theorem power_neg_of_nonneg {base : Nat} {exponent : Int} (h : 0 ≤ exponent) :
    power base (-exponent) = 1 := by
  have : (-exponent).toNat = 0 := by omega
  simp only [power, this]
  rfl

end FaceAnnotator.Numeric
