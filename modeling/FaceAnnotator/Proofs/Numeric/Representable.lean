import FaceAnnotator.Proofs.Numeric.Exact
import Mathlib.Algebra.Order.Field.Power
import Mathlib.Algebra.Order.Floor.Semifield
import Mathlib.Data.Rat.Floor
import Mathlib.Tactic.FieldSimp
import Mathlib.Tactic.Positivity
/-!
# FaceAnnotator.Proofs.Numeric.Representable

**An operation whose result has a word is exact.**

A number is `Representable` in a format if it is a significand of the format at one of its places.
Rounding such a number gives a word that stands for just it (`exact_round`), so converting,
multiplying and cutting off fractions are exact as long as their results are representable.

The last place that rounding chooses is characterized by `IsLastPlace`, which says nothing about
lengths in bits: a representable number has no digit beyond it.
-/

namespace FaceAnnotator.Numeric

/-! ### Powers and quotients -/

/-- The parts of a power above and below the fraction line make up the power. -/
theorem power_quotient (base : Nat) (e : Int) :
    (power base e : ℚ) / power base (-e) = base ^ e := by
  obtain ⟨n, rfl | rfl⟩ := e.eq_nat_or_neg
  · rw [power_neg_of_nonneg (Int.natCast_nonneg n)]
    simp [power_eq_pow]
  · rw [Int.neg_neg, ← Int.neg_neg (n : Int), power_neg_of_nonneg (by omega)]
    simp [power_eq_pow]

theorem power_div_power (e : Int) : (power 2 e : ℚ) / power 2 (-e) = 2 ^ e := by
  exact_mod_cast power_quotient 2 e

theorem cast_power_ne_zero (e : Int) : (power 2 e : ℚ) ≠ 0 :=
  Nat.cast_ne_zero.2 (Nat.ne_of_gt (power_pos (by decide) _))

/-- Moving a quotient by some binary places divides it by their weight. -/
theorem shifted_quotient (num den : Nat) (e : Int) :
    ((num * power 2 (-e) : Nat) : ℚ) / (den * power 2 e : Nat) = num / den / 2 ^ e := by
  have above := cast_power_ne_zero e
  have below := cast_power_ne_zero (-e)
  rw [← power_div_power e, Nat.cast_mul, Nat.cast_mul]
  field_simp

theorem le_shifted_iff {num den : Nat} (pos : 0 < den) (e : Int) :
    den * power 2 e ≤ num * power 2 (-e) ↔ (2 : ℚ) ^ e ≤ num / den := by
  have below : (0 : ℚ) < (den * power 2 e : Nat) :=
    Nat.cast_pos.2 (Nat.mul_pos pos (power_pos (by decide) _))
  rw [← one_le_div (zpow_pos (by norm_num : (0 : ℚ) < 2) e), ← shifted_quotient, one_le_div below,
    Nat.cast_le]

/-- How great a quotient is shows in the lengths of its parts, up to a factor of two each way. -/
theorem quotient_bounds {num den : Nat} (some : num ≠ 0) (pos : 0 < den) :
    (2 : ℚ) ^ ((num.log2 : Int) - den.log2 - 1) ≤ num / den ∧
      (num : ℚ) / den < 2 ^ ((num.log2 : Int) - den.log2 + 1) := by
  have split (e : Int) (m n : Nat)
      (h : e + m = n) : (2 : ℚ) ^ e * (2 ^ m : Nat) = (2 ^ n : Nat) := by
    rw [Nat.cast_pow, Nat.cast_pow, ← zpow_natCast, ← zpow_natCast, Nat.cast_two,
      ← zpow_add₀ (by norm_num), h]
  have below : (0 : ℚ) < den := Nat.cast_pos.2 pos
  constructor
  · have top : den ≤ 2 ^ (den.log2 + 1) := Nat.le_of_lt Nat.lt_log2_self
    have bottom : 2 ^ num.log2 ≤ num := Nat.log2_self_le some
    rw [le_div_iff₀ below]
    calc (2 : ℚ) ^ ((num.log2 : Int) - den.log2 - 1) * den
        ≤ 2 ^ ((num.log2 : Int) - den.log2 - 1) * (2 ^ (den.log2 + 1) : Nat) := by gcongr
      _ = (2 ^ num.log2 : Nat) := split _ _ _ (by omega)
      _ ≤ num := Nat.cast_le.2 bottom
  · have top : num < 2 ^ (num.log2 + 1) := Nat.lt_log2_self
    have bottom : 2 ^ den.log2 ≤ den := Nat.log2_self_le (Nat.ne_of_gt pos)
    rw [div_lt_iff₀ below]
    calc (num : ℚ) < (2 ^ (num.log2 + 1) : Nat) := Nat.cast_lt.2 top
      _ = 2 ^ ((num.log2 : Int) - den.log2 + 1) * (2 ^ den.log2 : Nat) :=
        (split _ _ _ (by omega)).symm
      _ ≤ 2 ^ ((num.log2 : Int) - den.log2 + 1) * den := by gcongr

namespace Format

variable {f : Format}

/-! ### The last place of a number -/

/-- At this place a positive number has a full significand, unless the place is the lowest there
is. -/
structure IsLastPlace (f : Format) (q : ℚ) (place : Int) : Prop where
  lowest_le : f.lowest ≤ place
  lt : q < 2 ^ (place + f.precision)
  full : place = f.lowest ∨ 2 ^ (place + f.precision - 1) ≤ q

theorem isLastPlace_lastPlace {num den : Nat} (some : num ≠ 0) (pos : 0 < den) :
    f.IsLastPlace (num / den) (f.lastPlace num den) := by
  obtain ⟨low, high⟩ := quotient_bounds some pos
  unfold lastPlace
  dsimp only
  simp only [le_shifted_iff pos]
  generalize (num.log2 : Int) - den.log2 = size at low high ⊢
  rw [show size - f.precision + f.precision = size by omega]
  -- Were there no lowest place, this one would be right for any quotient.
  obtain ⟨place, chosen, less, full⟩ : ∃ place : Int,
      (if (2 : ℚ) ^ size ≤ num / den then size - f.precision + 1 else size - f.precision) = place ∧
      (num : ℚ) / den < 2 ^ (place + f.precision) ∧
      (2 : ℚ) ^ (place + f.precision - 1) ≤ num / den := by
    split
    · rename_i le
      refine ⟨_, rfl, ?_, ?_⟩
      · rwa [show size - f.precision + 1 + f.precision = size + 1 by omega]
      · rwa [show size - f.precision + 1 + f.precision - 1 = size by omega]
    · rename_i less
      refine ⟨_, rfl, ?_, ?_⟩
      · rw [show size - f.precision + f.precision = size by omega]
        exact not_le.1 less
      · rwa [show size - f.precision + f.precision - 1 = size - 1 by omega]
  rw [chosen]
  split
  · exact ⟨le_refl _, less.trans_le (zpow_le_zpow_right₀ (by norm_num) (by omega)), .inl rfl⟩
  · exact ⟨by omega, less, .inr full⟩

/-! ### Representable numbers -/

/-- A number that the format has a word for. -/
def Representable (f : Format) (q : ℚ) : Prop :=
  ∃ (significand : Nat) (exponent : Int), significand < 2 ^ f.precision ∧ f.lowest ≤ exponent ∧
    exponent ≤ f.highest ∧ q = significand * 2 ^ exponent

/-- A whole number that fits into a significand has a word. -/
theorem Proper.representable_natCast (proper : f.Proper) {n : Nat} (h : n < 2 ^ f.precision) :
    f.Representable n := by
  obtain ⟨low, high, -⟩ := proper.exponents
  exact ⟨n, 0, h, low, high, by rw [zpow_zero, mul_one]⟩

/-- A representable number has no digit beyond its last place. -/
theorem Representable.significand {q : ℚ} {place : Int} (h : f.Representable q)
    (last : f.IsLastPlace q place) :
    place ≤ f.highest ∧ ∃ significand : Nat,
      q = significand * 2 ^ place ∧ significand < 2 ^ f.precision ∧
      (place = f.lowest ∨ 2 ^ (f.precision - 1 : Int) ≤ (significand : ℚ)) := by
  obtain ⟨k, j, small, low, high, rfl⟩ := h
  have pos (e : Int) : (0 : ℚ) < 2 ^ e := zpow_pos (by norm_num) e
  have le : place ≤ j := by
    rcases last.full with rfl | full
    · exact low
    · have less : (2 : ℚ) ^ (place + f.precision - 1) < 2 ^ (f.precision + j) := by
        calc (2 : ℚ) ^ (place + f.precision - 1) ≤ k * 2 ^ j := full
          _ < (2 ^ f.precision : Nat) * 2 ^ j := by gcongr
          _ = 2 ^ (f.precision + j) := by
              rw [zpow_add₀ (by norm_num), zpow_natCast, Nat.cast_pow, Nat.cast_two]
      have := (zpow_lt_zpow_iff_right₀ (by norm_num : (1 : ℚ) < 2)).1 less
      omega
  have value : (k : ℚ) * 2 ^ j = (k * 2 ^ (j - place).toNat : Nat) * 2 ^ place := by
    obtain ⟨n, rfl⟩ := Int.le.dest le
    rw [zpow_add₀ (by norm_num), zpow_natCast, add_sub_cancel_left, Int.toNat_natCast]
    push_cast
    ring
  refine ⟨le.trans high, _, value, ?_, last.full.imp_right fun full => ?_⟩
  · have less := last.lt
    rw [value, zpow_add₀ (by norm_num), mul_comm, mul_lt_mul_iff_right₀ (pos place),
      zpow_natCast] at less
    exact_mod_cast less
  · rw [value, show place + f.precision - 1 = (f.precision - 1 : Int) + place by ring,
      zpow_add₀ (by norm_num), mul_le_mul_iff_left₀ (pos place)] at full
    exact full

/-- A significand at a place comes before the infinities, if the place is one of the format's. -/
theorem Proper.placed_lt (proper : f.Proper) {shift significand : Nat}
    (high : f.lowest + shift ≤ f.highest) (small : significand < 2 * f.hidden) :
    shift * f.hidden + significand < f.infinity := by
  obtain ⟨-, -, wide⟩ := proper.exponents
  have infinity : f.infinity = (2 ^ f.exponentWidth - 1) * f.hidden := rfl
  have places : shift + 2 ≤ 2 ^ f.exponentWidth - 1 := by
    unfold highest at high
    simp only [Nat.pow_eq] at high
    omega
  have := Nat.mul_le_mul_right f.hidden places
  rw [Nat.add_mul] at this
  rw [infinity]
  omega

/-- Rounding a representable quotient loses nothing. -/
theorem roundMagnitude_of_representable (proper : f.Proper) {num den : Nat} (pos : 0 < den)
    (h : f.Representable (num / den)) :
    f.roundMagnitude num den < f.infinity ∧
      f.units (f.roundMagnitude num den) * 2 ^ f.lowest = (num / den : ℚ) := by
  by_cases zero : num = 0
  · simp [roundMagnitude, zero, Binary.infinity_pos proper]
  have last := isLastPlace_lastPlace (f := f) zero pos
  obtain ⟨high, significand, value, small, full⟩ := h.significand last
  obtain ⟨shift, eq⟩ := Int.le.dest last.lowest_le
  rw [roundMagnitude, if_neg zero]
  dsimp only
  rw [proper.two_pow_precision] at small
  rw [← eq] at high value full ⊢
  -- The quotient is a whole number of units of its last place, so rounding it there finds just
  -- this number.
  have exactly : num * power 2 (-(f.lowest + shift)) =
      significand * (den * power 2 (f.lowest + shift)) := by
    have below : ((den * power 2 (f.lowest + shift) : Nat) : ℚ) ≠ 0 :=
      Nat.cast_ne_zero.2 (Nat.ne_of_gt (Nat.mul_pos pos (power_pos (by decide) _)))
    have shifted := shifted_quotient num den (f.lowest + shift)
    rw [value, mul_div_cancel_right₀ _ (zpow_ne_zero _ (by norm_num)), div_eq_iff below] at shifted
    exact_mod_cast shifted
  have full : shift = 0 ∨ f.hidden ≤ significand := by
    have some := proper.precision_pos
    refine full.imp (fun eq => by omega) fun full => ?_
    rw [show (f.precision - 1 : Int) = (f.precision - 1 : Nat) by omega, zpow_natCast] at full
    exact_mod_cast full
  have less := proper.placed_lt high small
  rw [exactly, nearestQuotient_mul (Nat.mul_pos pos (power_pos (by decide) _)), add_sub_cancel_left,
    Int.toNat_natCast, Nat.min_eq_right (Nat.le_of_lt less)]
  refine ⟨less, ?_⟩
  rw [units_placed full small, value, zpow_add₀ (by norm_num), zpow_natCast]
  push_cast
  ring

end Format

namespace Binary

variable {f g : Format}

/-! ### Words of magnitudes -/

section ofMagnitude

variable {negative : Bool} {n : Nat}

theorem toNat_ofMagnitude (proper : f.Proper) (h : n < f.signWeight) :
    (ofMagnitude negative n : Binary f).bits.toNat = if negative then f.signWeight + n else n := by
  rw [ofMagnitude, BitVec.toNat_ofNat, proper.two_pow_width]
  split <;> exact Nat.mod_eq_of_lt (by omega)

theorem magnitude_ofMagnitude_of_lt (proper : f.Proper) (h : n < f.signWeight) :
    (ofMagnitude negative n : Binary f).magnitude = n := by
  rw [magnitude, toNat_ofMagnitude proper h]
  split
  · rw [Nat.add_mod_left, Nat.mod_eq_of_lt h]
  · exact Nat.mod_eq_of_lt h

theorem negative_ofMagnitude (proper : f.Proper) (h : n < f.signWeight) :
    (ofMagnitude negative n : Binary f).negative = negative := by
  rw [Binary.negative, toNat_ofMagnitude proper h]
  cases negative
  · simpa using h
  · simp

end ofMagnitude

/-! ### Exact results -/

/-- Rounding a representable number gives a word that stands for it. -/
theorem exact_round (proper : f.Proper) (negative : Bool) {num den : Nat} (pos : 0 < den)
    (h : f.Representable (num / den)) :
    (round negative num den : Binary f).isFinite = true ∧
      (round negative num den : Binary f).exact = (if negative then -1 else 1) * (num / den) := by
  obtain ⟨less, eq⟩ := Format.roundMagnitude_of_representable proper pos h
  have narrow := less.trans proper.infinity_lt
  have finite : (round negative num den : Binary f).isFinite = true := by
    rw [isFinite, decide_eq_true_iff, round, magnitude_ofMagnitude_of_lt proper narrow]
    exact less
  refine ⟨finite, ?_⟩
  rw [exact_eq_units proper finite, round, magnitude_ofMagnitude_of_lt proper narrow,
    negative_ofMagnitude proper narrow, cast_signed, mul_assoc, eq]

theorem exact_roundScaled (proper : f.Proper) {negative : Bool} {significand : Nat} {exponent : Int}
    (h : f.Representable (significand * 2 ^ exponent)) :
    (roundScaled negative significand exponent : Binary f).isFinite = true ∧
      (roundScaled negative significand exponent : Binary f).exact =
        signed negative significand * 2 ^ exponent := by
  have value : ((significand * power 2 exponent : Nat) : ℚ) / power 2 (-exponent) =
      significand * 2 ^ exponent := by
    rw [Nat.cast_mul, mul_div_assoc, power_div_power]
  rw [← value] at h
  obtain ⟨finite, eq⟩ := exact_round proper negative (power_pos (by decide) _) h
  refine ⟨finite, ?_⟩
  rw [roundScaled, eq, value, cast_signed, mul_assoc]

/-- The word of a whole number that has one. -/
theorem exact_ofInt (proper : f.Proper) {n : Int} (h : f.Representable n.natAbs) :
    (ofInt n : Binary f).isFinite = true ∧ (ofInt n : Binary f).exact = n := by
  have whole : (n.natAbs : ℚ) = n.natAbs / (1 : Nat) := by rw [Nat.cast_one, div_one]
  rw [whole] at h
  obtain ⟨finite, eq⟩ := exact_round proper (decide (n < 0)) Nat.one_pos h
  have sign : (if decide (n < 0) then -1 else 1 : ℚ) * n.natAbs = n := by
    rw [← cast_signed, signed, Int.cast_inj]
    split
    · rename_i less
      rw [decide_eq_true_iff] at less
      omega
    · rename_i nonneg
      rw [decide_eq_true_iff] at nonneg
      omega
  exact ⟨finite, by rw [ofInt, eq, ← whole, sign]⟩

theorem abs_exact {x : Binary f} {significand : Nat} {exponent : Int}
    (is : x.IsSignificand significand exponent) :
    |x.exact| = significand * 2 ^ exponent := by
  have nonneg : (0 : ℚ) ≤ significand * 2 ^ exponent := by positivity
  rw [exact_of_value is.value, cast_signed, mul_assoc, abs_mul, abs_of_nonneg nonneg]
  cases x.negative <;> simp

/-- A finite word stands for a number that has a word. -/
theorem representable_exact (proper : f.Proper) {x : Binary f} (h : x.isFinite = true) :
    f.Representable |x.exact| := by
  obtain ⟨significand, exponent, is⟩ := exists_significand proper h
  exact ⟨significand, exponent, is.lt, is.lowest_le, is.le_highest, abs_exact is⟩

/-- A number that has a word in both formats is converted as it is. -/
theorem exact_convert (from_proper : f.Proper) (proper : g.Proper) {x : Binary f}
    (hx : x.isFinite = true) (h : g.Representable |x.exact|) :
    (x.convert : Binary g).isFinite = true ∧ (x.convert : Binary g).exact = x.exact := by
  obtain ⟨significand, exponent, is⟩ := exists_significand from_proper hx
  rw [abs_exact is] at h
  rw [convert, is.value, exact_of_value is.value]
  exact exact_roundScaled proper h

/-- A product that has a word is not rounded. -/
theorem exact_mul (proper : f.Proper) {x y : Binary f} (hx : x.isFinite = true)
    (hy : y.isFinite = true) (h : f.Representable |x.exact * y.exact|) :
    (x.mul y).isFinite = true ∧ (x.mul y).exact = x.exact * y.exact := by
  obtain ⟨m, p, is_x⟩ := exists_significand proper hx
  obtain ⟨n, q, is_y⟩ := exists_significand proper hy
  have size : |x.exact * y.exact| = (m * n : Nat) * (2 : ℚ) ^ (p + q) := by
    rw [abs_mul, abs_exact is_x, abs_exact is_y, zpow_add₀ (by norm_num)]
    push_cast
    ring
  have product : x.exact * y.exact =
      signed (x.negative != y.negative) (m * n) * (2 : ℚ) ^ (p + q) := by
    rw [exact_of_value is_x.value, exact_of_value is_y.value, cast_signed, cast_signed, cast_signed,
      zpow_add₀ (by norm_num)]
    push_cast
    cases x.negative <;> cases y.negative <;> simp <;> ring
  rw [size] at h
  rw [mul, is_x.value, is_y.value, product]
  exact exact_roundScaled proper h

end Binary

/-! ### Whole parts -/

/-- The whole part of a number, rounded toward zero. -/
def wholePart (q : ℚ) : Int := if 0 ≤ q then ⌊q⌋ else ⌈q⌉

theorem wholePart_mono {p q : ℚ} (h : p ≤ q) : wholePart p ≤ wholePart q := by
  unfold wholePart
  split
  · rw [if_pos (by linarith)]
    exact Int.floor_le_floor h
  · split
    · rename_i less nonneg
      have below : ⌈p⌉ ≤ 0 := Int.ceil_le.2 (by simpa using (not_le.1 less).le)
      exact below.trans (Int.floor_nonneg.2 nonneg)
    · exact Int.ceil_le_ceil h

namespace Binary

variable {f : Format}

theorem wholePart_signed (negative : Bool) {q : ℚ} (h : 0 ≤ q) :
    wholePart ((if negative then -1 else 1) * q) = signed negative ⌊q⌋₊ := by
  have floor : (⌊q⌋₊ : Int) = ⌊q⌋ := Int.natCast_floor_eq_floor h
  cases negative with
  | false => simp [wholePart, signed, h, floor]
  | true =>
      rw [signed, if_pos rfl, floor, if_pos rfl, neg_one_mul, wholePart, Int.ceil_neg]
      split
      · obtain rfl : q = 0 := by linarith
        simp
      · rfl

/-- The natural part of a significand at a place. -/
theorem floor_eq_div (significand : Nat) (exponent : Int) :
    ⌊(significand : ℚ) * 2 ^ exponent⌋₊ = significand * power 2 exponent / power 2 (-exponent) := by
  rw [← power_div_power, ← mul_div_assoc, ← Nat.cast_mul, Nat.floor_div_eq_div]

theorem toInt_eq_wholePart (proper : f.Proper) {x : Binary f} (h : x.isFinite = true) :
    x.toInt = wholePart x.exact := by
  obtain ⟨significand, exponent, is⟩ := exists_significand proper h
  rw [toInt, is.value, exact_of_value is.value, cast_signed, mul_assoc,
    wholePart_signed _ (by positivity), floor_eq_div]

/-- Cutting off the fraction is exact. -/
theorem exact_truncate (proper : f.Proper) {x : Binary f} (h : x.isFinite = true) :
    x.truncate.isFinite = true ∧ x.truncate.exact = wholePart x.exact := by
  obtain ⟨significand, exponent, is⟩ := exists_significand proper h
  have representable :
      f.Representable ((⌊(significand : ℚ) * 2 ^ exponent⌋₊ : Nat) / (1 : Nat)) := by
    rw [Nat.cast_one, div_one]
    by_cases whole : 0 ≤ exponent
    · -- Without a fraction the number itself has a word.
      obtain ⟨n, rfl⟩ := Int.eq_ofNat_of_zero_le whole
      refine ⟨significand, n, is.lt, is.lowest_le, is.le_highest, ?_⟩
      rw [zpow_natCast]
      exact_mod_cast congrArg Nat.cast (Nat.floor_natCast (R := ℚ) (significand * 2 ^ n))
    · have less : ⌊(significand : ℚ) * 2 ^ exponent⌋₊ ≤ significand := by
        have le : (significand : ℚ) * 2 ^ exponent ≤ significand :=
          mul_le_of_le_one_right (by positivity) (zpow_le_one_of_nonpos₀ (by norm_num) (by omega))
        calc ⌊(significand : ℚ) * 2 ^ exponent⌋₊ ≤ ⌊(significand : ℚ)⌋₊ := Nat.floor_le_floor le
          _ = significand := Nat.floor_natCast _
      exact proper.representable_natCast (less.trans_lt is.lt)
  obtain ⟨finite, eq⟩ := exact_round proper x.negative Nat.one_pos representable
  rw [floor_eq_div] at finite eq
  rw [truncate, is.value]
  refine ⟨finite, ?_⟩
  rw [eq, ← toInt_eq_wholePart proper h, toInt, is.value, cast_signed, Nat.cast_one, div_one]

end Binary

end FaceAnnotator.Numeric
