import FaceAnnotator.Numeric.Binary
import Mathlib.Algebra.Order.Ring.Nat
/-!
# FaceAnnotator.Proofs.Numeric.Magnitude

**How great a rounded word can be.**

A quotient below `2 ^ k` is rounded to a word whose magnitude is bounded by a linear function of `k`
(`roundMagnitude_le`), and a magnitude bounds the significand and the exponent that the word stands
for (`value_of_magnitude_le`). The bounds are some bits too generous. They are for showing that a
product is finite, and no product here comes near the greatest word.
-/

namespace FaceAnnotator.Numeric

theorem nearestQuotient_lt {num den bound : Nat} (h : num < den * bound) :
    nearestQuotient num den ≤ bound := by
  have near := (nearestQuotient_le num den).2
  have less : num / den < bound := Nat.div_lt_of_lt_mul h
  omega

/-- A power with an integer exponent, in parts above and below the fraction line. -/
theorem power_eq_pow (base : Nat) (exponent : Int) : power base exponent = base ^ exponent.toNat :=
  rfl

namespace Format

theorem lastPlace_double (num den : Nat) :
    (num.log2 : Int) - den.log2 - 53 ≤ double.lastPlace num den ∧ -1074 ≤ double.lastPlace num den ∧
      (double.lastPlace num den ≤ (num.log2 : Int) - den.log2 - 52 ∨
        double.lastPlace num den = -1074) := by
  have lowest : double.lowest = -1074 := rfl
  have precision : double.precision = 53 := rfl
  unfold lastPlace
  rw [lowest, precision]
  dsimp only
  split <;> split <;> omega

/-- The significand at the last place has at most one bit too many. -/
theorem significand_le {num den : Nat} (pos : 0 < den) :
    nearestQuotient (num * power 2 (-(double.lastPlace num den)))
      (den * power 2 (double.lastPlace num den)) ≤ 2 ^ 54 := by
  obtain ⟨above, -, -⟩ := lastPlace_double num den
  generalize double.lastPlace num den = place at above ⊢
  have top : num < 2 ^ (num.log2 + 1) := Nat.lt_log2_self
  have bottom : 2 ^ den.log2 ≤ den := Nat.log2_self_le (Nat.ne_of_gt pos)
  apply nearestQuotient_lt
  rw [power_eq_pow, power_eq_pow]
  calc num * 2 ^ (-place).toNat
      < 2 ^ (num.log2 + 1) * 2 ^ (-place).toNat :=
        Nat.mul_lt_mul_of_pos_right top (Nat.two_pow_pos _)
    _ = 2 ^ (num.log2 + 1 + (-place).toNat) := (Nat.pow_add ..).symm
    _ ≤ 2 ^ (den.log2 + place.toNat + 54) := Nat.pow_le_pow_right (by decide) (by omega)
    _ = 2 ^ den.log2 * 2 ^ place.toNat * 2 ^ 54 := by rw [Nat.pow_add, Nat.pow_add]
    _ ≤ den * 2 ^ place.toNat * 2 ^ 54 :=
        Nat.mul_le_mul_right _ (Nat.mul_le_mul_right _ bottom)

theorem hidden_double : double.hidden = 2 ^ 52 := rfl

theorem infinity_double : double.infinity = 2047 * 2 ^ 52 := by decide

theorem roundMagnitude_le {num den k : Nat} (pos : 0 < den) (h : num < den * 2 ^ k) :
    double.roundMagnitude num den ≤ (k + 1026) * 2 ^ 52 := by
  by_cases zero : num = 0
  · simp [roundMagnitude, zero]
  -- The last place of a quotient is told by the lengths of its parts.
  have bits : num.log2 ≤ den.log2 + k := by
    have low : 2 ^ num.log2 ≤ num := Nat.log2_self_le zero
    have top : den < 2 ^ (den.log2 + 1) := Nat.lt_log2_self
    have less : 2 ^ num.log2 < 2 ^ (den.log2 + 1 + k) := by
      calc 2 ^ num.log2 ≤ num := low
        _ < den * 2 ^ k := h
        _ ≤ 2 ^ (den.log2 + 1) * 2 ^ k := Nat.mul_le_mul_right _ (Nat.le_of_lt top)
        _ = 2 ^ (den.log2 + 1 + k) := (Nat.pow_add ..).symm
    have := (Nat.pow_lt_pow_iff_right (by decide : 1 < 2)).1 less
    omega
  obtain ⟨-, least, most⟩ := lastPlace_double num den
  have significand := @significand_le num den pos
  have place : (double.lastPlace num den - double.lowest).toNat ≤ k + 1022 := by
    have lowest : double.lowest = -1074 := rfl
    omega
  have scaled := Nat.mul_le_mul_right (2 ^ 52) place
  rw [roundMagnitude, if_neg zero, hidden_double]
  dsimp only
  omega

end Format

namespace Binary

theorem magnitude_ofMagnitude {negative : Bool} {n : Nat} (h : n < 2 ^ 63) :
    (ofMagnitude negative n : Double).magnitude = n := by
  have weight : Format.double.signWeight = 2 ^ 63 := rfl
  have width : Format.double.width = 64 := rfl
  unfold magnitude ofMagnitude
  rw [BitVec.toNat_ofNat, weight, width]
  split <;> omega

theorem magnitude_round {negative : Bool} {num den k : Nat} (pos : 0 < den) (h : num < den * 2 ^ k)
    (small : k ≤ 1000) : (round negative num den : Double).magnitude ≤ (k + 1026) * 2 ^ 52 := by
  have le := Format.roundMagnitude_le pos h
  rw [round, magnitude_ofMagnitude (by omega)]
  exact le

/-- What a word of bounded magnitude stands for. -/
theorem value_of_magnitude_le {x : Double} {k : Nat} (h : x.magnitude ≤ (k + 1026) * 2 ^ 52)
    (small : k ≤ 1000) :
    ∃ negative significand exponent, x.value = .finite negative significand exponent ∧
      significand < 2 ^ 53 ∧ exponent ≤ (k : Int) - 49 := by
  have top : x.magnitude < Format.double.infinity := by
    rw [Format.infinity_double]
    omega
  have lowest : Format.double.lowest = -1074 := rfl
  unfold value
  rw [if_neg (by omega), if_neg (by omega), Format.hidden_double, lowest]
  split
  · rename_i subnormal
    exact ⟨_, _, _, rfl, by omega, by omega⟩
  · exact ⟨_, _, _, rfl, by omega, by omega⟩

/-- What the word of a natural number stands for. -/
theorem value_ofNat {n k : Nat} (h : n < 2 ^ k) (small : k ≤ 1000) :
    ∃ negative significand exponent,
      (ofNat n : Double).value = .finite negative significand exponent ∧
        significand < 2 ^ 53 ∧ exponent ≤ (k : Int) - 49 := by
  refine value_of_magnitude_le ?_ small
  exact magnitude_round Nat.one_pos (by omega) small

/-- The product of two natural numbers that are not too great is finite. -/
theorem isFinite_mul_ofNat {n m j k : Nat} (hn : n < 2 ^ j) (hm : m < 2 ^ k) (small : j + k ≤ 890) :
    ((ofNat n : Double).mul (ofNat m)).isFinite = true := by
  obtain ⟨s, a, p, value_n, size_a, most_p⟩ := value_ofNat hn (by omega)
  obtain ⟨t, b, q, value_m, size_b, most_q⟩ := value_ofNat hm (by omega)
  have product : a * b * power 2 (p + q) < power 2 (-(p + q)) * 2 ^ (j + k + 106) := by
    have digits : a * b < 2 ^ 53 * 2 ^ 53 := Nat.mul_lt_mul'' size_a size_b
    rw [← Nat.pow_add] at digits
    rw [power_eq_pow, power_eq_pow]
    calc a * b * 2 ^ (p + q).toNat
        < 2 ^ 106 * 2 ^ (p + q).toNat := Nat.mul_lt_mul_of_pos_right digits (Nat.two_pow_pos _)
      _ = 2 ^ (106 + (p + q).toNat) := (Nat.pow_add ..).symm
      _ ≤ 2 ^ ((-(p + q)).toNat + (j + k + 106)) := Nat.pow_le_pow_right (by decide) (by omega)
      _ = 2 ^ (-(p + q)).toNat * 2 ^ (j + k + 106) := Nat.pow_add ..
  have bounded : ((ofNat n : Double).mul (ofNat m)).magnitude ≤ (j + k + 106 + 1026) * 2 ^ 52 := by
    rw [mul, value_n, value_m]
    exact magnitude_round (power_pos (by decide) _) product (by omega)
  rw [isFinite, Format.infinity_double, decide_eq_true_iff]
  omega

end Binary

end FaceAnnotator.Numeric
