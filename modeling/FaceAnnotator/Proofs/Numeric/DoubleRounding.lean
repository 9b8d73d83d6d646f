import FaceAnnotator.Proofs.Numeric.Rounding
/-!
# FaceAnnotator.Proofs.Numeric.DoubleRounding

**Rounding to the wide format first.**

A number in the interval of a classifier output is rounded to this output. If it is rounded to the
wide format on the way, it may get to an end of the interval, and from there to the neighbour. It
stays inside if it is no nearer to an end than one unit in the last place of the wide format
(`Format.IsPlaced.contains_round`), and so it is if it and the ends are fractions of a common
denominator that is not too great.
-/

namespace FaceAnnotator.Numeric

/-- Two different fractions of one denominator differ by one part at least. -/
theorem add_inv_le_of_lt {p q : ℚ} {parts a b : Nat} (pos : 0 < parts) (hp : p * parts = a)
    (hq : q * parts = b) (h : p < q) : p + (parts : ℚ)⁻¹ ≤ q := by
  have some : (0 : ℚ) < parts := Nat.cast_pos.2 pos
  have less : a < b := by
    rw [← mul_lt_mul_iff_left₀ some, hp, hq] at h
    exact_mod_cast h
  have next : (a : ℚ) + 1 ≤ b := by exact_mod_cast less
  rw [← mul_le_mul_iff_left₀ some, add_mul, inv_mul_cancel₀ (ne_of_gt some), hp, hq]
  exact next

namespace Interval

theorem contains_iff (i : Interval) (q : ℚ) : i.Contains q ↔
    if i.closed then i.low * 2 ^ i.unit ≤ q ∧ q ≤ i.high * 2 ^ i.unit
    else i.low * 2 ^ i.unit < q ∧ q < i.high * 2 ^ i.unit := by
  have one : (0 : ℚ) < 2 ^ i.unit := zpow_pos (by norm_num) _
  rw [Contains, le_div_iff₀ one, div_le_iff₀ one, lt_div_iff₀ one, div_lt_iff₀ one]

end Interval

theorem representable_double {n : Nat} {e : Int} (small : n < 2 ^ 53) (low : -1074 ≤ e)
    (high : e ≤ 971) :
    Format.double.Representable (n * 2 ^ e) := by
  have precision : Format.double.precision = 53 := rfl
  have lowest : Format.double.lowest = -1074 := rfl
  have highest : Format.double.highest = 971 := by decide +kernel
  exact ⟨n, e, by rwa [precision], by rwa [lowest], by rwa [highest], rfl⟩

namespace Format.IsPlaced

variable {significand : Nat} {exponent : Int} {num den : Nat}

theorem bounds_single (is : single.IsPlaced significand exponent) :
    significand < 2 ^ 24 ∧ -149 ≤ exponent ∧ exponent ≤ 104 := by
  have hidden : single.hidden = 2 ^ 23 := rfl
  have lowest : single.lowest = -149 := rfl
  have highest : single.highest = 104 := by decide +kernel
  obtain ⟨lt, low, high, -⟩ := is
  rw [hidden] at lt
  rw [lowest] at low
  rw [highest] at high
  exact ⟨by omega, low, high⟩

/-- The interval of an odd significand reaches to the half places next to it, and does not include
them. -/
theorem contains_odd_iff (odd : significand % 2 = 1) (q : ℚ) :
    (Interval.around .single significand exponent).Contains q ↔
      (2 * significand - 1 : Nat) * 2 ^ (exponent - 1) < q ∧
      q < (2 * significand + 1 : Nat) * 2 ^ (exponent - 1) := by
  have hidden : single.hidden = 2 ^ 23 := rfl
  have closed : (Interval.around .single significand exponent).closed = false := by
    simp [Interval.around, odd]
  have low : (Interval.around .single significand exponent).low = 2 * (2 * significand - 1) := by
    dsimp only [Interval.around]
    rw [hidden, if_neg (by omega)]
    omega
  have high : (Interval.around .single significand exponent).high = 2 * (2 * significand + 1) := by
    dsimp only [Interval.around]
    omega
  have unit : (2 : ℚ) ^ (exponent - 1) =
      2 * 2 ^ (Interval.around .single significand exponent).unit := by
    rw [← zpow_one_add₀ (by norm_num)]
    congr 1
    dsimp only [Interval.around]
    omega
  rw [Interval.contains_iff, closed, low, high, unit]
  simp only [Bool.false_eq_true, if_false, Nat.cast_mul, Nat.cast_ofNat]
  ring_nf

/-- The ends of the interval of an even significand belong to it, and they have words. -/
theorem contains_round_of_even (is : single.IsPlaced significand exponent)
    (even : significand % 2 = 0) (positive : 0 < significand) (pos : 0 < den)
    (inside : (Interval.around .single significand exponent).Contains (num / den))
    (negative : Bool) :
    (Binary.round negative num den : Double).isFinite = true ∧
      (Interval.around .single significand exponent).Contains
        |(Binary.round negative num den : Double).exact| := by
  obtain ⟨small, least, most⟩ := is.bounds_single
  have closed : (Interval.around .single significand exponent).closed = true := by
    simp [Interval.around, even]
  have low_lt : (Interval.around .single significand exponent).low < 2 ^ 53 := by
    dsimp only [Interval.around]
    omega
  have high_lt : (Interval.around .single significand exponent).high < 2 ^ 53 := by
    dsimp only [Interval.around]
    omega
  have unit : (Interval.around .single significand exponent).unit = exponent - 2 := rfl
  rw [Interval.contains_iff, closed, if_pos rfl] at inside ⊢
  obtain ⟨low, high⟩ := inside
  obtain ⟨finite, le⟩ := Binary.round_le proper_double negative pos
    (representable_double high_lt (by omega) (by omega)) high
  exact ⟨finite, Binary.le_round proper_double pos
    (representable_double low_lt (by omega) (by omega)) low finite, le⟩

/-- The ends of the interval of an odd significand do not belong to it. Next to them there are words
inside, and a number that is one unit away from the ends is not beyond these. -/
theorem contains_round_of_odd (is : single.IsPlaced significand exponent)
    (odd : significand % 2 = 1) (pos : 0 < den)
    (low : ((2 * significand - 1 : Nat) : ℚ) * 2 ^ (exponent - 1) + 2 ^ (exponent - 29) ≤ num / den)
    (high : (num : ℚ) / den + 2 ^ (exponent - 29) ≤
      (2 * significand + 1 : Nat) * 2 ^ (exponent - 1)) (negative : Bool) :
    (Binary.round negative num den : Double).isFinite = true ∧
      (Interval.around .single significand exponent).Contains
        |(Binary.round negative num den : Double).exact| := by
  obtain ⟨small, least, most⟩ := is.bounds_single
  have finer : (2 : ℚ) ^ (exponent - 1) = 2 ^ 28 * 2 ^ (exponent - 29) := by
    rw [← zpow_natCast, ← zpow_add₀ (by norm_num)]
    congr 1
    omega
  have next : ((2 * significand - 1 : Nat) : ℚ) * 2 ^ (exponent - 1) + 2 ^ (exponent - 29) =
      ((2 * significand - 1) * 2 ^ 28 + 1 : Nat) * 2 ^ (exponent - 29) := by
    rw [finer]
    push_cast
    ring
  have previous : ((2 * significand + 1 : Nat) : ℚ) * 2 ^ (exponent - 1) =
      ((2 * significand + 1) * 2 ^ 28 - 1 : Nat) * 2 ^ (exponent - 29) + 2 ^ (exponent - 29) := by
    rw [finer, Nat.cast_sub (by omega)]
    push_cast
    ring
  rw [next] at low
  rw [previous] at high
  obtain ⟨finite, le⟩ := Binary.round_le proper_double negative pos
    (representable_double (by omega) (by omega) (by omega)) (le_of_add_le_add_right high)
  have ge := Binary.le_round proper_double pos
    (representable_double (by omega) (by omega) (by omega)) low finite
  have one : (0 : ℚ) < 2 ^ (exponent - 29) := zpow_pos (by norm_num) _
  rw [contains_odd_iff odd, previous]
  rw [← next] at ge
  exact ⟨finite, by linarith, by linarith⟩

/-- **A number in the interval stays there when it is rounded to the wide format**, if it is
a fraction of a denominator that the ends of the interval are fractions of too, and that is
not too great. -/
theorem contains_round (is : single.IsPlaced significand exponent) (positive : 0 < significand)
    (pos : 0 < den) (inside : (Interval.around .single significand exponent).Contains (num / den))
    {parts a b : Nat} (some : 0 < parts) (fraction : (num : ℚ) / den * parts = a)
    (ends : (2 : ℚ) ^ (exponent - 1) * parts = b)
    (coarse : (2 : ℚ) ^ (exponent - 29) ≤ (parts : ℚ)⁻¹) (negative : Bool) :
    (Binary.round negative num den : Double).isFinite = true ∧
      (Interval.around .single significand exponent).Contains
        |(Binary.round negative num den : Double).exact| := by
  rcases Nat.mod_two_eq_zero_or_one significand with even | odd
  · exact is.contains_round_of_even even positive pos inside negative
  · obtain ⟨low, high⟩ := (contains_odd_iff odd _).1 inside
    have whole (n : Nat) : (n : ℚ) * 2 ^ (exponent - 1) * parts = (n * b : Nat) := by
      rw [mul_assoc, ends, Nat.cast_mul]
    have above := (add_inv_le_of_lt some (whole _) fraction low).trans' (add_le_add_right coarse _)
    have below := (add_inv_le_of_lt some fraction (whole _) high).trans' (add_le_add_right coarse _)
    exact is.contains_round_of_odd odd pos above below negative

end Format.IsPlaced

namespace Binary

variable {x : Single} {negative : Bool} {significand : Nat} {exponent : Int}

/-- A word of the wide format in the interval is converted to the classifier output. -/
theorem convert_of_contains (h : x.value = .finite negative significand exponent)
    (some : 0 < significand) {y : Double} (finite : y.isFinite = true)
    (sign : y.negative = negative)
    (inside : (Interval.around .single significand exponent).Contains |y.exact|) :
    (y.convert : Single) = x := by
  obtain ⟨m, e, is⟩ := exists_significand Format.proper_double finite
  have quotient : |y.exact| = (m * power 2 e : Nat) / (power 2 (-e) : Nat) := by
    rw [abs_exact is, Nat.cast_mul, mul_div_assoc, power_div_power]
  rw [quotient] at inside
  rw [convert, is.value, sign]
  exact round_of_contains Format.proper_single h some (power_pos (by decide) _) inside

/-- **Rounding twice is rounding once**, for a fraction of a denominator that the ends of the
interval are fractions of too, and that is not too great. -/
theorem convert_round (h : x.value = .finite negative significand exponent) (some : 0 < significand)
    {num den a b : Nat} (pos : 0 < den)
    (inside : (Interval.around .single significand exponent).Contains (num / den))
    {parts : Nat} (parts_pos : 0 < parts)
    (fraction : (num : ℚ) / den * parts = a) (ends : (2 : ℚ) ^ (exponent - 1) * parts = b)
    (coarse : (2 : ℚ) ^ (exponent - 29) ≤ (parts : ℚ)⁻¹) :
    ((round negative num den : Double).convert : Single) = x := by
  have is := (isPlaced_of_value Format.proper_single h).1
  obtain ⟨finite, stays⟩ :=
    is.contains_round some pos inside parts_pos fraction ends coarse negative
  refine convert_of_contains h some finite ?_ stays
  exact negative_round Format.proper_double negative

/-- Powers of ten that are not too great a denominator: the first one, and those that the ends of
the interval have the halves for. -/
theorem coarse_of_places {places halves : Nat}
    (near : places = 1 ∧ exponent + halves ≤ 21 ∨ places ≤ 12 ∧ exponent + halves ≤ 1) :
    (2 : ℚ) ^ (exponent - 29) ≤ ((5 ^ places * 2 ^ halves : Nat) : ℚ)⁻¹ := by
  rw [← one_div, le_div_iff₀ (by positivity)]
  push_cast
  have together : (2 : ℚ) ^ (exponent - 29) * (5 ^ places * 2 ^ halves) =
      5 ^ places * 2 ^ (exponent + halves - 29) := by
    rw [show exponent + (halves : Int) - 29 = exponent - 29 + halves by ring,
      zpow_add₀ (by norm_num), zpow_natCast]
    ring
  rw [together]
  rcases near with ⟨rfl, near⟩ | ⟨twelve, near⟩
  · calc (5 : ℚ) ^ 1 * 2 ^ (exponent + halves - 29) ≤ 5 ^ 1 * 2 ^ (-8 : Int) := by
          gcongr
          · norm_num
          · omega
      _ ≤ 1 := by norm_num
  · calc (5 : ℚ) ^ places * 2 ^ (exponent + halves - 29) ≤ 5 ^ 12 * 2 ^ (-28 : Int) := by
          gcongr
          · norm_num
          · norm_num
          · omega
      _ ≤ 1 := by norm_num

/-- Decimals with few places are rounded twice without harm: with one place, or with no more places
than the ends of the interval have halves. -/
theorem convert_round_of_places (h : x.value = .finite negative significand exponent)
    (some : 0 < significand) {num den n places : Nat} (pos : 0 < den)
    (inside : (Interval.around .single significand exponent).Contains (num / den))
    (decimal : (num : ℚ) / den = n / 10 ^ places)
    (few : places = 1 ∧ exponent ≤ 20 ∨ places ≤ 12 ∧ (places : Int) ≤ 1 - exponent) :
    ((round negative num den : Double).convert : Single) = x := by
  obtain ⟨halves, below, reach, near⟩ : ∃ halves : Nat, places ≤ halves ∧ 1 - exponent ≤ halves ∧
      (places = 1 ∧ exponent + halves ≤ 21 ∨ places ≤ 12 ∧ exponent + halves ≤ 1) := by
    refine ⟨max places (1 - exponent).toNat, ?_⟩
    omega
  have ten : (10 : ℚ) ^ places = 5 ^ places * 2 ^ places := by
    rw [← mul_pow]
    norm_num
  have parts_pos : 0 < 5 ^ places * 2 ^ halves := by positivity
  refine convert_round h some pos inside parts_pos (a := n * 2 ^ (halves - places))
    (b := 5 ^ places * 2 ^ (exponent - 1 + halves).toNat) ?_ ?_ (coarse_of_places near)
  · obtain ⟨more, rfl⟩ := Nat.exists_eq_add_of_le below
    rw [decimal, ten, Nat.add_sub_cancel_left]
    push_cast
    rw [pow_add]
    field_simp
  · have whole : (2 : ℚ) ^ (exponent - 1) * 2 ^ halves = 2 ^ (exponent - 1 + halves).toNat := by
      rw [← zpow_natCast, ← zpow_natCast, ← zpow_add₀ (by norm_num), Int.toNat_of_nonneg (by omega)]
    push_cast
    rw [← whole]
    ring

end Binary

end FaceAnnotator.Numeric
