import FaceAnnotator.Proofs.Numeric.Rounding
import FaceAnnotator.Proofs.Numeric.Shortest
/-!
# FaceAnnotator.Proofs.Numeric.Decimal

**The shortest decimal of a classifier output stands for it.**

`Interval.holds` asks, in natural numbers, whether a grid point is in the interval of a word
(`Interval.holds_iff`). A grid as fine as the interval's unit has such a point. The finest grid that
is tried is that fine, so the search never comes to its end without a hit
(`contains_shortestDecimal`), and it does not go on to a finer grid before it has to
(`Interval.search_spec`).
-/

namespace FaceAnnotator.Numeric

/-- The number that a decimal spells. -/
def Decimal.value (d : Decimal) : ℚ := d.digits * 10 ^ d.exponent

/-- A decimal lies between the powers of ten around its first digit. -/
theorem Decimal.leading_bounds {d : Decimal} (nonzero : d.digits ≠ 0) :
    (10 : ℚ) ^ d.leading ≤ d.value ∧ d.value < 10 ^ (d.leading + 1) := by
  have one (e : Int) : (0 : ℚ) < 10 ^ e := zpow_pos (by norm_num) e
  have some : 0 < (digitsOf d.digits).length := List.length_pos_iff.2 Nat.toDigits_ne_nil
  obtain ⟨others, length⟩ := Nat.exists_eq_add_of_le' some
  have low : 10 ^ others ≤ d.digits := by
    rcases Nat.eq_zero_or_pos others with rfl | more
    · omega
    · have long : ¬ (digitsOf d.digits).length ≤ others := by omega
      rwa [digitsOf, Nat.length_toDigits_le_iff (by decide) more, not_lt] at long
  have high : d.digits < 10 ^ (others + 1) :=
    (Nat.length_toDigits_le_iff (by decide) (Nat.succ_pos others)).1 length.le
  rw [leading, length, Nat.add_sub_cancel, value, add_assoc, zpow_add₀ (by norm_num),
    zpow_add₀ (by norm_num), mul_comm (10 ^ d.exponent : ℚ), mul_comm (10 ^ d.exponent : ℚ),
    mul_le_mul_iff_left₀ (one _), mul_lt_mul_iff_left₀ (one _)]
  exact ⟨by exact_mod_cast low, by exact_mod_cast high⟩

/-- A decimal as its digits over a power of ten, with a zero behind the point if it has no
other digit there. -/
theorem Decimal.value_eq_div (d : Decimal) {places : Nat}
    (scale : d.exponent - (d.exponent + 1).toNat = -(places : Int)) :
    d.value = (d.digits * 10 ^ (d.exponent + 1).toNat : Nat) / 10 ^ places := by
  have together : (10 : ℚ) ^ d.exponent * 10 ^ places = 10 ^ (d.exponent + 1).toNat := by
    rw [← zpow_natCast, ← zpow_natCast, ← zpow_add₀ (by norm_num)]
    congr 1
    omega
  rw [value, eq_div_iff (by positivity), mul_assoc, together]
  push_cast
  rfl

/-! ### Powers of ten and of two -/

theorem ten_zpow_le_of_nonneg {k : Int} (h : 0 ≤ k) : (10 : ℚ) ^ k ≤ 2 ^ (4 * k) := by
  obtain ⟨n, rfl⟩ := Int.eq_ofNat_of_zero_le h
  have le : 10 ^ n ≤ 2 ^ (4 * n) := ten_pow_le n
  exact_mod_cast le

theorem ten_zpow_le_of_nonpos {k : Int} (h : k ≤ 0) : (10 : ℚ) ^ k ≤ 2 ^ (3 * k) := by
  obtain ⟨n, rfl⟩ := Int.exists_eq_neg_ofNat h
  have le : (2 : ℚ) ^ (3 * n) ≤ 10 ^ n := by exact_mod_cast le_ten_pow n
  rw [zpow_neg, mul_neg, zpow_neg, zpow_natCast]
  exact inv_anti₀ (by positivity) (by exact_mod_cast le)

namespace Interval

variable {i : Interval}

/-! ### Grid points -/

theorem scale_pos (i : Interval) (k : Int) : (0 : ℚ) < (power 2 i.unit * power 10 (-k) : Nat) :=
  Nat.cast_pos.2 (Nat.mul_pos (power_pos (by decide) _) (power_pos (by decide) _))

/-- The common scale on which the interval meets a grid is that of the interval's unit. -/
theorem point_div_scale (i : Interval) (k : Int) (n : Nat) :
    (i.point k n : ℚ) / (power 2 i.unit * power 10 (-k) : Nat) = n * 10 ^ k / 2 ^ i.unit := by
  have two : (2 : ℚ) ^ i.unit = power 2 i.unit / power 2 (-i.unit) := (power_quotient 2 i.unit).symm
  have ten : (10 : ℚ) ^ k = power 10 k / power 10 (-k) := (power_quotient 10 k).symm
  have := cast_power_ne_zero i.unit
  have := cast_power_ne_zero (-i.unit)
  have nonzero : (power 10 (-k) : ℚ) ≠ 0 :=
    Nat.cast_ne_zero.2 (Nat.ne_of_gt (power_pos (by decide) _))
  rw [two, ten, point]
  push_cast
  field_simp

theorem units_le_point (i : Interval) (k : Int) (n m : Nat) :
    i.units k m ≤ i.point k n ↔ (m : ℚ) ≤ n * 10 ^ k / 2 ^ i.unit := by
  rw [← point_div_scale, le_div_iff₀ (i.scale_pos k), ← Nat.cast_mul, Nat.cast_le]
  rfl

theorem point_le_units (i : Interval) (k : Int) (n m : Nat) :
    i.point k n ≤ i.units k m ↔ n * 10 ^ k / 2 ^ i.unit ≤ (m : ℚ) := by
  rw [← point_div_scale, div_le_iff₀ (i.scale_pos k), ← Nat.cast_mul, Nat.cast_le]
  rfl

/-- The test of a grid point is about the number that it is. -/
theorem holds_iff (i : Interval) (k : Int) (n : Nat) :
    i.holds k n = true ↔ i.Contains (n * 10 ^ k) := by
  unfold holds Contains
  split <;>
    simp [units_le_point, point_le_units, ← not_le]

/-- The grid point below the value is as near as the grid is fine. -/
theorem floor_bounds (i : Interval) (k : Int) :
    (i.floor k : ℚ) * 10 ^ k / 2 ^ i.unit ≤ i.middle ∧
      (i.middle : ℚ) < i.floor k * 10 ^ k / 2 ^ i.unit + 10 ^ k / 2 ^ i.unit := by
  have one : 0 < i.point k 1 :=
    Nat.mul_pos Nat.one_pos (Nat.mul_pos (power_pos (by decide) _) (power_pos (by decide) _))
  have multiple (n : Nat) : n * i.point k 1 = i.point k n := by
    rw [point, Nat.one_mul, point]
  constructor
  · rw [← point_le_units, ← multiple]
    exact Nat.div_mul_le_self _ _
  · have next : (i.floor k : ℚ) * 10 ^ k / 2 ^ i.unit + 10 ^ k / 2 ^ i.unit =
        (i.floor k + 1 : Nat) * 10 ^ k / 2 ^ i.unit := by
      push_cast
      ring
    rw [next, ← not_le, ← point_le_units, ← multiple, not_le]
    rw [Nat.succ_mul]
    exact Nat.lt_div_mul_add one

/-! ### The search -/

/-- An interval that reaches around its middle. -/
structure IsOpened (i : Interval) : Prop where
  low_lt : i.low < i.middle
  lt_high : i.middle < i.high

theorem isOpened_around {f : Format} {significand : Nat} (pos : 0 < significand) (exponent : Int) :
    (around f significand exponent).IsOpened := by
  constructor <;>
  · dsimp only [around]
    try split
    all_goals omega

/-- A grid that is as fine as the unit has a point in the interval. -/
theorem holds_floor (opened : i.IsOpened) {k : Int} (fine : (10 : ℚ) ^ k ≤ 2 ^ i.unit) :
    i.holds k (i.floor k) = true := by
  obtain ⟨below, above⟩ := i.floor_bounds k
  have step : (10 : ℚ) ^ k / 2 ^ i.unit ≤ 1 := (div_le_one (zpow_pos (by norm_num) _)).2 fine
  have low : (i.low : ℚ) + 1 ≤ i.middle := by exact_mod_cast opened.low_lt
  have high : (i.middle : ℚ) + 1 ≤ i.high := by exact_mod_cast opened.lt_high
  rw [holds_iff, Contains]
  split
  · exact ⟨by linarith, by linarith⟩
  · exact ⟨by linarith, by linarith⟩

theorem onGrid_ne_none {k : Int} (h : i.holds k (i.floor k) = true) : i.onGrid k ≠ none := by
  unfold onGrid
  dsimp only
  rw [h]
  cases i.holds k (i.floor k + 1) <;> simp
  split
  · simp
  split
  · simp
  split <;> simp

/-- **The search ends in the interval, and on the first grid on which it can.** A coarser grid
than the first one that is tried is never needed, and a grid on which nothing was found is coarser
than the unit. -/
theorem search_spec (opened : i.IsOpened) {grids : Nat} {k : Int}
    (fine : (10 : ℚ) ^ (k - grids) ≤ 2 ^ i.unit) :
    i.Contains (i.search grids k).value ∧
      ((i.search grids k).exponent = k ∨
        (2 : ℚ) ^ i.unit < 10 ^ ((i.search grids k).exponent + 1)) := by
  induction grids generalizing k with
  | zero =>
      rw [Nat.cast_zero, sub_zero] at fine
      exact ⟨(i.holds_iff k _).1 (holds_floor opened fine), .inl rfl⟩
  | succ grids ih =>
      unfold search
      cases hit : i.onGrid k with
      | some n => exact ⟨(i.holds_iff k n).1 (of_onGrid hit).1, .inl rfl⟩
      | none =>
          have coarse : (2 : ℚ) ^ i.unit < 10 ^ k := by
            by_contra fine
            exact onGrid_ne_none (holds_floor opened (not_lt.1 fine)) hit
          have fine : (10 : ℚ) ^ (k - 1 - grids) ≤ 2 ^ i.unit := by
            rwa [show k - 1 - (grids : Int) = k - (grids + 1 : Nat) by omega]
          obtain ⟨inside, first | needed⟩ := ih fine
          · refine ⟨inside, .inr ?_⟩
            dsimp only
            rwa [first, Int.sub_add_cancel]
          · exact ⟨inside, .inr needed⟩

/-- The finest grid that is tried is finer than the unit of any classifier output. -/
theorem finest_le (small : i.IsSmall) : (10 : ℚ) ^ (i.coarsest - grids) ≤ 2 ^ i.unit := by
  obtain ⟨least, most⟩ := log2_middle small
  obtain ⟨-, -, -, unit_ge, unit_le⟩ := small
  have k_eq : i.coarsest - grids = (i.middle.log2 + 1 + i.unit) * 30103 / 100000 - 20 := by
    unfold coarsest grids
    omega
  rcases le_total 0 (i.coarsest - grids) with nonneg | nonpos
  · exact (ten_zpow_le_of_nonneg nonneg).trans (zpow_le_zpow_right₀ (by norm_num) (by omega))
  · exact (ten_zpow_le_of_nonpos nonpos).trans (zpow_le_zpow_right₀ (by norm_num) (by omega))

end Interval

section Shortest

variable {significand : Nat} {exponent : Int} (pos : 0 < significand) (small : significand < 2 ^ 24)
  (least : -149 ≤ exponent) (most : exponent ≤ 104)
include pos small least most

/-- **The shortest decimal of a classifier output is in its interval.** -/
theorem contains_shortestDecimal :
    (Interval.around .single significand exponent).Contains
      (shortestDecimal .single significand exponent).value :=
  (Interval.search_spec (Interval.isOpened_around pos exponent)
    (Interval.finest_le (Interval.isSmall_around pos small least most))).1

end Shortest

/-! ### Classifier outputs near one -/

section Near

variable {significand : Nat} {exponent : Int} (full : 2 ^ 23 ≤ significand)
  (small : significand < 2 ^ 24)
  (least : -37 ≤ exponent) (most : exponent ≤ 20)
include full small least most

/-- How far the shortest decimal may be from the word. -/
theorem value_bounds :
    (significand - 1 / 2) * 2 ^ exponent ≤ (shortestDecimal .single significand exponent).value ∧
      (shortestDecimal .single significand exponent).value ≤
        (significand + 1 / 2) * 2 ^ exponent := by
  have near :=
    (contains_shortestDecimal (by omega) small (by omega) (by omega : exponent ≤ 104)).isNearest
  have one : (0 : ℚ) < 2 ^ exponent := zpow_pos (by norm_num) _
  exact ⟨(le_div_iff₀ one).1 near.low, (div_le_iff₀ one).1 near.high⟩

/-- The shortest decimal has no more than twelve places, and if it has more than one, no more than
the word has halves. -/
theorem places_le :
    -(shortestDecimal .single significand exponent).exponent ≤ 1 ∨
      -(shortestDecimal .single significand exponent).exponent ≤ 12 ∧
        -(shortestDecimal .single significand exponent).exponent ≤ 1 - exponent := by
  have is := Interval.isSmall_around (by omega : 0 < significand) small (by omega : -149 ≤ exponent)
    (by omega)
  have opened := Interval.isOpened_around (f := .single) (by omega : 0 < significand) exponent
  obtain ⟨-, first | needed⟩ := Interval.search_spec opened (Interval.finest_le is)
  · -- The first grid that is tried has no places to speak of.
    have first : (shortestDecimal .single significand exponent).exponent =
        ((4 * significand).log2 + 1 + (exponent - 2)) * 30103 / 100000 + 2 := first
    have low : 25 ≤ (4 * significand).log2 := (Nat.le_log2 (by omega)).2 (by omega)
    omega
  · have needed : (2 : ℚ) ^ (exponent - 2) <
        10 ^ ((shortestDecimal .single significand exponent).exponent + 1) := needed
    generalize (shortestDecimal .single significand exponent).exponent = k at needed ⊢
    by_contra more
    have few : -12 ≤ k := by
      by_contra thirteen
      have fine : (10 : ℚ) ^ (k + 1) ≤ 10 ^ (-12 : Int) :=
        zpow_le_zpow_right₀ (by norm_num) (by omega)
      have coarse : (2 : ℚ) ^ (-39 : Int) ≤ 2 ^ (exponent - 2) :=
        zpow_le_zpow_right₀ (by norm_num) (by omega)
      norm_num at fine coarse
      linarith
    have powers := needed.trans_le (ten_zpow_le_of_nonpos (by omega))
    rw [zpow_lt_zpow_iff_right₀ (by norm_num)] at powers
    omega

/-- The digits fit into a significand of the wide format, also with a zero behind the point. -/
theorem digits_lt :
    (shortestDecimal .single significand exponent).digits *
      10 ^ ((shortestDecimal .single significand exponent).exponent + 1).toNat < 2 ^ 53 := by
  obtain ⟨-, high⟩ := value_bounds full small least most
  have places := places_le full small least most
  generalize shortestDecimal .single significand exponent = d at high places ⊢
  have size : d.value < 2 ^ (24 + exponent) := by
    have top : (significand : ℚ) + 1 ≤ 2 ^ 24 := by exact_mod_cast small
    rw [zpow_add₀ (by norm_num)]
    refine high.trans_lt (mul_lt_mul_of_pos_right ?_ (zpow_pos (by norm_num) _))
    norm_num at top ⊢
    linarith
  obtain ⟨n, eq⟩ := Int.eq_ofNat_of_zero_le (by omega : 0 ≤ (d.exponent + 1).toNat - d.exponent)
  have spelled : ((d.digits * 10 ^ (d.exponent + 1).toNat : Nat) : ℚ) = d.value * 10 ^ n := by
    rw [d.value_eq_div (by omega : _ = -(n : Int)), div_mul_cancel₀ _ (by positivity)]
  have fits : ((d.digits * 10 ^ (d.exponent + 1).toNat : Nat) : ℚ) < (2 ^ 53 : Nat) := by
    rw [spelled]
    rcases le_or_gt (-d.exponent) 1 with few | more
    · obtain rfl : n = 1 := by omega
      have wide : (2 : ℚ) ^ (24 + exponent) ≤ 2 ^ (44 : Int) :=
        zpow_le_zpow_right₀ (by norm_num) (by omega)
      norm_num at wide ⊢
      linarith
    · obtain ⟨most, near⟩ := places.resolve_left (by omega)
      calc d.value * 10 ^ n < 2 ^ (24 + exponent) * 10 ^ n := by gcongr
        _ = 2 ^ (24 + exponent + n) * 5 ^ n := by
            rw [zpow_add₀ (by norm_num) (24 + exponent), zpow_natCast, mul_assoc, ← mul_pow]
            norm_num
        _ ≤ 2 ^ (25 : Int) * 5 ^ 12 := by
            gcongr
            · norm_num
            · omega
            · norm_num
            · omega
        _ < (2 ^ 53 : Nat) := by norm_num
  exact_mod_cast fits

/-- The decimal is written in place, unless it is `10 ^ 13` for the word just below. -/
theorem writesInPlace (less : significand * (2 : ℚ) ^ exponent < 10 ^ 13) :
    Layout.data.writesInPlace (shortestDecimal .single significand exponent).leading = true ∨
      significand = 9536743 ∧ exponent = 20 := by
  obtain ⟨low, high⟩ := value_bounds full small least most
  have nonzero := digits_shortestDecimal (by omega) small (by omega : -149 ≤ exponent) (by omega)
  obtain ⟨above, below⟩ := Decimal.leading_bounds nonzero
  generalize shortestDecimal .single significand exponent = d at low high above below ⊢
  have first : -6 ≤ d.leading := by
    by_contra tiny
    have fine : (10 : ℚ) ^ (d.leading + 1) ≤ 10 ^ (-6 : Int) :=
      zpow_le_zpow_right₀ (by norm_num) (by omega)
    have coarse : (2 : ℚ) ^ (-37 : Int) ≤ 2 ^ exponent := zpow_le_zpow_right₀ (by norm_num) least
    have great : (2 : ℚ) ^ 23 ≤ significand := by exact_mod_cast full
    have product : ((2 : ℚ) ^ 23 - 1 / 2) * 2 ^ (-37 : Int) ≤
        (significand - 1 / 2) * 2 ^ exponent := by
      gcongr
      linarith
    norm_num at fine product
    linarith
  rcases lt_or_ge d.leading 13 with inside | beyond
  · exact .inl (by simp [Layout.writesInPlace, Layout.data, first, inside])
  · refine .inr ?_
    have ten : (10 : ℚ) ^ (13 : Int) ≤ 10 ^ d.leading := zpow_le_zpow_right₀ (by norm_num) beyond
    have reached := (ten.trans above).trans high
    have place : exponent = 20 := by
      by_contra lower
      have fine : (2 : ℚ) ^ exponent ≤ 2 ^ (19 : Int) :=
        zpow_le_zpow_right₀ (by norm_num) (by omega)
      have top : (significand : ℚ) + 1 ≤ 2 ^ 24 := by exact_mod_cast small
      have product : ((significand : ℚ) + 1 / 2) * 2 ^ exponent ≤ 2 ^ 24 * 2 ^ (19 : Int) := by
        gcongr
        linarith
      norm_num at reached product
      linarith
    subst place
    have last : significand * 2 ^ 20 < 10 ^ 13 := by exact_mod_cast less
    have next : 2 * 10 ^ 13 ≤ (2 * significand + 1) * 2 ^ 20 := by
      have doubled : (2 : ℚ) * 10 ^ 13 ≤ (2 * significand + 1) * 2 ^ 20 := by
        norm_num at reached ⊢
        linarith
      exact_mod_cast doubled
    omega

end Near

end FaceAnnotator.Numeric
