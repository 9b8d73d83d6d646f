import FaceAnnotator.Numeric.Notation
import FaceAnnotator.Proofs.Numeric.Magnitude
/-!
# FaceAnnotator.Proofs.Numeric.Shortest

**The shortest decimal of a classifier output is no zero and not far from one.**

The search for digits never comes up with zero: an interval around a positive word does not reach
down to it, and the finest grid that is tried is far finer than the word (`floor_pos`). That the
grids are few also bounds the exponent of the first digit (`leading_shortestDecimal`). Powers of ten
are compared with powers of two by `2 ^ 3 ≤ 10 ≤ 2 ^ 4`, which is coarse and enough.
-/

namespace FaceAnnotator.Numeric

/-- What a finite classifier output stands for. -/
theorem Binary.value_of_isFinite {x : Single} (h : x.isFinite = true) :
    ∃ negative significand exponent, x.value = .finite negative significand exponent ∧
      significand < 2 ^ 24 ∧ -149 ≤ exponent ∧ exponent ≤ 104 := by
  have infinity : Format.single.infinity = 255 * 2 ^ 23 := by decide
  have hidden : Format.single.hidden = 2 ^ 23 := rfl
  have lowest : Format.single.lowest = -149 := rfl
  rw [isFinite, decide_eq_true_iff, infinity] at h
  unfold value
  rw [infinity, hidden, lowest, if_neg (by omega), if_neg (by omega)]
  split
  · exact ⟨_, _, _, rfl, by omega, by omega, by omega⟩
  · exact ⟨_, _, _, rfl, by omega, by omega, by omega⟩

theorem ten_pow_le (n : Nat) : 10 ^ n ≤ 2 ^ (4 * n) := by
  rw [Nat.pow_mul]
  exact Nat.pow_le_pow_left (by decide) n

theorem le_ten_pow (n : Nat) : 2 ^ (3 * n) ≤ 10 ^ n := by
  rw [Nat.pow_mul]
  exact Nat.pow_le_pow_left (by decide) n

namespace Interval

variable {i : Interval}

/-- The interval of a positive classifier output. -/
structure IsSmall (i : Interval) : Prop where
  low_pos : 0 < i.low
  middle_ge : 4 ≤ i.middle
  middle_lt : i.middle < 2 ^ 26
  unit_ge : -151 ≤ i.unit
  unit_le : i.unit ≤ 102

theorem isSmall_around {significand : Nat} {exponent : Int} (pos : 0 < significand)
    (small : significand < 2 ^ 24) (least : -149 ≤ exponent) (most : exponent ≤ 104) :
    (around .single significand exponent).IsSmall := by
  refine ⟨?_, ?_, ?_, ?_, ?_⟩
  · dsimp only [around]
    split <;> omega
  all_goals
    dsimp only [around]
    omega

theorem log2_middle (h : i.IsSmall) : 2 ≤ i.middle.log2 ∧ i.middle.log2 ≤ 25 := by
  have nonzero : i.middle ≠ 0 := by
    have := h.middle_ge
    omega
  constructor
  · exact (Nat.le_log2 nonzero).2 h.middle_ge
  · have := (Nat.log2_lt nonzero).2 h.middle_lt
    omega

theorem coarsest_bounds (h : i.IsSmall) : -43 ≤ i.coarsest ∧ i.coarsest ≤ 41 := by
  obtain ⟨least, most⟩ := log2_middle h
  obtain ⟨-, -, -, unit_ge, unit_le⟩ := h
  unfold coarsest
  omega

theorem units_pos {k : Int} {n : Nat} (h : 0 < n) : 0 < i.units k n :=
  Nat.mul_pos h (Nat.mul_pos (power_pos (by decide) _) (power_pos (by decide) _))

/-- Zero does not lie in the interval. -/
theorem not_holds_zero (h : i.IsSmall) (k : Int) : i.holds k 0 = false := by
  have low := @units_pos i k i.low h.low_pos
  have origin : i.point k 0 = 0 := Nat.zero_mul _
  unfold holds
  rw [origin]
  split
  · simp
    omega
  · simp

/-- A hit on a grid is in the interval, and next to the value. -/
theorem of_onGrid {k : Int} {n : Nat} (h : i.onGrid k = some n) :
    i.holds k n = true ∧ n ≤ i.floor k + 1 := by
  unfold onGrid at h
  dsimp only at h
  split at h
  · cases h
  · cases h
    exact ⟨‹_›, by omega⟩
  · cases h
    exact ⟨‹_›, by omega⟩
  · split at h
    · cases h
      exact ⟨‹_›, by omega⟩
    split at h
    · cases h
      exact ⟨‹_›, by omega⟩
    split at h <;> cases h <;> exact ⟨‹_›, by omega⟩

/-- What the search comes to: a hit on one of the grids, or the last one tried. -/
theorem search_cases (h : i.IsSmall) (grids : Nat) (k : Int) :
    ∃ step ≤ grids, (i.search grids k).exponent = k - step ∧
      (i.search grids k).digits ≤ i.floor (k - step) + 1 ∧
        ((i.search grids k).digits ≠ 0 ∨
          step = grids ∧ (i.search grids k).digits = i.floor (k - grids)) := by
  induction grids generalizing k with
  | zero =>
      exact ⟨0, Nat.le_refl _, by simp [search], by simp [search], .inr ⟨rfl, by simp [search]⟩⟩
  | succ grids ih =>
      unfold search
      cases hit : i.onGrid k with
      | some n =>
          obtain ⟨inside, near⟩ := of_onGrid hit
          -- A hit is in the interval, and zero is not.
          refine ⟨0, Nat.zero_le _, by simp, by simpa using near, .inl ?_⟩
          rintro rfl
          rw [not_holds_zero h k] at inside
          cases inside
      | none =>
          obtain ⟨step, within, exponent, near, digits⟩ := ih (k - 1)
          have shift : k - 1 - (step : Int) = k - (step + 1 : Nat) := by omega
          have last : k - 1 - (grids : Int) = k - (grids + 1 : Nat) := by omega
          rw [shift] at exponent near
          rw [last] at digits
          refine ⟨step + 1, by omega, exponent, near, ?_⟩
          rcases digits with nonzero | ⟨rfl, eq⟩
          · exact .inl nonzero
          · exact .inr ⟨rfl, eq⟩

/-- On the finest grid that is tried there is a point between zero and the value. -/
theorem floor_pos (h : i.IsSmall) : 0 < i.floor (i.coarsest - grids) := by
  obtain ⟨least, most⟩ := log2_middle h
  have big : 2 ^ i.middle.log2 ≤ i.middle := Nat.log2_self_le (by have := h.middle_ge; omega)
  have k_eq : i.coarsest - grids = (i.middle.log2 + 1 + i.unit) * 30103 / 100000 - 20 := by
    unfold coarsest grids
    omega
  obtain ⟨-, -, -, unit_ge, unit_le⟩ := h
  generalize i.coarsest - grids = k at k_eq ⊢
  -- The grid is twenty powers of ten finer than the value, which pays for the coarse bounds.
  refine Nat.div_pos ?_ (Nat.mul_pos Nat.one_pos
    (Nat.mul_pos (power_pos (by decide) _) (power_pos (by decide) _)))
  unfold point units
  simp only [power_eq_pow, Nat.one_mul]
  calc 10 ^ k.toNat * 2 ^ (-i.unit).toNat
      ≤ 2 ^ (4 * k.toNat) * 2 ^ (-i.unit).toNat := Nat.mul_le_mul_right _ (ten_pow_le _)
    _ = 2 ^ (4 * k.toNat + (-i.unit).toNat) := (Nat.pow_add ..).symm
    _ ≤ 2 ^ (i.middle.log2 + (i.unit.toNat + 3 * (-k).toNat)) :=
        Nat.pow_le_pow_right (by decide) (by omega)
    _ = 2 ^ i.middle.log2 * (2 ^ i.unit.toNat * 2 ^ (3 * (-k).toNat)) := by
      rw [Nat.pow_add, Nat.pow_add]
    _ ≤ i.middle * (2 ^ i.unit.toNat * 10 ^ (-k).toNat) :=
        Nat.mul_le_mul big (Nat.mul_le_mul_left _ (le_ten_pow _))

theorem floor_lt (h : i.IsSmall) {k : Int} (low : -65 ≤ k) : i.floor k < 10 ^ 104 := by
  have point_pos : 0 < i.point k 1 :=
    Nat.mul_pos Nat.one_pos (Nat.mul_pos (power_pos (by decide) _) (power_pos (by decide) _))
  have two : 2 ^ i.unit.toNat ≤ 2 ^ 102 := by
    have := h.unit_le
    exact Nat.pow_le_pow_right (by decide) (by omega)
  have ten : 10 ^ (-k).toNat ≤ 10 ^ 65 := Nat.pow_le_pow_right (by decide) (by omega)
  calc i.floor k ≤ i.units k i.middle := Nat.div_le_self _ _
    _ = i.middle * (2 ^ i.unit.toNat * 10 ^ (-k).toNat) := rfl
    _ ≤ 2 ^ 26 * (2 ^ 102 * 10 ^ 65) :=
        Nat.mul_le_mul (Nat.le_of_lt h.middle_lt) (Nat.mul_le_mul two ten)
    _ < 10 ^ 104 := by decide

end Interval

/-- The shortest decimal of a positive classifier output is positive. -/
theorem digits_shortestDecimal {significand : Nat} {exponent : Int} (pos : 0 < significand)
    (small : significand < 2 ^ 24) (least : -149 ≤ exponent) (most : exponent ≤ 104) :
    (shortestDecimal .single significand exponent).digits ≠ 0 := by
  have h := Interval.isSmall_around pos small least most
  obtain ⟨step, -, -, -, nonzero | ⟨-, eq⟩⟩ := Interval.search_cases h Interval.grids _
  · exact nonzero
  · exact eq ▸ Nat.ne_of_gt (Interval.floor_pos h)

/-- Its first digit is not far from the point. -/
theorem leading_shortestDecimal {significand : Nat} {exponent : Int} (pos : 0 < significand)
    (small : significand < 2 ^ 24) (least : -149 ≤ exponent) (most : exponent ≤ 104) :
    (shortestDecimal .single significand exponent).leading.natAbs ≤ 200 := by
  have h := Interval.isSmall_around pos small least most
  obtain ⟨low, high⟩ := Interval.coarsest_bounds h
  obtain ⟨step, within, exponent_eq, near, -⟩ := Interval.search_cases h Interval.grids
    (Interval.around .single significand exponent).coarsest
  have finest : step ≤ 22 := within
  have bound := Interval.floor_lt h
    (show -65 ≤ (Interval.around .single significand exponent).coarsest - step by omega)
  have length : (digitsOf (shortestDecimal .single significand exponent).digits).length ≤ 105 := by
    refine (Nat.length_toDigits_le_iff (by decide) (by decide)).2 ?_
    refine Nat.lt_of_le_of_lt near ?_
    omega
  have exponent_eq : (shortestDecimal .single significand exponent).exponent = _ := exponent_eq
  unfold Decimal.leading
  omega

end FaceAnnotator.Numeric
