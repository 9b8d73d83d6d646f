import FaceAnnotator.Proofs.Numeric.Shortest
import Mathlib.Algebra.Order.Field.Rat
import Mathlib.Algebra.Order.Ring.WithTop
import Mathlib.Data.Nat.Cast.Order.Field
import Mathlib.Order.Monotone.Basic
import Mathlib.Tactic.NormNum
import Mathlib.Tactic.Ring
/-!
# FaceAnnotator.Proofs.Numeric.Exact

**What words stand for, as exact rationals.**

* `Format.units` reads a magnitude as a natural number: how many times the least positive number
  goes into what the magnitude stands for. It is strictly increasing.
* `Binary.exact` is the number that a word stands for, and `Binary.position` is where it lies on the
  line of numbers, whose two ends are the infinities.
* `Binary.less_iff` says that comparing two words is comparing their positions, unless one
  is no number.

A format is `Proper` if its sizes leave room for all kinds of words. Everything here holds of
any such format.
-/

namespace FaceAnnotator.Numeric

namespace Format

variable {f : Format}

/-! ### Formats -/

/-- The exponent of the last place of the greatest numbers. -/
def highest (f : Format) : Int := f.lowest + (Nat.pow 2 f.exponentWidth : Nat) - 3

/-- A format has significands, exponents between those of zero and of the infinities, and words for
all whole numbers that fit into a significand. -/
structure Proper (f : Format) : Prop where
  precision_pos : 0 < f.precision
  exponentWidth_ge : 2 ≤ f.exponentWidth
  precision_le : f.precision ≤ 2 ^ (f.exponentWidth - 1)

theorem proper_single : single.Proper := ⟨by decide, by decide, by decide⟩
theorem proper_double : double.Proper := ⟨by decide, by decide, by decide⟩

theorem hidden_pos (f : Format) : 0 < f.hidden := Nat.two_pow_pos _

namespace Proper

theorem exponents (proper : f.Proper) :
    f.lowest ≤ 0 ∧ 0 ≤ f.highest ∧ 4 ≤ 2 ^ f.exponentWidth := by
  obtain ⟨some, wide, small⟩ := proper
  obtain ⟨width, eq⟩ := Nat.exists_eq_add_of_le' wide
  have two : 2 ≤ 2 ^ (f.exponentWidth - 1) := by
    rw [eq]
    exact Nat.le_self_pow (by omega) 2
  have twice : 2 ^ f.exponentWidth = 2 * 2 ^ (f.exponentWidth - 1) := by
    rw [eq]
    exact Nat.pow_succ'
  unfold highest lowest
  simp only [Nat.pow_eq]
  omega

/-- The infinities come before the weight of the sign bit. -/
theorem infinity_lt (proper : f.Proper) : f.infinity < f.signWeight := by
  have some := proper.precision_pos
  have weight : f.signWeight = 2 ^ f.exponentWidth * f.hidden := by
    have width : f.width - 1 = f.exponentWidth + (f.precision - 1) := by
      unfold width
      omega
    rw [signWeight, width]
    exact Nat.pow_add ..
  rw [weight]
  exact Nat.mul_lt_mul_of_pos_right (Nat.sub_lt (Nat.two_pow_pos _) Nat.one_pos) f.hidden_pos

theorem two_pow_precision (proper : f.Proper) : 2 ^ f.precision = 2 * f.hidden := by
  obtain ⟨n, eq⟩ := Nat.exists_eq_add_of_le' proper.precision_pos
  rw [hidden, eq, Nat.add_sub_cancel]
  exact Nat.pow_succ'

theorem two_pow_width (proper : f.Proper) : 2 ^ f.width = 2 * f.signWeight := by
  have some : 0 < f.width := Nat.add_pos_left proper.precision_pos _
  obtain ⟨bits, eq⟩ := Nat.exists_eq_add_of_le' some
  rw [signWeight, eq, Nat.add_sub_cancel]
  exact Nat.pow_succ'

end Proper

/-! ### Magnitudes -/

/-- What a magnitude stands for, counted in units of the lowest place. -/
def units (f : Format) (magnitude : Nat) : Nat :=
  if magnitude < f.hidden then magnitude
  else (magnitude % f.hidden + f.hidden) * 2 ^ (magnitude / f.hidden - 1)

@[simp] theorem units_zero (f : Format) : f.units 0 = 0 := by
  simp [units, f.hidden_pos]

/-- A significand at a place, in units of the lowest one. -/
theorem units_placed {shift significand : Nat} (full : shift = 0 ∨ f.hidden ≤ significand)
    (small : significand < 2 * f.hidden) :
    f.units (shift * f.hidden + significand) = significand * 2 ^ shift := by
  unfold units
  by_cases normal : f.hidden ≤ significand
  · obtain ⟨rest, rfl⟩ := Nat.exists_eq_add_of_le normal
    have split : shift * f.hidden + (f.hidden + rest) = rest + f.hidden * (shift + 1) := by ring
    have less : rest < f.hidden := by omega
    rw [if_neg (by omega), split, Nat.add_mul_mod_self_left, Nat.add_mul_div_left _ _ f.hidden_pos,
      Nat.mod_eq_of_lt less, Nat.div_eq_of_lt less, Nat.add_comm rest]
    simp
  · obtain rfl := full.resolve_right normal
    rw [if_pos (by omega)]
    simp

/-- Every magnitude is a significand at a place. -/
theorem exists_placed (f : Format) (magnitude : Nat) :
    ∃ shift significand, magnitude = shift * f.hidden + significand ∧
      (shift = 0 ∨ f.hidden ≤ significand) ∧ significand < 2 * f.hidden := by
  by_cases subnormal : magnitude < f.hidden
  · exact ⟨0, magnitude, by simp, .inl rfl, by omega⟩
  · have rest := Nat.mod_lt magnitude f.hidden_pos
    have one : 1 ≤ magnitude / f.hidden :=
      (Nat.one_le_div_iff f.hidden_pos).2 (Nat.not_lt.1 subnormal)
    refine ⟨magnitude / f.hidden - 1, magnitude % f.hidden + f.hidden,
      ?_, .inr (by omega), by omega⟩
    have all := Nat.div_add_mod magnitude f.hidden
    obtain ⟨shift, eq⟩ := Nat.exists_eq_add_of_le one
    rw [eq] at all ⊢
    rw [Nat.add_sub_cancel_left]
    calc magnitude = f.hidden * (1 + shift) + magnitude % f.hidden := all.symm
      _ = shift * f.hidden + (magnitude % f.hidden + f.hidden) := by ring

/-- Magnitudes grow with what they stand for. -/
theorem units_strictMono (f : Format) : StrictMono f.units := by
  refine strictMono_nat_of_lt_succ fun n => ?_
  obtain ⟨shift, significand, rfl, full, small⟩ := f.exists_placed n
  rw [units_placed full small]
  by_cases last : significand + 1 < 2 * f.hidden
  · rw [Nat.add_assoc, units_placed (full.imp_right fun h => by omega) last]
    exact Nat.mul_lt_mul_of_pos_right (Nat.lt_succ_self _) (Nat.two_pow_pos _)
  · -- The significand is full: the next one begins again at the next place.
    have next : shift * f.hidden + significand + 1 = (shift + 1) * f.hidden + f.hidden := by
      rw [Nat.succ_mul]
      omega
    have some := f.hidden_pos
    rw [next, units_placed (.inr (Nat.le_refl _)) (by omega), Nat.pow_succ']
    calc significand * 2 ^ shift < 2 * f.hidden * 2 ^ shift :=
          Nat.mul_lt_mul_of_pos_right small (Nat.two_pow_pos _)
      _ = f.hidden * (2 * 2 ^ shift) := by ring

end Format

/-! ### Values -/

/-- The number that a value is; zero for a value that is none. -/
def Value.exact : Value → ℚ
  | .finite negative significand exponent => Binary.signed negative significand * 2 ^ exponent
  | _ => 0

/-- Where a value lies between the two infinities. It has no meaning for a value that is no
number. -/
def Value.position : Value → WithBot (WithTop ℚ)
  | .nan => 0
  | .infinite negative => if negative then ⊥ else ⊤
  | .finite negative significand exponent =>
    ((Value.finite negative significand exponent).exact : WithTop ℚ)

namespace Binary

variable {f : Format}

/-- The number that a word stands for; zero for a word that stands for none. -/
def exact (x : Binary f) : ℚ := x.value.exact

/-- Where a word lies between the two infinities. It has no meaning for a word that is no number. -/
def position (x : Binary f) : WithBot (WithTop ℚ) := x.value.position

theorem cast_signed (negative : Bool) (n : Nat) :
    ((signed negative n : Int) : ℚ) = (if negative then -1 else 1) * n := by
  cases negative <;> simp [signed]

theorem exact_of_value {x : Binary f} {negative : Bool} {significand : Nat} {exponent : Int}
    (h : x.value = .finite negative significand exponent) :
    x.exact = signed negative significand * 2 ^ exponent := by
  rw [exact, h, Value.exact]

/-- The significand of a finite word. -/
structure IsSignificand (x : Binary f) (significand : Nat) (exponent : Int) : Prop where
  value : x.value = .finite x.negative significand exponent
  units : (significand : ℚ) * 2 ^ exponent = f.units x.magnitude * 2 ^ f.lowest
  lt : significand < 2 ^ f.precision
  lowest_le : f.lowest ≤ exponent
  le_highest : exponent ≤ f.highest

theorem exists_significand (proper : f.Proper) {x : Binary f} (h : x.isFinite = true) :
    ∃ significand exponent, x.IsSignificand significand exponent := by
  obtain ⟨low, high, wide⟩ := proper.exponents
  have twice := proper.two_pow_precision
  rw [isFinite, decide_eq_true_iff] at h
  by_cases subnormal : x.magnitude < f.hidden
  · refine ⟨x.magnitude, f.lowest, ⟨?_, ?_, by omega, le_refl _, by omega⟩⟩
    · rw [Binary.value, if_neg (by omega), if_neg (by omega), if_pos subnormal]
    · rw [Format.units, if_pos subnormal]
  · have rest := Nat.mod_lt x.magnitude f.hidden_pos
    have some : 1 ≤ x.magnitude / f.hidden :=
      (Nat.one_le_div_iff f.hidden_pos).2 (Nat.not_lt.1 subnormal)
    have less : x.magnitude / f.hidden < 2 ^ f.exponentWidth - 1 :=
      (Nat.div_lt_iff_lt_mul f.hidden_pos).2 h
    refine ⟨x.magnitude % f.hidden + f.hidden, f.lowest + (x.magnitude / f.hidden - 1 : Nat),
      ⟨?_, ?_, by omega, by omega, ?_⟩⟩
    · rw [Binary.value, if_neg (by omega), if_neg (by omega), if_neg subnormal]
    · rw [Format.units, if_neg subnormal, zpow_add₀ (by norm_num), zpow_natCast]
      push_cast
      ring
    · unfold Format.highest
      simp only [Nat.pow_eq]
      omega

theorem exact_eq_units (proper : f.Proper) {x : Binary f} (h : x.isFinite = true) :
    x.exact = signed x.negative (f.units x.magnitude) * 2 ^ f.lowest := by
  obtain ⟨significand, exponent, is⟩ := exists_significand proper h
  rw [exact_of_value is.value, cast_signed, cast_signed, mul_assoc, is.units, mul_assoc]

/-! ### Order -/

/-- A word is no number, or an infinity, or finite. -/
theorem kinds (x : Binary f) :
    (x.isNaN = true ∧ x.value = .nan) ∨
    (x.isNaN = false ∧ x.magnitude = f.infinity ∧ x.value = .infinite x.negative) ∨
    (x.isNaN = false ∧ x.isFinite = true) := by
  rcases Nat.lt_trichotomy f.infinity x.magnitude with more | same | less
  · exact .inl ⟨by simpa [isNaN] using more, by rw [value, if_pos more]⟩
  · exact .inr
      (.inl ⟨by simp [isNaN, same], same.symm, by rw [value, if_neg (by omega), if_pos same.symm]⟩)
  · exact .inr (.inr ⟨by simp [isNaN, less.le], by simpa [isFinite] using less⟩)

theorem isNaN_of_isFinite {x : Binary f} (h : x.isFinite = true) : x.isNaN = false := by
  rw [isFinite, decide_eq_true_iff] at h
  rw [isNaN, decide_eq_false_iff_not]
  omega

theorem isFinite_of_isNaN {x : Binary f} (h : x.isNaN = true) : x.isFinite = false := by
  cases finite : x.isFinite with
  | false => rfl
  | true => rw [isNaN_of_isFinite finite] at h; cases h

theorem position_of_infinite {x : Binary f} {negative : Bool} (h : x.value = .infinite negative) :
    x.position = if negative then ⊥ else ⊤ := by
  rw [position, h, Value.position]

theorem position_of_finite (proper : f.Proper) {x : Binary f} (h : x.isFinite = true) :
    x.position = (x.exact : WithTop ℚ) := by
  obtain ⟨significand, exponent, is⟩ := exists_significand proper h
  rw [position, exact, is.value, Value.position]

/-- Signed magnitudes are in the order of what they stand for. -/
theorem signed_units_lt_iff (f : Format) (s t : Bool) (m n : Nat) :
    signed s (f.units m) < signed t (f.units n) ↔ signed s m < signed t n := by
  have order (a b : Nat) : f.units a < f.units b ↔ a < b := f.units_strictMono.lt_iff_lt
  have zero (a : Nat) : 0 < f.units a ↔ 0 < a := by simpa using order 0 a
  have := order m n
  have := order n m
  have := zero m
  have := zero n
  cases s <;> cases t <;> simp only [signed, Bool.false_eq_true, if_true, if_false] <;> omega

theorem rank_eq_signed (x : Binary f) : x.rank = signed x.negative x.magnitude := rfl

theorem exact_lt_iff (proper : f.Proper) {x y : Binary f} (hx : x.isFinite = true)
    (hy : y.isFinite = true) :
    x.exact < y.exact ↔ x.rank < y.rank := by
  rw [exact_eq_units proper hx, exact_eq_units proper hy,
    mul_lt_mul_iff_left₀ (zpow_pos (by norm_num) _),
    Int.cast_lt, signed_units_lt_iff, rank_eq_signed, rank_eq_signed]

theorem infinity_pos (proper : f.Proper) : 0 < f.infinity := by
  obtain ⟨-, -, wide⟩ := proper.exponents
  exact Nat.mul_pos (by simp only [Nat.pow_eq]; omega) f.hidden_pos

/-- The ranks of numbers are in the order of their positions. -/
theorem position_lt_iff (proper : f.Proper) {x y : Binary f} (hx : x.isNaN = false)
    (hy : y.isNaN = false) :
    x.position < y.position ↔ x.rank < y.rank := by
  have some := infinity_pos proper
  -- A finite word stands strictly between the infinities, by its rank and by its position.
  have inside {z : Binary f} (h : z.isFinite = true) :
      -(f.infinity : Int) < z.rank ∧ z.rank < f.infinity ∧ ⊥ < z.position ∧ z.position < ⊤ := by
    rw [position_of_finite proper h]
    rw [isFinite, decide_eq_true_iff] at h
    refine ⟨?_, ?_, WithBot.bot_lt_coe _, WithBot.coe_lt_coe.2 (WithTop.coe_lt_top _)⟩
    all_goals
      unfold rank
      split <;> omega
  have extreme {z : Binary f} (h : z.magnitude = f.infinity)
    (value : z.value = .infinite z.negative) :
      (z.rank = f.infinity ∧ z.position = ⊤) ∨ (z.rank = -(f.infinity : Int) ∧ z.position = ⊥) := by
    rw [rank, h, position_of_infinite value]
    cases z.negative <;> simp
  rcases x.kinds with ⟨nan, -⟩ | ⟨-, infinite, value⟩ | ⟨-, finite⟩
  · rw [nan] at hx
    cases hx
  all_goals rcases y.kinds with ⟨nan, -⟩ | ⟨-, infinite', value'⟩ | ⟨-, finite'⟩
  · rw [nan] at hy
    cases hy
  · rcases extreme infinite value with ⟨rank, place⟩ | ⟨rank, place⟩ <;>
      rcases extreme infinite' value' with ⟨rank', place'⟩ | ⟨rank', place'⟩ <;>
        simp only [rank, rank', place, place']
    · exact iff_of_false (lt_irrefl _) (by omega)
    · exact iff_of_false not_top_lt (by omega)
    · exact iff_of_true bot_lt_top (by omega)
    · exact iff_of_false (lt_irrefl _) (by omega)
  · obtain ⟨low, high, above, below⟩ := inside finite'
    rcases extreme infinite value with ⟨rank, place⟩ | ⟨rank, place⟩ <;> simp only [rank, place]
    · exact iff_of_false not_top_lt (by omega)
    · exact iff_of_true above low
  · rw [nan] at hy
    cases hy
  · obtain ⟨low, high, above, below⟩ := inside finite
    rcases extreme infinite' value' with ⟨rank', place'⟩ | ⟨rank', place'⟩ <;>
      simp only [rank', place']
    · exact iff_of_true below high
    · exact iff_of_false not_lt_bot (by omega)
  · rw [position_of_finite proper finite, position_of_finite proper finite', WithBot.coe_lt_coe,
      WithTop.coe_lt_coe, exact_lt_iff proper finite finite']

/-- **Comparing words is comparing their positions**, unless one is no number. -/
theorem less_iff (proper : f.Proper) {x y : Binary f} :
    x.less y = true ↔ x.isNaN = false ∧ y.isNaN = false ∧ x.position < y.position := by
  unfold less
  cases hx : x.isNaN with
  | true => simp
  | false =>
      cases hy : y.isNaN with
      | true => simp
      | false => simp [position_lt_iff proper hx hy]

end Binary

end FaceAnnotator.Numeric
