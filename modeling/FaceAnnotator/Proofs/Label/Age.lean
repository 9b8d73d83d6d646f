import FaceAnnotator.Label.Decoding
import FaceAnnotator.Proofs.Numeric.Representable
/-!
# FaceAnnotator.Proofs.Label.Age

**Ages are exact.**

An age regression says the whole part of a hundred times its first output, computed over the
rationals. The doubles in between lose nothing: the product of a classifier output and one
hundred has 31 significant bits at most, and what is left of it without its fraction has no more
(`exact_hundredfold`, `exact_years`). So the years that are found to be out of range are the
exact ones too.

The range is checked against integers here. Checking it in doubles would come to the same, although
the greatest 64-bit integer is none: it is rounded to the limit that no age may reach
(`inRange_iff_less`).
-/

namespace FaceAnnotator.Label

open Numeric

/-- The years that an output says, over the rationals. -/
def exactYears (v : Single) : Int := wholePart (100 * v.exact)

/-- A hundred times an output, as it is computed. -/
def hundredfold (v : Single) : Double := (v.convert : Double).mul ageScale

/-- Small multiples of single words are representable as double words. -/
theorem representable_mul {n : Nat} {q : ℚ} (small : n ≤ 100) (h : Format.single.Representable q) :
    Format.double.Representable (n * q) := by
  obtain ⟨significand, exponent, less, low, high, rfl⟩ := h
  have lowest : Format.single.lowest = -149 ∧ Format.double.lowest = -1074 := ⟨rfl, rfl⟩
  have highest : Format.single.highest = 104 ∧ Format.double.highest = 971 := by decide
  refine ⟨n * significand, exponent, ?_, by omega, by omega, ?_⟩
  · calc n * significand ≤ 100 * 2 ^ 24 := Nat.mul_le_mul small (Nat.le_of_lt less)
      _ < 2 ^ 53 := by decide
  · push_cast
    ring

/-- An output is the same number as a double. -/
theorem exact_widened {v : Single} (h : v.isFinite = true) :
    (v.convert : Double).isFinite = true ∧ (v.convert : Double).exact = v.exact := by
  have widened := representable_mul (by decide : 1 ≤ 100)
    (Binary.representable_exact Format.proper_single h)
  rw [Nat.cast_one, one_mul] at widened
  exact Binary.exact_convert Format.proper_single Format.proper_double h widened

theorem exact_ageScale : ageScale.isFinite = true ∧ ageScale.exact = 100 := by
  have representable :=
    Format.proper_double.representable_natCast (by decide : (100 : Int).natAbs < 2 ^ 53)
  exact_mod_cast Binary.exact_ofInt Format.proper_double representable

/-- **The product with one hundred is not rounded.** -/
theorem exact_hundredfold {v : Single} (h : v.isFinite = true) :
    (hundredfold v).isFinite = true ∧ (hundredfold v).exact = 100 * v.exact := by
  obtain ⟨widened, same⟩ := exact_widened h
  obtain ⟨finite, scale⟩ := exact_ageScale
  have size : |(v.convert : Double).exact * ageScale.exact| = (100 : Nat) * |v.exact| := by
    rw [same, scale, abs_mul, mul_comm]
    norm_num
  have representable := representable_mul (le_refl 100)
    (Binary.representable_exact Format.proper_single h)
  rw [← size] at representable
  obtain ⟨product, eq⟩ := Binary.exact_mul Format.proper_double widened finite representable
  exact ⟨product, by rw [hundredfold, eq, same, scale, mul_comm]⟩

/-- What is left of the product without its fraction is the number of years, exactly. -/
theorem exact_years {v : Single} (h : v.isFinite = true) :
    (hundredfold v).truncate.isFinite = true ∧ (hundredfold v).truncate.exact = exactYears v := by
  obtain ⟨finite, eq⟩ := exact_hundredfold h
  obtain ⟨whole, cut⟩ := Binary.exact_truncate Format.proper_double finite
  exact ⟨whole, by rw [cut, eq, exactYears]⟩

theorem toInt_hundredfold {v : Single} (h : v.isFinite = true) :
    (hundredfold v).toInt = exactYears v := by
  obtain ⟨finite, eq⟩ := exact_hundredfold h
  rw [Binary.toInt_eq_wholePart Format.proper_double finite, eq, exactYears]

/-! ### The range -/

/-- The least age that is too great is a double, and so is the greatest one that is too
small less one. -/
theorem representable_ageLimit : Format.double.Representable (ageLimit.natAbs : ℚ) :=
  ⟨1, 63, by decide, by decide, by decide, by norm_num [ageLimit]⟩

/-- The greatest 64-bit integer is no double, the next one is. -/
theorem ofInt_pred_ageLimit : (Binary.ofInt (ageLimit - 1) : Double) = Binary.ofInt ageLimit := by
  decide +kernel

/-- Comparing the double of an integer with that of another one. -/
theorem less_iff_of_exact {x y : Double} {m n : Int} (hx : x.isFinite = true ∧ x.exact = m)
    (hy : y.isFinite = true ∧ y.exact = n) : x.less y = true ↔ m < n := by
  rw [Binary.less_iff Format.proper_double, Binary.position_of_finite Format.proper_double hx.1,
    Binary.position_of_finite Format.proper_double hy.1, WithBot.coe_lt_coe, WithTop.coe_lt_coe,
    hx.2, hy.2, Int.cast_lt]
  exact ⟨fun h => h.2.2, fun h => ⟨Binary.isNaN_of_isFinite hx.1, Binary.isNaN_of_isFinite hy.1, h⟩⟩

/-- Checking the range of an age in doubles comes to the same as checking it exactly. -/
theorem inRange_iff_less {v : Single} (h : v.isFinite = true) :
    (-ageLimit ≤ exactYears v ∧ exactYears v < ageLimit) ↔
      (hundredfold v).truncate.less (Binary.ofInt (-ageLimit)) = false ∧
        (hundredfold v).truncate.less (Binary.ofInt (ageLimit - 1)) = true := by
  have low := Binary.exact_ofInt (n := -ageLimit) Format.proper_double
    (by rw [Int.natAbs_neg]; exact representable_ageLimit)
  have high := Binary.exact_ofInt (n := ageLimit) Format.proper_double representable_ageLimit
  rw [ofInt_pred_ageLimit, less_iff_of_exact (exact_years h) high, ← Bool.not_eq_true,
    less_iff_of_exact (exact_years h) low, not_lt]

/-! ### Ages -/

theorem decodeAge_of_isFinite {v : Single} (h : v.isFinite = true) (layer : String)
    (others : List Single) :
    decodeAge layer (v :: others) =
      if -ageLimit ≤ exactYears v ∧ exactYears v < ageLimit then .ok (exactYears v)
      else .error (.ageOutOfRange layer (hundredfold v).truncate) := by
  have whole := toInt_hundredfold h
  unfold hundredfold at whole
  simp only [decodeAge, h, if_true, whole]
  rfl

theorem decodeAge_of_not_isFinite {v : Single} (h : v.isFinite = false) (layer : String)
    (others : List Single) : decodeAge layer (v :: others) = .error (.notFinite layer v) := by
  simp [decodeAge, h]

/-- An age that was found is the exact one. -/
theorem eq_exactYears_of_decode {layer : String} {v : Single} {others : List Single} {n : Int}
    (h : decode .age layer (v :: others) = .ok (some (.age n))) : n = exactYears v := by
  simp only [decode] at h
  cases finite : v.isFinite with
  | false => simp [decodeAge_of_not_isFinite finite, Except.map] at h
  | true =>
      rw [decodeAge_of_isFinite finite] at h
      split at h
      · simpa [Except.map, eq_comm] using h
      · simp [Except.map] at h

/-- Without any output there is no age, and none for an output that is infinite or no number. A
finite output says the whole part of a hundred times what it stands for, if that is a 64-bit
integer, and otherwise a complaint with just this number; greater outputs say greater ages. The
doubles in between are exact, and checking the range in doubles makes no difference. -/
theorem decode_age_exact (layer : String) :
    decode .age layer [] = .error (.noData layer) ∧
    (∀ (v : Single) (others : List Single),
      match v.value with
      | .nan | .infinite _ => decode .age layer (v :: others) = .error (.notFinite layer v)
      | .finite negative significand exponent =>
        v.exact = Binary.signed negative significand * 2 ^ exponent ∧
        (if -2 ^ 63 ≤ exactYears v ∧ exactYears v < 2 ^ 63 then
          decode .age layer (v :: others) = .ok (some (.age (exactYears v)))
        else
          ∃ years, decode .age layer (v :: others) = .error (.ageOutOfRange layer years) ∧
            years.isFinite = true ∧ years.exact = exactYears v) ∧
        ((hundredfold v).isFinite = true ∧ (hundredfold v).exact = 100 * v.exact) ∧
        (-2 ^ 63 ≤ exactYears v ∧ exactYears v < 2 ^ 63 ↔
          (hundredfold v).truncate.less (Binary.ofInt (-2 ^ 63)) = false ∧
            (hundredfold v).truncate.less (Binary.ofInt (2 ^ 63 - 1)) = true)) ∧
    ∀ (v w : Single) (others others' : List Single) (a b : Int),
      decode .age layer (v :: others) = .ok (some (.age a)) →
      decode .age layer (w :: others') = .ok (some (.age b)) → v.exact ≤ w.exact → a ≤ b := by
  have limit : (2 : Int) ^ 63 = ageLimit := by decide
  refine ⟨rfl, fun v others => ?_, fun v w others others' a b found found' le => ?_⟩
  · have unfinished (h : v.isFinite = false) :
        decode .age layer (v :: others) = .error (.notFinite layer v) := by
      rw [decode, decodeAge_of_not_isFinite h]
      rfl
    rcases v.kinds with ⟨nan, value⟩ | ⟨-, infinite, value⟩ | ⟨-, finite⟩
    · rw [value]
      exact unfinished (Binary.isFinite_of_isNaN nan)
    · rw [value]
      exact unfinished (by simp [Binary.isFinite, infinite])
    · obtain ⟨significand, exponent, is⟩ := Binary.exists_significand Format.proper_single finite
      rw [is.value, limit]
      refine ⟨Binary.exact_of_value is.value, ?_, exact_hundredfold finite, inRange_iff_less finite⟩
      rw [decode, decodeAge_of_isFinite finite]
      split
      · rfl
      · exact ⟨_, rfl, exact_years finite⟩
  · rw [eq_exactYears_of_decode found, eq_exactYears_of_decode found']
    exact wholePart_mono (by linarith)

/-- The word nearest to 0.29 is a little less than that. The greatest word that says an age says one
a little below the limit. -/
theorem decode_age_exact_below_limit :
    decode .age "age_conv3" [Binary.round false 29 100] = .ok (some (.age 28)) ∧
    decode .age "age_conv3" [⟨0x5ba3d70a⟩] = .ok (some (.age 9223371830696345600)) ∧
    (28 : Int) ≤ 9223371830696345600 := by
  have small : decode .age "age_conv3" [Binary.round false 29 100] = .ok (some (.age 28)) := by
    decide +kernel
  have great : decode .age "age_conv3" [⟨0x5ba3d70a⟩] = .ok (some (.age 9223371830696345600)) := by
    decide +kernel
  exact ⟨small, great, (decode_age_exact "age_conv3").2.2 _ _ _ _ _ _ small great
    (by decide +kernel)⟩

end FaceAnnotator.Label
