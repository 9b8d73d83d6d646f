import FaceAnnotator.Proofs.Json.Continuation.Token
import FaceAnnotator.Proofs.Json.Data
import FaceAnnotator.Proofs.Numeric.Rounding
/-!
# FaceAnnotator.Proofs.Json.InPlace

**Digits that are written in place are read with one rounding.**

All digits of a number that is spelled with a point count, if they fit the significand, and the
fraction tells how many places the significand is scaled down (`read_inPlace`). If the significand
and the power of ten both have a word, the quotient is rounded only once (`scaled_of_small`).
-/

namespace FaceAnnotator

open Numeric

namespace Json

theorem ofDigitChars_zeros (n value : Nat) :
    Nat.ofDigitChars 10 (List.replicate n '0') value = value * 10 ^ n := by
  induction n generalizing value with
  | zero => simp
  | succ n ih =>
      rw [List.replicate_succ, ofDigitChars_cons, ih, digitValue, Nat.pow_succ']
      simp [Nat.mul_assoc]

/-- Zeros behind the digits of a number multiply it. -/
theorem value_append_zeros (n zeros : Nat) :
    Nat.ofDigitChars 10 (digitsOf n ++ List.replicate zeros '0') 0 = n * 10 ^ zeros := by
  rw [Nat.ofDigitChars_append, value_digitsOf, ofDigitChars_zeros]

/-- Zeros before the digits of a number do not count. -/
theorem value_zeros_append (n zeros : Nat) :
    Nat.ofDigitChars 10 (List.replicate zeros '0' ++ digitsOf n) 0 = n := by
  rw [Nat.ofDigitChars_append, ofDigitChars_zeros, Nat.zero_mul, value_digitsOf]

namespace Number

/-- Digits around a point are one significand, scaled down by the digits of the fraction. -/
theorem read_point {whole digits rest : List Char} (negative : Bool) (canonical : Canonical whole)
    (nonempty : digits ≠ []) (all : ∀ c ∈ digits, isDigit c = true)
    (fits : Nat.ofDigitChars 10 (whole ++ digits) 0 < significandLimit) (ends : Ends rest) :
    read negative (whole ++ '.' :: digits ++ rest) =
      ofParts negative (Nat.ofDigitChars 10 (whole ++ digits) 0) (-(digits.length : Int)) rest := by
  have ended := startsWithDigit_of_ends ends
  rw [Nat.ofDigitChars_append] at fits ⊢
  have whole_fits := Nat.lt_of_le_of_lt (le_ofDigitChars _ digits) fits
  have gathered := gather_of_lt 0 all fits ended
  have count : digits.length ≠ 0 := fun none => nonempty (List.length_eq_zero_iff.1 none)
  rw [List.append_assoc, List.cons_append, read_of_canonical negative canonical whole_fits rfl]
  simp only [afterWhole, fraction, gathered, ended, Nat.zero_add, count, Bool.false_eq_true,
    if_false]
  rw [maybeExponent_of_ends ends, zero_sub]

/-- A decimal in place is read by its digits, which a zero behind the point may go on with. -/
theorem read_inPlace {d : Decimal} (negative : Bool) (nonzero : d.digits ≠ 0)
    (fits : d.digits * 10 ^ (d.exponent + 1).toNat < significandLimit) {rest : List Char}
    (ends : Ends rest) :
    read negative (d.inPlace true ++ rest) =
      ofParts negative (d.digits * 10 ^ (d.exponent + 1).toNat)
        (d.exponent - (d.exponent + 1).toNat) rest := by
  have canonical := canonical_digitsOf d.digits
  have first := head_digitsOf (Nat.pos_of_ne_zero nonzero)
  have value := value_digitsOf d.digits
  have some_digit : 0 < (digitsOf d.digits).length := List.length_pos_iff.2 canonical.ne_nil
  unfold Decimal.inPlace
  dsimp only
  split
  · -- A whole number: its own zeros and the one behind the point.
    rename_i nonneg
    have zeros := canonical_append canonical first
      (isDigit_of_mem_replicate (n := d.exponent.toNat))
    have spelled :
        Nat.ofDigitChars 10 (digitsOf d.digits ++ List.replicate d.exponent.toNat '0' ++ ['0']) 0 =
          d.digits * 10 ^ (d.exponent + 1).toNat := by
      rw [List.append_assoc, ← List.replicate_succ', value_append_zeros,
        show (d.exponent + 1).toNat = d.exponent.toNat + 1 by omega]
    rw [← spelled] at fits ⊢
    rw [if_pos rfl,
      read_point negative zeros (List.cons_ne_nil '0' []) isDigit_of_mem_zero fits ends]
    congr 1
    simp only [List.length_singleton]
    omega
  · rename_i below
    have whole : (d.exponent + 1).toNat = 0 := by omega
    rw [whole, Nat.pow_zero, Nat.mul_one] at fits ⊢
    split
    · -- The point is among the digits.
      rename_i among
      obtain ⟨before, length⟩ := Nat.exists_eq_add_of_le' (Nat.le_of_lt among)
      rw [length, Nat.add_sub_cancel]
      have parts := List.take_append_drop before (digitsOf d.digits)
      have behind : (List.drop before (digitsOf d.digits)).length = (-d.exponent).toNat := by
        rw [List.length_drop, length, Nat.add_sub_cancel_left]
      have nonempty : List.drop before (digitsOf d.digits) ≠ [] := by
        rw [← List.length_pos_iff]
        omega
      have reads := @read_point _ _ rest negative
        (canonical_take canonical first (show 0 < before by omega))
        nonempty (fun c mem => canonical.isDigit c (List.mem_of_mem_drop mem))
        (by rwa [parts, value]) ends
      rw [reads, parts, value]
      congr 1
      omega
    · -- Zeros fill the gap between the point and the digits.
      have single := canonical_singleton (show isDigit '0' = true by decide)
      have all :
          ∀ c ∈ List.replicate ((-d.exponent).toNat - (digitsOf d.digits).length) '0' ++
            digitsOf d.digits,
          isDigit c = true := by
        intro c mem
        rcases List.mem_append.1 mem with mem | mem
        · exact isDigit_of_mem_replicate c mem
        · exact canonical.isDigit c mem
      have spelled : Nat.ofDigitChars 10 (['0'] ++
          (List.replicate ((-d.exponent).toNat - (digitsOf d.digits).length) '0' ++
            digitsOf d.digits)) 0 = d.digits := by
        rw [List.singleton_append, ← List.cons_append, ← List.replicate_succ, value_zeros_append]
      have reads := @read_point _ _ rest negative single (by simp [canonical.ne_nil]) all
        (by rwa [spelled]) ends
      rw [spelled] at reads
      refine Eq.trans reads ?_
      congr 1
      simp only [List.length_append, List.length_replicate]
      omega

/-- Few digits with few places are scaled with a single rounding. -/
theorem scaled_of_small {n places : Nat} (small : n < 2 ^ 53) (some : 0 < places)
    (few : places ≤ 15) :
    ∃ num den : Nat, 0 < den ∧ (num : ℚ) / den = n / 10 ^ places ∧
      scaled n (-(places : Int)) = .some (Binary.round false num den) := by
  have power : Nat.pow 10 places < 2 ^ 53 :=
    Nat.lt_of_le_of_lt (Nat.pow_le_pow_right (by decide) few) (by decide)
  obtain ⟨finite, exact, sign⟩ := Binary.exact_ofNat Format.proper_double small
  obtain ⟨finite', exact', sign'⟩ := Binary.exact_ofNat Format.proper_double power
  obtain ⟨num, den, pos, quotient, eq⟩ :=
    Binary.div_eq_round Format.proper_double finite finite' (by
    rw [exact']
    exact Nat.cast_ne_zero.2 (Nat.ne_of_gt (Nat.pow_pos (by decide))))
  refine ⟨num, den, pos, ?_, ?_⟩
  · rw [quotient, exact, exact', Nat.abs_cast, Nat.abs_cast]
    exact_mod_cast rfl
  · have step : places ≤ stepExponent := by
      unfold stepExponent
      omega
    rw [scaled, if_pos (by omega), Int.natAbs_neg, Int.natAbs_natCast, scaleDown, if_pos step]
    rw [tenPower, eq, sign, sign']
    rfl

end Number

end Json

end FaceAnnotator
