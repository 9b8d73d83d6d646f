import FaceAnnotator.Proofs.Json.InPlace
import FaceAnnotator.Proofs.Numeric.Decimal
import FaceAnnotator.Proofs.Numeric.DoubleRounding
import FaceAnnotator.Proofs.Recording.Framing
/-!
# FaceAnnotator.Proofs.Frame.Fidelity

**Frames whose data is neither tiny nor huge come back as they were.**

A word of data is printed with the fewest digits that stand for it if they are rounded once. A
reader rounds them twice, to a word of the wide format first. Between `2 ^ (-14)` and `10 ^ 13` that
does no harm: such a word has few places, so its digits cannot come near to an end of its interval
without reaching it.
-/

namespace FaceAnnotator

open Numeric

/-- Words of data of moderate size: the zeros, and those from `2 ^ (-14)`, which is less than
`0.0001`, up to thirteen digits before the point. -/
structure Numeric.Single.IsModerate (x : Single) : Prop where
  isFinite : x.isFinite = true
  size : x.exact = 0 ∨ (2 : ℚ) ^ (-14 : Int) ≤ |x.exact| ∧ |x.exact| < 10 ^ 13

namespace Json

open Number

theorem signed_round (negative : Bool) (num den : Nat) :
    signed negative (Binary.round false num den) = .real (Binary.round negative num den) := by
  cases negative with
  | false => rfl
  | true => rw [signed, if_pos rfl, Binary.neg_round Format.proper_double, Bool.not_false]

/-- A decimal in place that has few digits and few places is rounded to the wide format once. -/
theorem number_inPlace {d : Decimal} (negative : Bool) (nonzero : d.digits ≠ 0)
    (near : d.leading.natAbs ≤ 200)
    (inPlace : Layout.data.writesInPlace d.leading = true)
    (small : d.digits * 10 ^ (d.exponent + 1).toNat < 2 ^ 53)
    {places : Nat} (scale : d.exponent - (d.exponent + 1).toNat = -(places : Int))
    (some : 0 < places) (few : places ≤ 15) :
    ∃ num den : Nat, 0 < den ∧
      (num : ℚ) / den = (d.digits * 10 ^ (d.exponent + 1).toNat : Nat) / 10 ^ places ∧
      Answers (number "f32") (signText negative ++ d.text .data)
        (.some (.real (Binary.round negative num den))) := by
  obtain ⟨whole, behind, numeral⟩ := isNumeral_text nonzero near
  obtain ⟨num, den, pos, quotient, scales⟩ := scaled_of_small small some few
  refine ⟨num, den, pos, quotient, fun rest ends => ?_⟩
  have fits : d.digits * 10 ^ (d.exponent + 1).toNat < significandLimit := by
    unfold significandLimit
    omega
  have text : d.text .data = d.inPlace true := if_pos inPlace
  rw [answered_some, number_signed negative numeral, text, read_inPlace negative nonzero fits ends,
    scale, ofParts, scales]
  exact congrArg (fun n => Except.ok (n, rest)) (signed_round negative num den)

section Moderate

variable {x : Single} {negative : Bool} {significand : Nat} {exponent : Int}

/-- The word of a decimal that is written in place is read as it was. -/
theorem reads_inPlace (value : x.value = .finite negative significand exponent)
    (full : 2 ^ 23 ≤ significand) (small : significand < 2 ^ 24) (least : -37 ≤ exponent)
    (most : exponent ≤ 20)
    (inPlace : Layout.data.writesInPlace (shortestDecimal .single significand exponent).leading =
      true) :
    ∃ y : Double, document (number "f32") (x.text .data) = .ok (.real y) ∧ y.convert = x := by
  have nonzero := digits_shortestDecimal (by omega) small (by omega : -149 ≤ exponent) (by omega)
  have near := leading_shortestDecimal (by omega) small (by omega : -149 ≤ exponent) (by omega)
  have inside := contains_shortestDecimal (by omega) small (by omega : -149 ≤ exponent) (by omega)
  have digits := digits_lt full small least most
  have few := places_le full small least most
  have text : x.text .data =
      signText negative ++ (shortestDecimal .single significand exponent).text .data := by
    rw [Binary.text, value]
    exact congrArg _ (if_neg (by omega))
  rw [text]
  generalize shortestDecimal .single significand exponent = d at *
  obtain ⟨places, eq⟩ :=
    Int.eq_ofNat_of_zero_le (by omega : 0 ≤ (d.exponent + 1).toNat - d.exponent)
  have scale : d.exponent - (d.exponent + 1).toNat = -(places : Int) := by omega
  obtain ⟨num, den, pos, quotient, answers⟩ :=
    number_inPlace negative nonzero near inPlace digits scale (by omega) (by omega)
  rw [d.value_eq_div scale, ← quotient] at inside
  exact ⟨_, answers.document,
    Binary.convert_round_of_places value (by omega) pos inside quotient (by omega)⟩

/-- The words next to `10 ^ 13` are the only ones in the range that are printed with an exponent. -/
theorem reads_next_to_limit (value : x.value = .finite negative 9536743 20) :
    ∃ y : Double, document (number "f32") (x.text .data) = .ok (.real y) ∧ y.convert = x := by
  obtain ⟨-, sign, magnitude⟩ := Binary.isPlaced_of_value Format.proper_single value
  rw [← x.ofMagnitude_magnitude Format.proper_single, sign, magnitude]
  refine ⟨Binary.round negative (10 ^ 13) 1, ?_⟩
  cases negative <;> decide +kernel

theorem reads_zero (value : x.value = .finite negative 0 exponent) :
    ∃ y : Double, document (number "f32") (x.text .data) = .ok (.real y) ∧ y.convert = x := by
  obtain ⟨is, sign, magnitude⟩ := Binary.isPlaced_of_value Format.proper_single value
  obtain rfl := is.full.resolve_right (Nat.not_le.2 Format.single.hidden_pos)
  rw [← x.ofMagnitude_magnitude Format.proper_single, sign, magnitude]
  refine ⟨Binary.zero negative, ?_⟩
  cases negative <;> decide +kernel

/-- **Words of moderate size are read as they were.** -/
theorem reads_moderate (h : x.IsModerate) :
    ∃ y : Double, document (number "f32") (x.text .data) = .ok (.real y) ∧ y.convert = x := by
  obtain ⟨significand, exponent, is⟩ := Binary.exists_significand Format.proper_single h.isFinite
  obtain ⟨placed, -, -⟩ := Binary.isPlaced_of_value Format.proper_single is.value
  obtain ⟨small, -, -⟩ := placed.bounds_single
  have hidden : Format.single.hidden = 2 ^ 23 := rfl
  have lowest : Format.single.lowest = -149 := rfl
  have size := Binary.abs_exact is
  have one : (0 : ℚ) < 2 ^ exponent := zpow_pos (by norm_num) _
  rcases h.size with zero | ⟨low, high⟩
  · rw [zero, abs_zero, eq_comm, mul_eq_zero, Nat.cast_eq_zero] at size
    obtain rfl := size.resolve_right (ne_of_gt one)
    exact reads_zero is.value
  rw [size] at low high
  have least : -37 ≤ exponent := by
    have top : (significand : ℚ) < 2 ^ 24 := by exact_mod_cast small
    have less : (2 : ℚ) ^ (-14 : Int) < 2 ^ (24 + exponent) := by
      rw [zpow_add₀ (by norm_num)]
      exact low.trans_lt (mul_lt_mul_of_pos_right (by exact_mod_cast top) one)
    rw [zpow_lt_zpow_iff_right₀ (by norm_num)] at less
    omega
  have full : 2 ^ 23 ≤ significand := hidden ▸ placed.full.resolve_left (by omega)
  have most : exponent ≤ 20 := by
    have bottom : (2 : ℚ) ^ 23 ≤ significand := by exact_mod_cast full
    have less : (2 : ℚ) ^ (23 + exponent) < 2 ^ (44 : Int) := by
      rw [zpow_add₀ (by norm_num)]
      calc (2 : ℚ) ^ (23 : Int) * 2 ^ exponent ≤ significand * 2 ^ exponent :=
            mul_le_mul_of_nonneg_right (by exact_mod_cast bottom) one.le
        _ < 10 ^ 13 := high
        _ < 2 ^ (44 : Int) := by norm_num
    rw [zpow_lt_zpow_iff_right₀ (by norm_num)] at less
    omega
  rcases writesInPlace full small least most high with inPlace | ⟨rfl, rfl⟩
  · exact reads_inPlace is.value full small least most inPlace
  · exact reads_next_to_limit is.value

end Moderate

/-- A word of data is the word nearest to a number. -/
theorem document_single_of_number {text : List Char} {n : Number}
    (h : document (number "f32") text = .ok n) :
    document single text = .ok n.single := by
  unfold document at h ⊢
  unfold single
  cases read : number "f32" text with
  | error fault =>
      rw [read] at h
      cases h
  | ok outcome =>
      obtain ⟨m, rest⟩ := outcome
      rw [read] at h
      dsimp only at h ⊢
      cases behind : skipSpace rest with
      | nil =>
          rw [behind] at h
          cases h
          rfl
      | cons c rest =>
          rw [behind] at h
          cases h

theorem reread_of_moderate {x : Single} (h : x.IsModerate) : x.reread = x := by
  obtain ⟨y, reads, eq⟩ := reads_moderate h
  rw [Numeric.Single.reread, document_single_of_number reads]
  exact eq

end Json

/-- **Data of moderate size survives the text.** A word is printed with digits that are read as a
word of the wide format, which is converted to just this word; so a frame with such data is written
as a line that reads back as the frame. -/
theorem Frame.ofJson_json_of_moderate :
    (∀ x : Single, x.IsModerate →
      (∃ y : Double, Json.document (Json.number "f32") (x.text .data) = .ok (.real y) ∧
        y.convert = x) ∧ Json.document Json.single (x.text .data) = .ok x) ∧
    ∀ f : Frame, (∀ r ∈ f.regions, ∀ t ∈ r.tensors, ∀ x ∈ t.data, x.IsModerate) →
      LineWriter.write (m := Id) Memory.device ⟨true, {}⟩ f =
          (.ok (), ⟨true, { bytes := Text.encode f.json ++ lineEnd }⟩) ∧
        Frame.ofJson f.json = .ok f := by
  refine ⟨fun x moderate => ?_, fun f moderate => ⟨f.write_unlimited, ?_⟩⟩
  · have reads := Json.document_reread moderate.isFinite
    rw [Json.reread_of_moderate moderate] at reads
    exact ⟨Json.reads_moderate moderate, reads⟩
  · have finite : f.isFinite = true :=
      List.all_eq_true.2 fun r mem => List.all_eq_true.2 fun t mem' =>
      List.all_eq_true.2 fun x mem'' => (moderate r mem t mem' x mem'').isFinite
    have same : f.reread = f :=
      Frame.reread_eq_self fun r mem => Region.reread_eq_self fun t mem' =>
      Tensor.reread_eq_self fun x mem'' => Json.reread_of_moderate (moderate r mem t mem' x mem'')
    rw [Frame.ofJson_of_isFinite finite, same]

/-- The word nearest to `0.1`. -/
def tenth : Single := Binary.ofMagnitude false 1036831949

/-- A frame with a word that no decimal with one digit is equal to, and with a negative zero. -/
def leftOfZero : Frame := ⟨7, [⟨0, 0, 4, 4, [⟨"gender", "prob", [tenth, Binary.zero true], none⟩]⟩]⟩

/-- Both words are of moderate size, and the frame comes back, with the sign of its zero. -/
theorem ofJson_json_of_leftOfZero :
    (∀ x ∈ [tenth, Binary.zero true], x.IsModerate) ∧ tenth.text .data = "0.1".toList ∧
      Json.document Json.single ['0', '.', '1'] = .ok tenth ∧
      Frame.ofJson leftOfZero.json = .ok leftOfZero := by
  have value : tenth.value = .finite false 13421773 (-27) := by decide +kernel
  have moderate : tenth.IsModerate := by
    refine ⟨by decide +kernel, .inr ?_⟩
    rw [Binary.exact_of_value value, Binary.signed, if_neg Bool.false_ne_true]
    norm_num [abs_of_pos]
  have zero : Single.IsModerate (Binary.zero true) := by
    refine ⟨by decide +kernel, .inl ?_⟩
    have value : (Binary.zero true : Single).value = .finite true 0 (-149) := by decide +kernel
    rw [Binary.exact_of_value value, Binary.signed]
    norm_num
  have both : ∀ x ∈ [tenth, Binary.zero true], x.IsModerate := by
    simpa using ⟨moderate, zero⟩
  have text : tenth.text .data = ['0', '.', '1'] := by decide +kernel
  obtain ⟨words, frames⟩ := Frame.ofJson_json_of_moderate
  refine ⟨both, text, ?_, (frames leftOfZero ?_).2⟩
  · rw [← text]
    exact (words tenth moderate).2
  · simpa [leftOfZero] using both

end FaceAnnotator
