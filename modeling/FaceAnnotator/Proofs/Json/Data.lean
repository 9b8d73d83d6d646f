import FaceAnnotator.Json.Printing
import FaceAnnotator.Proofs.Json.Number
import FaceAnnotator.Proofs.Numeric.Shortest
/-!
# FaceAnnotator.Proofs.Json.Data

**Printed data is read, and words that are no numbers are refused.**

Whatever layout the text of a number gets, it is digits, then a point with more digits or an
exponent or both (`isNumeral_text`). So it is read as some word (`Single.reread`), which need not be
the word that was printed: reading rounds twice. A word that is no number is printed as `null`, and
`null` is no number.
-/

namespace FaceAnnotator

open Numeric

namespace Json

open Number

theorem canonical_append {digits more : List Char} (h : Canonical digits)
    (first : ∀ others, digits ≠ '0' :: others) (all : ∀ c ∈ more, isDigit c = true) :
    Canonical (digits ++ more) where
  ne_nil := by simp [h.ne_nil]
  isDigit := by
    intro c mem
    rcases List.mem_append.1 mem with mem | mem
    · exact h.isDigit c mem
    · exact all c mem
  head := by
    intro others eq
    cases digits with
    | nil => exact absurd rfl h.ne_nil
    | cons c digits => exact absurd (by rw [(List.cons.inj eq).1]) (first digits)

theorem canonical_take {digits : List Char} (h : Canonical digits)
    (first : ∀ others, digits ≠ '0' :: others) {n : Nat} (some : 0 < n) :
    Canonical (digits.take n) where
  ne_nil := by
    rw [Ne, List.take_eq_nil_iff, not_or]
    exact ⟨Nat.ne_of_gt some, h.ne_nil⟩
  isDigit := fun c mem => h.isDigit c (List.mem_of_mem_take mem)
  head := by
    intro others eq
    have whole := List.take_append_drop n digits
    rw [eq, List.cons_append] at whole
    exact absurd whole.symm (first _)

theorem canonical_singleton {c : Char} (h : isDigit c = true) : Canonical [c] where
  ne_nil := List.cons_ne_nil _ _
  isDigit := by simpa using h
  head := by
    rintro _ ⟨⟩
    rfl

theorem isDigit_of_mem_replicate {n : Nat} : ∀ c ∈ List.replicate n '0', isDigit c = true := by
  intro c mem
  rw [List.eq_of_mem_replicate mem]
  decide

theorem isDigit_of_mem_zero : ∀ c ∈ ['0'], isDigit c = true :=
  isDigit_of_mem_replicate (n := 1)

theorem isNumeral_fraction {whole digits : List Char} (canonical : Canonical whole)
    (short : whole.length ≤ 19) (nonempty : digits ≠ []) (all : ∀ c ∈ digits, isDigit c = true) :
    IsNumeral (whole ++ '.' :: digits) whole ('.' :: digits) :=
  ⟨rfl, canonical, short, .inl ⟨digits, [], by rw [List.append_nil], nonempty, all, .inl rfl⟩⟩

/-- The text of a decimal in the layout of data is that of a number. -/
theorem isNumeral_text {d : Decimal} (nonzero : d.digits ≠ 0) (near : d.leading.natAbs ≤ 200) :
    ∃ whole behind, IsNumeral (d.text .data) whole behind := by
  have canonical := canonical_digitsOf d.digits
  have first := head_digitsOf (Nat.pos_of_ne_zero nonzero)
  have some_digit : 0 < (digitsOf d.digits).length := List.length_pos_iff.2 canonical.ne_nil
  unfold Decimal.text
  split
  · rename_i inPlace
    have leading : d.leading < 13 := by
      simp only [Layout.writesInPlace, Layout.data, Bool.and_eq_true, decide_eq_true_eq] at inPlace
      exact inPlace.2
    unfold Decimal.leading at leading
    unfold Decimal.inPlace
    dsimp only
    split
    · -- A whole number: zeros up to the point, and one behind it.
      have zeros := canonical_append canonical first
        (isDigit_of_mem_replicate (n := d.exponent.toNat))
      refine ⟨_, _, isNumeral_fraction zeros ?_ (List.cons_ne_nil '0' []) isDigit_of_mem_zero⟩
      simp only [List.length_append, List.length_replicate]
      omega
    split
    · -- The point is among the digits.
      refine ⟨_, _, isNumeral_fraction (canonical_take canonical first (by omega)) ?_ ?_ ?_⟩
      · rw [List.length_take]
        omega
      · intro none
        rw [List.drop_eq_nil_iff] at none
        omega
      · exact fun c mem => canonical.isDigit c (List.mem_of_mem_drop mem)
    · -- The point is before all digits.
      have single := canonical_singleton (show isDigit '0' = true by decide)
      refine ⟨_, _, isNumeral_fraction single (by decide) ?_ ?_⟩
      · simp [canonical.ne_nil]
      · intro c mem
        rcases List.mem_append.1 mem with mem | mem
        · exact isDigit_of_mem_replicate c mem
        · exact canonical.isDigit c mem
  · unfold Decimal.scientific
    cases digits : digitsOf d.digits with
    | nil => exact absurd digits canonical.ne_nil
    | cons c others =>
        have all := canonical.isDigit
        rw [digits] at all
        have single := canonical_singleton (all c List.mem_cons_self)
        cases others with
        | nil => exact ⟨[c], exponentText d.leading, rfl, single, by simp, .inr ⟨_, near, rfl⟩⟩
        | cons e others =>
            refine ⟨[c], _, rfl, single, by simp, .inl
              ⟨e :: others, exponentText d.leading, rfl, ?_, ?_, ?_⟩⟩
            · exact List.cons_ne_nil _ _
            · exact fun other mem => all other (List.mem_cons_of_mem c mem)
            · exact .inr ⟨_, near, rfl⟩

/-- A numeral behind a sign is read from its first digit on. -/
theorem number_signed {text whole behind : List Char} (negative : Bool)
    (h : IsNumeral text whole behind) (expected : String) (rest : List Char) :
    number expected (signText negative ++ text ++ rest) = read negative (text ++ rest) := by
  rw [h.eq]
  cases negative with
  | true => exact number_minus expected _
  | false =>
      have unsigned := number_of_canonical h.canonical expected (behind ++ rest)
      simpa [signText] using unsigned

theorem steady_number {text whole behind : List Char} (negative : Bool)
    (h : IsNumeral text whole behind) (expected : String) :
    Steady (number expected) (signText negative ++ text) := by
  obtain ⟨x, reads⟩ := steady_read negative h
  exact ⟨x, fun rest ends => (number_signed negative h expected rest).trans (reads rest ends)⟩

/-- The text of a finite word is that of a number behind a sign. -/
theorem numeral_of_isFinite {x : Single} (h : x.isFinite = true) :
    ∃ negative text whole behind,
      x.text .data = signText negative ++ text ∧ IsNumeral text whole behind := by
  obtain ⟨negative, significand, exponent, value, small, least, most⟩ := Binary.value_of_isFinite h
  rw [Binary.text, value]
  dsimp only
  split
  · have single := canonical_singleton (show isDigit '0' = true by decide)
    exact ⟨_, _, _, _, rfl, isNumeral_fraction single (by decide) (List.cons_ne_nil '0' [])
      isDigit_of_mem_zero⟩
  · rename_i nonzero
    have pos := Nat.pos_of_ne_zero nonzero
    obtain ⟨whole, behind, is⟩ := isNumeral_text (digits_shortestDecimal pos small least most)
      (leading_shortestDecimal pos small least most)
    exact ⟨negative, _, whole, behind, rfl, is⟩

/-- The printed text of a finite word is read as some word. -/
theorem steady_single {x : Single} (h : x.isFinite = true) : Steady single (x.text .data) := by
  obtain ⟨negative, text, whole, behind, eq, is⟩ := numeral_of_isFinite h
  obtain ⟨n, reads⟩ := steady_number negative is "f32"
  refine ⟨n.single, fun rest ends => ?_⟩
  rw [eq, single, reads rest ends, answered_some]

theorem begins_singlePieces (x : Single) : Begins (singlePieces x).flatten := by
  rw [singlePieces, List.flatten_singleton]
  split
  · rename_i finite
    obtain ⟨negative, text, whole, behind, eq, is⟩ := numeral_of_isFinite finite
    rw [eq, is.eq]
    cases negative with
    | true => exact ⟨'-', _, rfl, by decide, by decide⟩
    | false =>
        cases digits : whole with
        | nil => exact absurd digits is.canonical.ne_nil
        | cons c others =>
            have digit := is.canonical.isDigit c (digits ▸ List.mem_cons_self)
            refine ⟨c, others ++ behind, rfl, isSpace_of_isDigit digit, ?_⟩
            rintro rfl
            exact absurd digit (by decide)
  · exact ⟨'n', _, rfl, by decide, by decide⟩

end Json

/-- What is read for a word that was printed as data. -/
def Numeric.Single.reread (x : Single) : Single :=
  match Json.document Json.single (x.text .data) with
  | .ok y => y
  | .error _ => Binary.nan

/-- A number does read back. -/
theorem Json.document_reread {x : Single} (h : x.isFinite = true) :
    document single (x.text .data) = .ok x.reread := by
  obtain ⟨y, reads⟩ := steady_single h
  rw [Numeric.Single.reread, reads.document]

theorem Json.answers_null : Answers single ['n', 'u', 'l', 'l'] none := by
  intro rest _
  have word : word ['u', 'l', 'l'] ('u' :: 'l' :: 'l' :: rest) = .ok rest := word_append _ rest
  refine ⟨.here (.wrongType .null "f32") rest, ?_, rfl⟩
  have space : isSpace 'n' = false := by decide
  have digit : isDigit 'n' = false := by decide
  simp [single, number, skipSpace_cons space, digit, wrongType, word]

/-- A word of data is read as it is reread, and refused if it is no number. -/
theorem Json.answers_single (x : Single) :
    Answers single (singlePieces x).flatten (if x.isFinite then some x.reread else none) := by
  rw [singlePieces, List.flatten_singleton]
  split
  · rename_i finite
    obtain ⟨y, reads⟩ := steady_single finite
    have same : x.reread = y := by rw [Numeric.Single.reread, reads.document]
    rw [same]
    exact reads
  · exact answers_null

end FaceAnnotator
