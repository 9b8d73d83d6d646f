import FaceAnnotator.Json.Printing
import FaceAnnotator.Proofs.Json.Answer
/-!
# FaceAnnotator.Proofs.Json.Literal

**A printed string reads back.**

Each character is followed to the end of its escape, if it has one, and the reader goes on behind
it. The reader's fuel is the length of what is left, which is never less than the number of
characters to come.
-/

namespace FaceAnnotator.Json

/-- The inside of a literal. -/
def escapedText (text : List Char) : List Char := text.flatMap fun c => (escaped c).getD [c]

theorem flatten_literal (text : List Char) :
    (literal text).flatten = '"' :: (escapedText text ++ ['"']) := by
  simp [literal, flatten_insidePieces, escapedText]

namespace Literal

theorem hexValue_digitChar : ∀ n < 16, hexValue (Nat.digitChar n) = some n := by decide

/-- The escape of a control character stands for that character. -/
theorem unicodeEscape_low {c : Char} (h : c < ' ') (rest : List Char) :
    unicodeEscape ('0' :: '0' :: Nat.digitChar (c.toNat / 16) :: Nat.digitChar (c.toNat % 16) ::
      rest) = .ok (c, rest) := by
  have small : c.toNat < 32 := h
  have high := hexValue_digitChar (c.toNat / 16) (by omega)
  have low := hexValue_digitChar (c.toNat % 16) (by omega)
  have zero : hexValue '0' = some 0 := by decide
  have whole : c.toNat / 16 * 16 + c.toNat % 16 = c.toNat := by omega
  have first : isHighSurrogate c.toNat = false := by
    simp [isHighSurrogate]
    omega
  have second : isLowSurrogate c.toNat = false := by
    simp [isLowSurrogate]
    omega
  simp [unicodeEscape, hexEscape, zero, high, low, whole, first, second]

/-- An escape stands for the character that was escaped. -/
theorem escape_of_escaped {c : Char} {text : List Char} (h : escaped c = some text) :
    ∃ more, text = '\\' :: more ∧ ∀ rest, escape (more ++ rest) = .ok (c, rest) := by
  unfold escaped at h
  repeat' split at h
  all_goals try
    subst c
    cases h
    exact ⟨_, rfl, fun rest => rfl⟩
  · rename_i low
    cases h
    exact ⟨_, rfl, unicodeEscape_low low⟩
  · cases h

/-- A character that needs no escape is no quote, no backslash and no control character. -/
theorem plain_of_escaped {c : Char} (h : escaped c = none) :
    c ≠ '"' ∧ c ≠ '\\' ∧ isControl c = false := by
  unfold escaped at h
  refine ⟨?_, ?_, ?_⟩
  · rintro rfl
    cases h
  · rintro rfl
    cases h
  · repeat' split at h
    all_goals first | simpa [isControl] using ‹¬c < ' '› | cases h

/-- The reader goes on behind the inside of a literal. -/
theorem readWithin_escapedText {fuel : Nat} {text : List Char} (done rest : List Char)
    (enough : text.length < fuel) :
    readWithin fuel done (escapedText text ++ '"' :: rest) = .ok (done.reverse ++ text, rest) := by
  -- The reader takes an escape in one step, so its fuel goes down by one for each character of
  -- the text.
  induction text generalizing fuel done with
  | nil =>
      obtain ⟨fuel, rfl⟩ := Nat.exists_eq_add_one.2 (Nat.zero_lt_of_lt enough)
      simp [escapedText, readWithin]
  | cons c text ih =>
      obtain ⟨fuel, rfl⟩ := Nat.exists_eq_add_one.2 (Nat.zero_lt_of_lt enough)
      have later := @ih fuel (c :: done) (by simpa using enough)
      have tail : escapedText (c :: text) = (escaped c).getD [c] ++ escapedText text := by
        simp [escapedText]
      rw [tail]
      cases need : escaped c with
      | none =>
          obtain ⟨quote, backslash, control⟩ := plain_of_escaped need
          simp [readWithin, quote, backslash, control, later]
      | some escapes =>
          obtain ⟨more, rfl, stands⟩ := escape_of_escaped need
          have stands := stands (escapedText text ++ '"' :: rest)
          simp [readWithin, stands, later]

theorem length_le_escapedText (text : List Char) : text.length ≤ (escapedText text).length := by
  induction text with
  | nil => exact Nat.le_refl _
  | cons c text ih =>
      have tail : escapedText (c :: text) = (escaped c).getD [c] ++ escapedText text := by
        simp [escapedText]
      have one : 1 ≤ ((escaped c).getD [c]).length := by
        cases need : escaped c with
        | none => exact Nat.le_refl _
        | some escapes =>
            obtain ⟨more, rfl, -⟩ := escape_of_escaped need
            simp
      rw [tail, List.length_append, List.length_cons]
      omega

theorem read_escapedText (text rest : List Char) :
    read (escapedText text ++ '"' :: rest) = .ok (text, rest) := by
  have enough := length_le_escapedText text
  refine readWithin_escapedText [] rest ?_
  simp only [List.length_append, List.length_cons]
  omega

end Literal

/-- The text of a string. -/
def quote (s : String) : List Char := '"' :: (escapedText s.toList ++ ['"'])

theorem answers_text (s : String) : Answers text (quote s) (some s) := by
  intro rest _
  have inside := Literal.read_escapedText s.toList rest
  simp [text, quote, skipSpace_cons (show isSpace '"' = false by decide), inside]

theorem answers_optionalText (s : String) : Answers optionalText (quote s) (some (some s)) := by
  intro rest ends
  have inside : text (quote s ++ rest) = .ok (s, rest) := answers_text s rest ends
  have space : skipSpace (quote s ++ rest) = quote s ++ rest :=
    skipSpace_cons (show isSpace '"' = false by decide) _
  have word : ∀ after, quote s ++ rest ≠ 'n' :: after := fun after eq =>
    absurd (List.cons.inj eq).1 (by decide)
  unfold optionalText
  rw [space]
  split
  · rename_i after eq
    exact absurd eq (word after)
  · rw [inside]
    rfl

end FaceAnnotator.Json
