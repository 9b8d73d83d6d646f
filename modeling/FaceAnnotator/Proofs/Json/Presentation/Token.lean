import FaceAnnotator.Proofs.Json.Continuation.Skip
import FaceAnnotator.Proofs.Json.Presentation.Grammar
/-!
# FaceAnnotator.Proofs.Json.Presentation.Token

**Literals and numbers as the grammar has them.**

A literal that spells a string is read as that string. Any other literal, and any number, is read as
something or refused, but never left at another place than its end. For numbers this follows from a
comparison with the loop that passes over values: what is read is passed over, and what is passed
over is what the grammar says.
-/

namespace FaceAnnotator.Json

open Numeric

/-! ### Literals -/

namespace Literal

theorem hexValue_of_isHex {c : Char} {value : Nat} (h : IsHex c value) :
    hexValue c = some value := by
  have upper : ∀ n < 16, hexValue (Nat.digitChar n).toUpper = some n := by decide
  obtain ⟨small, rfl | rfl⟩ := h
  · exact hexValue_digitChar value small
  · exact upper value small

theorem hexEscape_of_isHexNumber {digits : List Char} {n : Nat} (h : IsHexNumber digits n)
    (rest : List Char) : hexEscape (digits ++ rest) = .ok (n, rest) := by
  obtain ⟨a, b, c, d, i, j, k, l, rfl, ha, hb, hc, hd, rfl⟩ := h
  simp [hexEscape, hexValue_of_isHex ha, hexValue_of_isHex hb, hexValue_of_isHex hc,
    hexValue_of_isHex hd]

theorem shortEscape_of_mem {letter c : Char} (h : (letter, c) ∈ escapes) :
    shortEscape letter = some c := by
  have all : ∀ e ∈ escapes, shortEscape e.1 = some e.2 := by decide
  exact all _ h

theorem isControl_of_isPlain {c : Char} (h : IsPlain c) : isControl c = false := by
  rw [isControl, decide_eq_false_iff_not, Char.not_lt]
  exact h.2.2

/-- A character of the sixteen-bit range is written by its own number. -/
theorem unicodeEscape_of_isHexNumber {c : Char} {digits : List Char}
    (h : IsHexNumber digits c.toNat) (rest : List Char) :
    unicodeEscape (digits ++ rest) = .ok (c, rest) := by
  have valid : c.toNat < 0xD800 ∨ 0xDFFF < c.toNat ∧ c.toNat < 0x110000 := c.valid
  have first : isHighSurrogate c.toNat = false := by
    simp only [isHighSurrogate, Bool.and_eq_false_iff, decide_eq_false_iff_not]
    omega
  have second : isLowSurrogate c.toNat = false := by
    simp only [isLowSurrogate, Bool.and_eq_false_iff, decide_eq_false_iff_not]
    omega
  simp [unicodeEscape, hexEscape_of_isHexNumber h rest, first, second]

/-- A character beyond that range is written by two surrogates. -/
theorem unicodeEscape_of_pair {c : Char} {first second : List Char} {high low : Nat}
    (value : c.toNat = 0x10000 + high * 1024 + low) (high_lt : high < 1024) (low_lt : low < 1024)
    (hf : IsHexNumber first (0xD800 + high)) (hs : IsHexNumber second (0xDC00 + low))
    (rest : List Char) :
    unicodeEscape (first ++ '\\' :: 'u' :: (second ++ rest)) = .ok (c, rest) := by
  have begins : isHighSurrogate (0xD800 + high) = true := by
    simp only [isHighSurrogate, Bool.and_eq_true, decide_eq_true_eq]
    omega
  have no_end : isLowSurrogate (0xD800 + high) = false := by
    simp only [isLowSurrogate, Bool.and_eq_false_iff, decide_eq_false_iff_not]
    omega
  have ends : isLowSurrogate (0xDC00 + low) = true := by
    simp only [isLowSurrogate, Bool.and_eq_true, decide_eq_true_eq]
    omega
  have pair : 0x10000 + (0xD800 + high - 0xD800) * 1024 + (0xDC00 + low - 0xDC00) = c.toNat := by
    omega
  rw [unicodeEscape, hexEscape_of_isHexNumber hf]
  simp only [no_end, begins, lowSurrogate, hexEscape_of_isHexNumber hs, ends, if_true, pair,
    Char.ofNat_toNat, Bool.false_eq_true, if_false]

theorem readWithin_of_spells {s inside : List Char} (h : Spells s inside) {fuel : Nat}
    (done rest : List Char) (enough : inside.length < fuel) :
    readWithin fuel done (inside ++ '"' :: rest) = .ok (done.reverse ++ s, rest) := by
  induction h generalizing fuel done with
  | nil =>
      obtain ⟨fuel, rfl⟩ := Nat.exists_eq_add_one.2 (Nat.zero_lt_of_lt enough)
      simp [readWithin]
  | @plain c text inside fits later ih =>
      obtain ⟨fuel, rfl⟩ := Nat.exists_eq_add_one.2 (Nat.zero_lt_of_lt enough)
      have later := @ih fuel (c :: done) (by simpa using enough)
      simp [readWithin, fits.1, fits.2.1, isControl_of_isPlain fits, later]
  | @short letter c text inside mem later ih =>
      obtain ⟨fuel, rfl⟩ := Nat.exists_eq_add_one.2 (Nat.zero_lt_of_lt enough)
      have later := @ih fuel (c :: done) (by simp only [List.length_cons] at enough; omega)
      simp [readWithin, escape, shortEscape_of_mem mem, later]
  | @unicode c digits text inside number later ih =>
      obtain ⟨fuel, rfl⟩ := Nat.exists_eq_add_one.2 (Nat.zero_lt_of_lt enough)
      have later := @ih fuel (c :: done) (by
        simp only [List.length_cons, List.length_append] at enough
        omega)
      have long : shortEscape 'u' = none := by decide
      simp [readWithin, escape, long, unicodeEscape_of_isHexNumber number, later]
  | @pair c first second text inside high low value high_lt low_lt hf hs later ih =>
      obtain ⟨fuel, rfl⟩ := Nat.exists_eq_add_one.2 (Nat.zero_lt_of_lt enough)
      have later := @ih fuel (c :: done) (by
        simp only [List.length_cons, List.length_append] at enough
        omega)
      have long : shortEscape 'u' = none := by decide
      simp [readWithin, escape, long, unicodeEscape_of_pair value high_lt low_lt hf hs, later]

theorem read_of_spells {s inside : List Char} (h : Spells s inside) (rest : List Char) :
    read (inside ++ '"' :: rest) = .ok (s, rest) :=
  readWithin_of_spells h [] rest (by simp)

theorem skipWithin_of_isInside {inside : List Char} (h : IsInside inside) {fuel : Nat}
    (rest : List Char) (enough : inside.length < fuel) :
    skipWithin fuel (inside ++ '"' :: rest) = .ok rest := by
  induction h generalizing fuel with
  | nil =>
      obtain ⟨fuel, rfl⟩ := Nat.exists_eq_add_one.2 (Nat.zero_lt_of_lt enough)
      simp [skipWithin]
  | plain fits later ih =>
      obtain ⟨fuel, rfl⟩ := Nat.exists_eq_add_one.2 (Nat.zero_lt_of_lt enough)
      have later := @ih fuel (by simpa using enough)
      simp [skipWithin, fits.1, fits.2.1, isControl_of_isPlain fits, later]
  | short mem later ih =>
      obtain ⟨fuel, rfl⟩ := Nat.exists_eq_add_one.2 (Nat.zero_lt_of_lt enough)
      have later := @ih fuel (by simp only [List.length_cons] at enough; omega)
      simp [skipWithin, skipEscape, shortEscape_of_mem mem, later]
  | unicode number later ih =>
      obtain ⟨fuel, rfl⟩ := Nat.exists_eq_add_one.2 (Nat.zero_lt_of_lt enough)
      have later := @ih fuel (by
        simp only [List.length_cons, List.length_append] at enough
        omega)
      have long : shortEscape 'u' = none := by decide
      simp [skipWithin, skipEscape, long, hexEscape_of_isHexNumber number, Except.map, later]

theorem skip_of_isInside {inside : List Char} (h : IsInside inside) (rest : List Char) :
    skip (inside ++ '"' :: rest) = .ok rest :=
  skipWithin_of_isInside h rest (by simp)

/-- Behind a high surrogate, only another escape is read. -/
theorem lowSurrogate_inside {high : Nat} {inside left rest : List Char} {c : Char}
    (h : IsInside inside) (reads : lowSurrogate high (inside ++ '"' :: rest) = .ok (c, left)) :
    ∃ later, IsInside later ∧ left = later ++ '"' :: rest := by
  cases h with
  | nil => cases reads
  | plain fits later =>
      unfold lowSurrogate at reads
      split at reads
      · rename_i eq
        exact absurd (List.cons.inj eq).1 fits.2.1
      all_goals cases reads
  | @short letter d inside mem later =>
      have other : letter ≠ 'u' := by
        rintro rfl
        have short := shortEscape_of_mem mem
        rw [show shortEscape 'u' = none by decide] at short
        cases short
      unfold lowSurrogate at reads
      split at reads
      · rename_i eq
        exact absurd (List.cons.inj (List.cons.inj eq).2).1 other
      all_goals cases reads
  | unicode number later =>
      simp only [List.cons_append, List.append_assoc, lowSurrogate,
        hexEscape_of_isHexNumber number] at reads
      split at reads
      · simp only [Except.ok.injEq, Prod.mk.injEq] at reads
        exact ⟨_, later, reads.2.symm⟩
      · cases reads

/-- An escape leaves the inside of a literal. -/
theorem escape_inside {inside left rest : List Char} {c : Char} (h : IsInside ('\\' :: inside))
    (reads : escape (inside ++ '"' :: rest) = .ok (c, left)) :
    ∃ later, IsInside later ∧ left = later ++ '"' :: rest := by
  cases h with
  | plain fits later => exact absurd rfl fits.2.1
  | short mem later =>
      rw [List.cons_append, escape, shortEscape_of_mem mem] at reads
      cases reads
      exact ⟨_, later, rfl⟩
  | unicode number later =>
      have long : shortEscape 'u' = none := by decide
      rw [List.cons_append, escape, long] at reads
      dsimp only at reads
      rw [if_pos rfl, unicodeEscape, List.append_assoc, hexEscape_of_isHexNumber number] at reads
      dsimp only at reads
      split at reads
      · cases reads
      split at reads
      · exact lowSurrogate_inside later reads
      · cases reads
        exact ⟨_, later, rfl⟩

/-- Where a literal is read, it is read to its end. -/
theorem readWithin_inside {fuel : Nat} {done s inside left rest : List Char} (h : IsInside inside)
    (reads : readWithin fuel done (inside ++ '"' :: rest) = .ok (s, left)) : left = rest := by
  -- Two surrogates are read in one step, so the induction is on the fuel.
  induction fuel generalizing done inside with
  | zero => cases reads
  | succ fuel ih =>
      cases inside with
      | nil =>
          cases reads
          rfl
      | cons c inside =>
          rw [List.cons_append, readWithin] at reads
          split at reads
          · rename_i quote
            subst quote
            cases h with
            | plain fits later => exact absurd rfl fits.1
          split at reads
          · rename_i backslash
            subst backslash
            split at reads
            · cases reads
            · rename_i d after escaped
              obtain ⟨later, inner, rfl⟩ := escape_inside h escaped
              exact ih inner reads
          · rename_i backslash
            split at reads
            · cases reads
            · cases h with
              | plain fits later => exact ih later reads
              | short mem later => exact absurd rfl backslash
              | unicode number later => exact absurd rfl backslash

theorem read_inside {s inside left rest : List Char} (h : IsInside inside)
    (reads : read (inside ++ '"' :: rest) = .ok (s, left)) : left = rest :=
  readWithin_inside h reads

end Literal

/-! ### Numbers -/

theorem startsWithDigit_of_isDigits {digits : List Char} (h : IsDigits digits) (rest : List Char) :
    startsWithDigit (digits ++ rest) = true := by
  obtain ⟨nonempty, all⟩ := h
  cases digits with
  | nil => exact absurd rfl nonempty
  | cons c digits => exact all c List.mem_cons_self

theorem skipDigits_of_ended {rest : List Char} (h : startsWithDigit rest = false) :
    skipDigits rest = rest :=
  @Number.skipDigits_append [] rest (by simp) h

namespace Number

theorem skipDigits_gather {limit value count size taken : Nat} {text left : List Char}
    (h : gather limit value count text = (size, taken, left)) :
    skipDigits left = skipDigits text := by
  induction text generalizing value count with
  | nil =>
      cases h
      rfl
  | cons c text ih =>
      rw [gather] at h
      split at h
      · rename_i digit
        have digit : isDigit c = true := (Bool.and_eq_true_iff.1 digit).1
        rw [ih h, skipDigits, skipDigits, List.dropWhile_cons_of_pos digit]
      · cases h
        rfl

theorem exponentDigits_passes {negative downwards : Bool} {significand : Nat} {scale : Int}
    {text rest : List Char} {n : Number}
    (h : exponentDigits negative significand scale downwards text = .ok (n, rest)) :
    startsWithDigit text = true ∧ skipDigits text = rest := by
  cases text with
  | nil => cases h
  | cons c text =>
      rw [exponentDigits] at h
      split at h
      · rename_i digit
        refine ⟨digit, ?_⟩
        obtain ⟨size, taken, left, gathered⟩ :
            ∃ size taken left, gather exponentLimit 0 0 (c :: text) = (size, taken, left) :=
          ⟨_, _, _, rfl⟩
        simp only [gathered] at h
        rw [← skipDigits_gather gathered]
        split at h
        · split at h
          · cases h
          · exact (Prod.mk.inj (Except.ok.inj h)).2
        · rename_i ended
          rw [(ofParts_extend h []).1]
          exact skipDigits_of_ended (by simpa using ended)
      · cases h

theorem exponent_passes {negative : Bool} {significand : Nat} {scale : Int} {text rest : List Char}
    {n : Number} (h : exponent negative significand scale text = .ok (n, rest)) :
    Skip.exponent text = .ok rest := by
  unfold exponent at h
  split at h
  · obtain ⟨digit, skipped⟩ := exponentDigits_passes h
    rw [Skip.exponent_of_sign (.inl rfl), if_pos digit, skipped]
  · obtain ⟨digit, skipped⟩ := exponentDigits_passes h
    rw [Skip.exponent_of_sign (.inr rfl), if_pos digit, skipped]
  · obtain ⟨digit, skipped⟩ := exponentDigits_passes h
    rw [Skip.exponent_of_digit digit, skipped]

theorem maybeExponent_passes {negative : Bool} {significand : Nat} {scale : Int}
    {text rest : List Char} {n : Number}
    (h : maybeExponent negative significand scale text = .ok (n, rest)) :
    Skip.maybeExponent text = .ok rest := by
  cases text with
  | nil =>
      rw [(ofParts_extend h []).1]
      rfl
  | cons c text =>
      rw [maybeExponent_cons] at h
      rw [Skip.maybeExponent_cons]
      refine ite_extend h (fun _ h => exponent_passes h) fun _ h => ?_
      rw [(ofParts_extend h []).1]

theorem fraction_passes {negative : Bool} {significand : Nat} {scale : Int} {text rest : List Char}
    {n : Number} (h : fraction negative significand scale text = .ok (n, rest)) :
    startsWithDigit text = true ∧ Skip.maybeExponent (skipDigits text) = .ok rest := by
  obtain ⟨size, taken, left, gathered⟩ :
      ∃ size taken left, gather significandLimit significand 0 text = (size, taken, left) :=
    ⟨_, _, _, rfl⟩
  simp only [fraction, gathered] at h
  -- Where there is no digit at all, none is gathered and none is left.
  have some_digit (h : startsWithDigit left = true ∨ taken ≠ 0) : startsWithDigit text = true := by
    by_contra none
    rw [Bool.not_eq_true] at none
    rw [gather_of_ended none] at gathered
    obtain ⟨-, rfl, rfl⟩ : significand = size ∧ 0 = taken ∧ text = left := by simpa using gathered
    rcases h with h | h
    · rw [none] at h
      cases h
    · exact h rfl
  rw [← skipDigits_gather gathered]
  split at h
  · rename_i goes_on
    exact ⟨some_digit (.inl goes_on), maybeExponent_passes h⟩
  · rename_i ended
    split at h
    · cases h
    · rename_i some_read
      rw [skipDigits_of_ended (by simpa using ended)]
      exact ⟨some_digit (.inr some_read), maybeExponent_passes h⟩

theorem afterWhole_passes {negative : Bool} {significand : Nat} {text rest : List Char} {n : Number}
    (h : afterWhole negative significand text = .ok (n, rest)) :
    Skip.afterWhole text = .ok rest := by
  cases text with
  | nil =>
      cases h
      rfl
  | cons c text =>
      rw [afterWhole_cons] at h
      rw [Skip.afterWhole_cons]
      refine ite_extend h (fun _ h => ?_) fun _ h => ?_
      · obtain ⟨digit, passes⟩ := fraction_passes h
        rw [if_pos digit, passes]
      · rw [Skip.maybeExponent_cons]
        refine ite_extend h (fun _ h => exponent_passes h) fun _ h => ?_
        cases h
        rfl

theorem afterLong_passes {negative : Bool} {significand : Nat} {scale : Int} {text rest : List Char}
    {n : Number} (h : afterLong negative significand scale text = .ok (n, rest)) :
    Skip.afterWhole text = .ok rest := by
  cases text with
  | nil => exact @maybeExponent_passes negative significand scale [] rest n h
  | cons c text =>
      rw [afterLong_cons] at h
      rw [Skip.afterWhole_cons]
      refine ite_extend h (fun _ h => ?_) fun _ h => maybeExponent_passes h
      obtain ⟨digit, passes⟩ := fraction_passes h
      rw [if_pos digit, passes]

/-- A number that is read is one that is passed over. -/
theorem read_passes {negative : Bool} {text rest : List Char} {n : Number}
    (h : read negative text = .ok (n, rest)) : Skip.number text = .ok rest := by
  cases text with
  | nil => cases h
  | cons c text =>
      rw [read] at h
      rw [Skip.number]
      refine ite_extend h (fun _ h => ?_) fun _ h =>
        ite_extend h (fun digit h => ?_) fun _ h => by cases h
      · exact ite_extend h (fun _ h => by cases h) fun _ h => afterWhole_passes h
      · obtain ⟨size, taken, left, gathered⟩ :
            ∃ size taken left, gather significandLimit 0 0 (c :: text) = (size, taken, left) :=
          ⟨_, _, _, rfl⟩
        have skipped := skipDigits_gather gathered
        rw [skipDigits, skipDigits,
          List.dropWhile_cons_of_pos digit, ← skipDigits, ← skipDigits] at skipped
        simp only [gathered] at h
        rw [← skipped]
        split at h
        · exact afterLong_passes h
        · rename_i ended
          rw [skipDigits_of_ended (by simpa using ended)]
          exact afterWhole_passes h

end Number

namespace Skip

theorem maybeExponent_of_isExponent {text rest : List Char} (h : IsExponent text)
    (ends : Ends rest) :
    maybeExponent (text ++ rest) = .ok rest := by
  rcases h with rfl | ⟨letter, sign, digits, one, signed, is, rfl⟩
  · exact maybeExponent_of_ends ends
  · have digit := startsWithDigit_of_isDigits is rest
    have skipped := Number.skipDigits_append is.2 (startsWithDigit_of_ends ends)
    rw [List.cons_append, maybeExponent_cons, if_pos one, List.append_assoc]
    rcases signed with rfl | rfl | rfl
    · rw [List.nil_append, exponent_of_digit digit, skipped]
    · rw [List.singleton_append, exponent_of_sign (.inl rfl), if_pos digit, skipped]
    · rw [List.singleton_append, exponent_of_sign (.inr rfl), if_pos digit, skipped]

theorem startsWithDigit_of_isExponent {text rest : List Char} (h : IsExponent text)
    (ends : Ends rest) :
    startsWithDigit (text ++ rest) = false := by
  rcases h with rfl | ⟨letter, sign, digits, rfl | rfl, -, -, rfl⟩
  · exact startsWithDigit_of_ends ends
  · rfl
  · rfl

theorem afterWhole_of_isFraction {fraction exponent rest : List Char} (hf : IsFraction fraction)
    (he : IsExponent exponent) (ends : Ends rest) :
    afterWhole (fraction ++ (exponent ++ rest)) = .ok rest := by
  rcases hf with rfl | ⟨digits, is, rfl⟩
  · rw [List.nil_append]
    rcases he with rfl | ⟨letter, sign, digits, one, signed, is, rfl⟩
    · exact afterWhole_of_ends ends
    · have other : letter ≠ '.' := by
        rcases one with rfl | rfl <;> decide
      have passes :=
        maybeExponent_of_isExponent (.inr ⟨letter, sign, digits, one, signed, is, rfl⟩) ends
      rw [List.cons_append] at passes ⊢
      rw [afterWhole_cons, if_neg other, passes]
  · have ended := startsWithDigit_of_isExponent he ends
    rw [List.cons_append, afterWhole_cons, if_pos rfl, if_pos (startsWithDigit_of_isDigits is _),
      Number.skipDigits_append is.2 ended]
    exact maybeExponent_of_isExponent he ends

theorem number_of_canonical {whole fraction exponent rest : List Char} (h : Canonical whole)
    (hf : IsFraction fraction) (he : IsExponent exponent) (ends : Ends rest) :
    number (whole ++ (fraction ++ (exponent ++ rest))) = .ok rest := by
  have passes := afterWhole_of_isFraction hf he ends
  have ended : startsWithDigit (fraction ++ (exponent ++ rest)) = false := by
    rcases hf with rfl | ⟨digits, -, rfl⟩
    · rw [List.nil_append]
      exact startsWithDigit_of_isExponent he ends
    · rfl
  cases whole with
  | nil => exact absurd rfl h.ne_nil
  | cons c digits =>
      rw [List.cons_append, number]
      by_cases zero : c = '0'
      · subst zero
        cases h.head digits rfl
        rw [if_pos rfl, List.nil_append, ended]
        exact passes
      · have digits_only := fun d mem => h.isDigit d (List.mem_cons_of_mem c mem)
        rw [if_neg zero, if_pos (h.isDigit c List.mem_cons_self),
          Number.skipDigits_append digits_only ended]
        exact passes

end Skip

/-- Behind the sign of a number, if it has one, stands what is passed over. -/
theorem IsNumber.passes {text : List Char} (h : IsNumber text) :
    ∃ negative c digits, text = signText negative ++ c :: digits ∧ isDigit c = true ∧
      ∀ rest, Ends rest → Skip.number (c :: (digits ++ rest)) = .ok rest := by
  obtain ⟨negative, whole, fraction, exponent, rfl, canonical, hf, he⟩ := h
  cases whole with
  | nil => exact absurd rfl canonical.ne_nil
  | cons c digits =>
      refine ⟨negative, c, digits ++ (fraction ++ exponent), by simp,
        canonical.isDigit c List.mem_cons_self, ?_⟩
      intro rest ends
      have passes := Skip.number_of_canonical canonical hf he ends
      simpa using passes

end FaceAnnotator.Json
