import FaceAnnotator.Proofs.Json.Answer
import FaceAnnotator.Proofs.Numeric.Magnitude
/-!
# FaceAnnotator.Proofs.Json.Number

**Reading what is spelled with decimal digits.**

A run of digits is *canonical* if it does not begin with an idle zero; the digits of every natural
number are, and they read back as the number (`value_digitsOf`). A number is read by its whole
digits, its fraction and its exponent, and each part leaves to the next one what comes behind. How
far the digits of a fraction count is of no importance here, only that it does not depend on what
comes behind them.
-/

namespace FaceAnnotator

open Numeric

namespace Json

theorem startsWithDigit_of_ends {rest : List Char} (h : Ends rest) :
    startsWithDigit rest = false := by
  cases rest with
  | nil => rfl
  | cons c rest =>
      simp only [Ends, continues, Bool.or_eq_false_iff] at h
      exact h.1.1.1

theorem digitValue_le {c : Char} (h : isDigit c = true) : digitValue c ≤ 9 := by
  have top : c ≤ '9' := by simpa using (Bool.and_eq_true_iff.1 h).2
  have le : c.toNat ≤ 57 := top
  unfold digitValue
  omega

/-- One digit more. -/
theorem ofDigitChars_cons (c : Char) (digits : List Char) (value : Nat) :
    Nat.ofDigitChars 10 (c :: digits) value =
      Nat.ofDigitChars 10 digits (value * 10 + digitValue c) := by
  rw [Nat.ofDigitChars_cons, Nat.mul_comm]
  rfl

theorem le_ofDigitChars (value : Nat) (digits : List Char) :
    value ≤ Nat.ofDigitChars 10 digits value := by
  induction digits generalizing value with
  | nil => simp
  | cons c digits ih =>
      have later := ih (value * 10 + digitValue c)
      rw [ofDigitChars_cons]
      omega

theorem ofDigitChars_lt {digits : List Char} (h : ∀ c ∈ digits, isDigit c = true) (value : Nat) :
    Nat.ofDigitChars 10 digits value < 10 ^ digits.length * (value + 1) := by
  induction digits generalizing value with
  | nil => simp
  | cons c digits ih =>
      have digit := digitValue_le (h c List.mem_cons_self)
      have later := ih (fun d mem => h d (List.mem_cons_of_mem c mem)) (value * 10 + digitValue c)
      have step : 10 ^ digits.length * (value * 10 + digitValue c + 1) ≤
          10 ^ digits.length * (10 * (value + 1)) := Nat.mul_le_mul_left _ (by omega)
      rw [ofDigitChars_cons, List.length_cons, Nat.pow_succ, Nat.mul_assoc]
      omega

/-- Digits that do not begin with an idle zero. -/
structure Canonical (digits : List Char) : Prop where
  ne_nil : digits ≠ []
  isDigit : ∀ c ∈ digits, isDigit c = true
  head : ∀ more, digits = '0' :: more → more = []

theorem head_digitsOf {n : Nat} (h : 0 < n) : ∀ more, digitsOf n ≠ '0' :: more := by
  unfold digitsOf
  induction n using Nat.base_induction 10 (by decide) with
  | single n small =>
      intro more eq
      rw [Nat.toDigits_of_lt_base small] at eq
      have zero := Nat.digitChar_eq_zero.1 (List.cons.inj eq).1
      omega
  | digit n d small pos ih =>
      intro more eq
      rw [← Nat.toDigits_append_toDigits (by decide) pos small] at eq
      cases first : Nat.toDigits 10 n with
      | nil => exact Nat.toDigits_ne_nil first
      | cons c more =>
          rw [first] at eq
          exact ih pos more (by rw [first, (List.cons.inj eq).1])

theorem canonical_digitsOf (n : Nat) : Canonical (digitsOf n) where
  ne_nil := Nat.toDigits_ne_nil
  isDigit := fun c mem => Nat.isDigit_of_mem_toDigits (by decide) (by decide) mem
  head := by
    intro more eq
    cases n with
    | zero => cases eq; rfl
    | succ n => exact absurd eq (head_digitsOf (Nat.succ_pos n) more)

/-- The digits of a number spell it. -/
theorem value_digitsOf (n : Nat) : Nat.ofDigitChars 10 (digitsOf n) 0 = n :=
  Nat.ofDigitChars_ten_toDigits

/-! ### Whole numbers -/

namespace Number

/-- Where there is no digit, none is gathered. -/
theorem gather_of_ended {rest : List Char} (h : startsWithDigit rest = false)
    (limit value count : Nat) :
    gather limit value count rest = (value, count, rest) := by
  cases rest with
  | nil => rw [gather]
  | cons c rest =>
      have other : isDigit c = false := h
      simp [gather, other]

/-- Digits that fit are all gathered. -/
theorem gather_of_lt {limit value : Nat} {digits rest : List Char} (count : Nat)
    (h : ∀ c ∈ digits, isDigit c = true) (fits : Nat.ofDigitChars 10 digits value < limit)
    (ended : startsWithDigit rest = false) :
    gather limit value count (digits ++ rest) =
      (Nat.ofDigitChars 10 digits value, count + digits.length, rest) := by
  induction digits generalizing value count with
  | nil => exact gather_of_ended ended limit value count
  | cons c digits ih =>
      rw [ofDigitChars_cons] at fits ⊢
      have digit := h c List.mem_cons_self
      have room : value * 10 + digitValue c < limit := Nat.lt_of_le_of_lt (le_ofDigitChars _ _) fits
      rw [List.cons_append, gather, if_pos (by simp [digit, room]),
        ih (count + 1) (fun d mem => h d (List.mem_cons_of_mem c mem)) fits]
      simp only [List.length_cons]
      congr 2
      omega

/-- Canonical digits that fit the significand are read as the number that they spell. -/
theorem read_of_canonical {digits rest : List Char} (negative : Bool) (h : Canonical digits)
    (fits : Nat.ofDigitChars 10 digits 0 < significandLimit)
    (ended : startsWithDigit rest = false) :
    read negative (digits ++ rest) = afterWhole negative (Nat.ofDigitChars 10 digits 0) rest := by
  cases digits with
  | nil => exact absurd rfl h.ne_nil
  | cons c digits =>
      by_cases zero : c = '0'
      · subst zero
        cases h.head digits rfl
        simp [read, ended, ofDigitChars_cons, digitValue]
      · have digit := h.isDigit c List.mem_cons_self
        have all := gather_of_lt 0 h.isDigit fits ended
        rw [List.cons_append] at all ⊢
        simp [read, zero, digit, all, ended]

/-- Behind whole digits an integer ends where nothing continues it. -/
theorem afterWhole_of_ends {rest : List Char} (h : Ends rest) (negative : Bool)
    (significand : Nat) :
    afterWhole negative significand rest = .ok (ofInteger negative significand, rest) := by
  unfold afterWhole
  split
  · cases h
  · cases h
  · cases h
  · rfl

end Number

theorem isSpace_of_isDigit {c : Char} (h : isDigit c = true) : isSpace c = false := by
  rw [Bool.eq_false_iff]
  intro space
  simp only [isSpace, Bool.or_eq_true, decide_eq_true_eq] at space
  rcases space with ((rfl | rfl) | rfl) | rfl <;> exact absurd h (by decide)

/-- A number without a sign is read from its first digit on. -/
theorem number_of_canonical {digits : List Char} (h : Canonical digits) (expected : String)
    (rest : List Char) : number expected (digits ++ rest) = Number.read false (digits ++ rest) := by
  cases digits with
  | nil => exact absurd rfl h.ne_nil
  | cons c digits =>
      have digit := h.isDigit c List.mem_cons_self
      have sign : c ≠ '-' := by
        rintro rfl
        exact absurd digit (by decide)
      simp [number, skipSpace_cons (isSpace_of_isDigit digit), sign, digit]

theorem number_minus (expected : String) (rest : List Char) :
    number expected ('-' :: rest) = Number.read true rest := by
  simp [number, skipSpace_cons (show isSpace '-' = false by decide)]

/-- A printed integer reads back if it is in the range that is asked for. -/
theorem answers_integer {n least greatest : Int} (expected : String) (above : least ≤ n)
    (below : n ≤ greatest) (low : -9223372036854775808 ≤ n) (high : n < 18446744073709551616) :
    Answers (integer expected least greatest) (integerText n) (some n) := by
  intro rest ends
  have canonical := canonical_digitsOf n.natAbs
  have value : Nat.ofDigitChars 10 (digitsOf n.natAbs) 0 = n.natAbs := value_digitsOf _
  have fits : Nat.ofDigitChars 10 (digitsOf n.natAbs) 0 < Number.significandLimit := by
    rw [value, Number.significandLimit]
    omega
  have readDigits := fun negative =>
    Number.read_of_canonical negative canonical fits (startsWithDigit_of_ends ends)
  rw [value] at readDigits
  unfold integerText
  split
  · rename_i negative
    have size_le : 0 < n.natAbs ∧ n.natAbs ≤ Number.significandLimit / 2 := by
      unfold Number.significandLimit
      omega
    have back : -(n.natAbs : Int) = n := by omega
    generalize n.natAbs = size at readDigits size_le back ⊢
    subst back
    simp [integer, number_minus, readDigits, Number.afterWhole_of_ends ends, Number.ofInteger,
      size_le, above]
  · rename_i positive
    have back : (n.natAbs : Int) = n := by omega
    generalize n.natAbs = size at canonical readDigits back ⊢
    subst back
    simp [integer, number_of_canonical canonical, readDigits, Number.afterWhole_of_ends ends,
      Number.ofInteger, below]

/-! ### Fractions and exponents -/

/-- A reader reads something from a text, and the same whatever comes behind. -/
def Steady {α : Type} (r : Reader α) (text : List Char) : Prop := ∃ x, Answers r text (some x)

namespace Number

/-- A significand is scaled without trouble unless its exponent is great. -/
theorem scaled_isSome {significand : Nat} {exponent : Int} (small : significand < significandLimit)
    (low : exponent ≤ 200) : ∃ x, scaled significand exponent = some x := by
  unfold scaled
  split
  · exact ⟨_, rfl⟩
  rw [if_pos (by unfold stepExponent; omega)]
  -- The power is far below the greatest word, even with the significand before it.
  have power : Nat.pow 10 exponent.toNat < 2 ^ (4 * exponent.toNat + 1) := by
    calc 10 ^ exponent.toNat ≤ 16 ^ exponent.toNat := Nat.pow_le_pow_left (by decide) _
      _ = 2 ^ (4 * exponent.toNat) := by rw [Nat.pow_mul]
      _ < 2 ^ (4 * exponent.toNat + 1) := Nat.pow_lt_pow_right (by decide) (by omega)
  have finite := Binary.isFinite_mul_ofNat (show significand < 2 ^ 64 from small) power (by omega)
  exact ⟨_, if_pos finite⟩

theorem answers_ofParts {significand : Nat} {exponent : Int} (negative : Bool)
    (small : significand < significandLimit) (low : exponent ≤ 200) :
    ∃ x, ∀ rest, ofParts negative significand exponent rest = .ok (x, rest) := by
  obtain ⟨x, eq⟩ := scaled_isSome small low
  exact ⟨signed negative x, fun rest => by rw [ofParts, eq]⟩

/-- The text of an exponent. -/
def exponentText (exponent : Int) : List Char :=
  'e' :: (if exponent < 0 then '-' else '+') :: digitsOf exponent.natAbs

theorem steady_exponentDigits {significand : Nat} {scale : Int} (negative downwards : Bool)
    {n : Nat} (small : significand < significandLimit) (low : scale ≤ 0) (near : n ≤ 200) :
    Steady (exponentDigits negative significand scale downwards) (digitsOf n) := by
  have canonical := canonical_digitsOf n
  have value : Nat.ofDigitChars 10 (digitsOf n) 0 = n := value_digitsOf n
  obtain ⟨x, parts⟩ := @answers_ofParts significand (if downwards then scale - n else scale + n)
    negative small (by split <;> omega)
  refine ⟨x, fun rest ends => ?_⟩
  have ended := startsWithDigit_of_ends ends
  have fits : Nat.ofDigitChars 10 (digitsOf n) 0 < exponentLimit := by
    rw [value, exponentLimit]
    omega
  have all := gather_of_lt 0 canonical.isDigit fits ended
  rw [value] at all
  cases digits : digitsOf n with
  | nil => exact absurd digits canonical.ne_nil
  | cons c more =>
      rw [digits] at all
      have digit := canonical.isDigit c (digits ▸ List.mem_cons_self)
      rw [List.cons_append] at all ⊢
      simp only [exponentDigits, digit, if_true, all, ended, Bool.false_eq_true, if_false]
      exact parts rest

theorem steady_exponent {significand : Nat} {scale exponent : Int} (negative : Bool)
    (small : significand < significandLimit) (low : scale ≤ 0) (near : exponent.natAbs ≤ 200) :
    Steady (Number.exponent negative significand scale)
      ((if exponent < 0 then '-' else '+') :: digitsOf exponent.natAbs) := by
  split
  · exact steady_exponentDigits negative true small low near
  · exact steady_exponentDigits negative false small low near

/-- What may stand behind the digits of a fraction. -/
def IsTail (text : List Char) : Prop := text = [] ∨ ∃ exponent : Int, exponent.natAbs ≤ 200 ∧
  text = exponentText exponent

theorem steady_maybeExponent {significand : Nat} {scale : Int} (negative : Bool) {tail : List Char}
    (small : significand < significandLimit) (low : scale ≤ 0) (h : IsTail tail) :
    Steady (maybeExponent negative significand scale) tail := by
  rcases h with rfl | ⟨exponent, near, rfl⟩
  · obtain ⟨x, parts⟩ := answers_ofParts negative small (show scale ≤ 200 by omega)
    refine ⟨x, fun rest ends => ?_⟩
    rw [List.nil_append, answered_some, ← parts rest]
    unfold maybeExponent
    split
    · cases ends
    · cases ends
    · rfl
  · exact steady_exponent negative small low near

/-- Of any digits so many are gathered, whatever comes behind. -/
theorem gather_digits {limit value : Nat} {digits : List Char} (count : Nat)
    (h : ∀ c ∈ digits, isDigit c = true) (below : value < limit) :
    ∃ gathered more left, gathered < limit ∧ (∀ c ∈ left, isDigit c = true) ∧
      more + left.length = count + digits.length ∧
      ∀ rest, startsWithDigit rest = false →
        gather limit value count (digits ++ rest) = (gathered, more, left ++ rest) := by
  induction digits generalizing value count with
  | nil =>
      refine ⟨value, count, [], below, by simp, rfl, fun rest ended => ?_⟩
      exact gather_of_ended ended limit value count
  | cons c digits ih =>
      have digit := h c List.mem_cons_self
      by_cases room : value * 10 + digitValue c < limit
      · obtain ⟨gathered, more, left, below, all, length, gathers⟩ :=
          ih (count + 1) (fun d mem => h d (List.mem_cons_of_mem c mem)) room
        refine ⟨gathered, more, left, below, all, by simp only [List.length_cons]; omega, ?_⟩
        intro rest ended
        rw [List.cons_append, gather, if_pos (by simp [digit, room])]
        exact gathers rest ended
      · refine ⟨value, count, c :: digits, below, h, rfl, fun rest _ => ?_⟩
        rw [List.cons_append, gather, if_neg (by simp [room])]

theorem skipDigits_append {digits rest : List Char} (h : ∀ c ∈ digits, isDigit c = true)
    (ended : startsWithDigit rest = false) : skipDigits (digits ++ rest) = rest := by
  rw [skipDigits, List.dropWhile_append_of_pos h]
  cases rest with
  | nil => rfl
  | cons c rest =>
      have other : isDigit c = false := ended
      simp [other]

theorem startsWithDigit_tail {tail rest : List Char} (h : IsTail tail) (ends : Ends rest) :
    startsWithDigit (tail ++ rest) = false := by
  rcases h with rfl | ⟨exponent, -, rfl⟩
  · exact startsWithDigit_of_ends ends
  · rfl

theorem steady_fraction {significand : Nat} {digits tail : List Char} (negative : Bool)
    (small : significand < significandLimit) (h : ∀ c ∈ digits, isDigit c = true)
    (nonempty : digits ≠ []) (ht : IsTail tail) :
    Steady (fraction negative significand 0) (digits ++ tail) := by
  obtain ⟨gathered, count, left, below, all, length, gathers⟩ := gather_digits 0 h small
  obtain ⟨x, reads⟩ := @steady_maybeExponent gathered (0 - count) negative tail below (by omega) ht
  refine ⟨x, fun rest ends => ?_⟩
  have ended := startsWithDigit_tail ht ends
  have skips := skipDigits_append all ended
  rw [List.append_assoc]
  simp only [fraction, gathers _ ended]
  -- Digits that were not gathered are skipped. If there are none, at least one was gathered.
  cases left with
  | nil =>
      have some_read : count ≠ 0 := by
        have := List.length_pos_iff.2 nonempty
        simp only [List.length_nil] at length
        omega
      rw [List.nil_append, if_neg (by simp [ended]), if_neg some_read]
      exact reads rest ends
  | cons c left =>
      have digit : startsWithDigit (c :: left ++ (tail ++ rest)) = true := all c List.mem_cons_self
      rw [if_pos digit, skips]
      exact reads rest ends

/-- The text of a number that is spelled with a point or an exponent. -/
structure IsNumeral (text whole behind : List Char) : Prop where
  eq : text = whole ++ behind
  canonical : Canonical whole
  short : whole.length ≤ 19
  goes_on : (∃ digits tail, behind = '.' :: (digits ++ tail) ∧ digits ≠ [] ∧
    (∀ c ∈ digits, isDigit c = true) ∧ IsTail tail) ∨
      ∃ exponent : Int, exponent.natAbs ≤ 200 ∧ behind = exponentText exponent

theorem steady_read {text whole behind : List Char} (negative : Bool)
    (h : IsNumeral text whole behind) : Steady (read negative) text := by
  have fits : Nat.ofDigitChars 10 whole 0 < significandLimit := by
    have bound := ofDigitChars_lt h.canonical.isDigit 0
    have power : 10 ^ whole.length ≤ 10 ^ 19 := Nat.pow_le_pow_right (by decide) h.short
    rw [significandLimit]
    omega
  obtain ⟨eq, canonical, -, ⟨digits, tail, rfl, nonempty, all, ht⟩ | ⟨exponent, near, rfl⟩⟩ := h
  · obtain ⟨x, reads⟩ := steady_fraction negative fits all nonempty ht
    refine ⟨x, fun rest ends => ?_⟩
    rw [eq, List.append_assoc, read_of_canonical negative canonical fits rfl]
    exact reads rest ends
  · obtain ⟨x, reads⟩ := @steady_exponent _ 0 exponent negative fits (Int.le_refl 0) near
    refine ⟨x, fun rest ends => ?_⟩
    rw [eq, List.append_assoc, read_of_canonical negative canonical fits rfl]
    exact reads rest ends

end Number

end Json

end FaceAnnotator
