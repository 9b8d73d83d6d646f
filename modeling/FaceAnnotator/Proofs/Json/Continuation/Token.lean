import FaceAnnotator.Proofs.Json.Number
/-!
# FaceAnnotator.Proofs.Json.Continuation.Token

**What was read stays read, whatever comes behind it.**

A reader that succeeds on a text succeeds on every longer one, with the same outcome, and leaves the
longer rest. Only where the text ends in a number must what comes behind not continue it (`Parted`).
So a text on which a reader succeeds is no beginning of one that it refuses, nor of one of which it
would leave less.
-/

namespace FaceAnnotator.Json

/-- What comes behind a rest does not continue a number that ends there. -/
def Parted (rest more : List Char) : Prop := rest = [] → Ends more

/-- Two choices on one condition are compared branch by branch. -/
theorem ite_extend {α β : Type} {c : Prop} [Decidable c] {x y : Except Fault α}
    {x' y' : Except Fault β} {a : α} {b : β} (h : (if c then x else y) = .ok a)
    (yes : c → x = .ok a → x' = .ok b) (no : ¬c → y = .ok a → y' = .ok b) :
    (if c then x' else y') = .ok b := by
  split at h
  · rename_i holds
    rw [if_pos holds]
    exact yes holds h
  · rename_i fails
    rw [if_neg fails]
    exact no fails h

theorem startsWithDigit_extend {rest more : List Char} (h : Parted rest more) :
    startsWithDigit (rest ++ more) = startsWithDigit rest := by
  cases rest with
  | nil => exact startsWithDigit_of_ends (h rfl)
  | cons c rest => rfl

theorem skipSpace_extend {text rest : List Char} {c : Char} (h : skipSpace text = c :: rest)
    (more : List Char) : skipSpace (text ++ more) = c :: (rest ++ more) := by
  rw [skipSpace, List.dropWhile_append, ← skipSpace, h]
  rfl

theorem word_extend {letters text rest : List Char} (h : word letters text = .ok rest)
    (more : List Char) : word letters (text ++ more) = .ok (rest ++ more) := by
  induction letters generalizing text with
  | nil =>
      cases h
      rfl
  | cons letter letters ih =>
      cases text with
      | nil => cases h
      | cons c text =>
          rw [word] at h
          rw [List.cons_append, word]
          exact ite_extend h (fun _ h => ih h) fun _ h => by cases h

namespace Literal

theorem hexEscape_extend {text rest : List Char} {n : Nat} (h : hexEscape text = .ok (n, rest))
    (more : List Char) : hexEscape (text ++ more) = .ok (n, rest ++ more) := by
  unfold hexEscape at h
  dsimp only at h
  split at h
  · split at h
    · rename_i a b c d ha hb hc hd
      cases h
      simp [hexEscape, ha, hb, hc, hd]
    · cases h
  · cases h

theorem lowSurrogate_extend {high : Nat} {text rest : List Char} {c : Char}
    (h : lowSurrogate high text = .ok (c, rest)) (more : List Char) :
    lowSurrogate high (text ++ more) = .ok (c, rest ++ more) := by
  unfold lowSurrogate at h
  split at h
  · split at h
    · cases h
    · rename_i low after digits
      split at h
      · rename_i second
        simp only [Except.ok.injEq, Prod.mk.injEq] at h
        obtain ⟨rfl, rfl⟩ := h
        simp only [List.cons_append, lowSurrogate, hexEscape_extend digits more, if_pos second]
      · cases h
  all_goals cases h

theorem unicodeEscape_extend {text rest : List Char} {c : Char}
    (h : unicodeEscape text = .ok (c, rest)) (more : List Char) :
    unicodeEscape (text ++ more) = .ok (c, rest ++ more) := by
  unfold unicodeEscape at h
  split at h
  · cases h
  · rename_i n after digits
    have digits := hexEscape_extend digits more
    split at h
    · cases h
    rename_i first
    split at h
    · rename_i high
      simp [unicodeEscape, digits, first, high, lowSurrogate_extend h more]
    · rename_i plain
      cases h
      simp [unicodeEscape, digits, first, plain]

theorem escape_extend {text rest : List Char} {c : Char} (h : escape text = .ok (c, rest))
    (more : List Char) : escape (text ++ more) = .ok (c, rest ++ more) := by
  unfold escape at h
  split at h
  · cases h
  · split at h
    · rename_i short
      cases h
      simp [escape, short]
    · rename_i long
      split at h
      · rename_i number
        subst number
        simp only [List.cons_append, escape, long, if_true, unicodeEscape_extend h more]
      · cases h

theorem readWithin_extend {fuel : Nat} {done text s rest : List Char}
    (h : readWithin fuel done text = .ok (s, rest)) {enough : Nat} (le : fuel ≤ enough)
    (more : List Char) : readWithin enough done (text ++ more) = .ok (s, rest ++ more) := by
  induction fuel generalizing enough done text with
  | zero => cases h
  | succ fuel ih =>
      obtain ⟨enough, rfl⟩ := Nat.exists_eq_add_one.2 (Nat.zero_lt_of_lt le)
      have le := Nat.le_of_succ_le_succ le
      cases text with
      | nil => cases h
      | cons c text =>
          rw [readWithin] at h
          rw [List.cons_append, readWithin]
          refine ite_extend h (fun _ h => by cases h; rfl) fun _ h => ?_
          refine ite_extend h (fun _ h => ?_) fun _ h => ?_
          · split at h
            · cases h
            · rename_i escaped
              rw [escape_extend escaped more]
              exact ih h le
          · exact ite_extend h (fun _ h => by cases h) fun _ h => ih h le

theorem read_extend {text s rest : List Char} (h : read text = .ok (s, rest)) (more : List Char) :
    read (text ++ more) = .ok (s, rest ++ more) :=
  readWithin_extend h (by simp) more

theorem skipEscape_extend {text rest : List Char} (h : skipEscape text = .ok rest)
    (more : List Char) : skipEscape (text ++ more) = .ok (rest ++ more) := by
  unfold skipEscape at h
  split at h
  · cases h
  · split at h
    · rename_i short
      cases h
      simp [skipEscape, short]
    · rename_i c text long
      split at h
      · rename_i number
        cases digits : hexEscape text with
        | error fault =>
            rw [digits] at h
            cases h
        | ok found =>
            rw [digits] at h
            cases h
            rw [List.cons_append, skipEscape, if_neg long, if_pos number,
              hexEscape_extend digits more]
            rfl
      · cases h

theorem skipWithin_extend {fuel : Nat} {text rest : List Char} (h : skipWithin fuel text = .ok rest)
    {enough : Nat} (le : fuel ≤ enough) (more : List Char) :
    skipWithin enough (text ++ more) = .ok (rest ++ more) := by
  induction fuel generalizing enough text with
  | zero => cases h
  | succ fuel ih =>
      obtain ⟨enough, rfl⟩ := Nat.exists_eq_add_one.2 (Nat.zero_lt_of_lt le)
      have le := Nat.le_of_succ_le_succ le
      cases text with
      | nil => cases h
      | cons c text =>
          rw [skipWithin] at h
          rw [List.cons_append, skipWithin]
          refine ite_extend h (fun _ h => by cases h; rfl) fun _ h => ?_
          refine ite_extend h (fun _ h => ?_) fun _ h => ?_
          · split at h
            · cases h
            · rename_i escaped
              rw [skipEscape_extend escaped more]
              exact ih h le
          · exact ite_extend h (fun _ h => by cases h) fun _ h => ih h le

theorem skip_extend {text rest : List Char} (h : skip text = .ok rest) (more : List Char) :
    skip (text ++ more) = .ok (rest ++ more) :=
  skipWithin_extend h (by simp) more

end Literal

/-! ### Numbers -/

theorem skipDigits_extend {text rest more : List Char} (h : skipDigits text = rest)
    (parted : Parted rest more) : skipDigits (text ++ more) = rest ++ more := by
  rw [skipDigits, List.dropWhile_append, ← skipDigits, h]
  cases rest with
  | cons c rest => rfl
  | nil =>
      have ended := startsWithDigit_of_ends (parted rfl)
      exact @Number.skipDigits_append [] more (by simp) ended

namespace Number

theorem gather_extend {limit value count size taken : Nat} {text rest more : List Char}
    (h : gather limit value count text = (size, taken, rest)) (parted : Parted rest more) :
    gather limit value count (text ++ more) = (size, taken, rest ++ more) := by
  induction text generalizing value count with
  | nil =>
      cases h
      exact gather_of_ended (startsWithDigit_of_ends (parted rfl)) _ _ _
  | cons c text ih =>
      rw [gather] at h
      rw [List.cons_append, gather]
      split at h
      · rename_i digit
        rw [if_pos digit]
        exact ih h
      · rename_i other
        cases h
        rw [if_neg other]
        rfl

theorem ofParts_extend {negative : Bool} {significand : Nat} {scale : Int} {text rest : List Char}
    {n : Number} (h : ofParts negative significand scale text = .ok (n, rest)) (more : List Char) :
    rest = text ∧ ofParts negative significand scale (text ++ more) = .ok (n, rest ++ more) := by
  unfold ofParts at h ⊢
  split at h
  · rename_i x fits
    cases h
    exact ⟨rfl, rfl⟩
  · cases h

theorem exponentDigits_extend {negative downwards : Bool} {significand : Nat} {scale : Int}
    {text rest more : List Char} {n : Number}
    (h : exponentDigits negative significand scale downwards text = .ok (n, rest))
    (parted : Parted rest more) :
    exponentDigits negative significand scale downwards (text ++ more) = .ok (n, rest ++ more) := by
  cases text with
  | nil => cases h
  | cons c text =>
      rw [exponentDigits] at h
      split at h
      · rename_i digit
        obtain ⟨size, taken, left, gathered⟩ :
            ∃ size taken left, gather exponentLimit 0 0 (c :: text) = (size, taken, left) :=
          ⟨_, _, _, rfl⟩
        simp only [gathered] at h
        rw [List.cons_append, exponentDigits, if_pos digit, ← List.cons_append]
        split at h
        · rename_i goes_on
          have left_parted : Parted left more := by
            rintro rfl
            cases goes_on
          simp only [gather_extend gathered left_parted, startsWithDigit_extend left_parted,
            goes_on, if_true]
          split at h
          · cases h
          · rename_i small
            obtain ⟨rfl, skipped⟩ := Prod.mk.inj (Except.ok.inj h)
            rw [if_neg small, skipDigits_extend skipped parted]
        · rename_i ended
          obtain ⟨rfl, reads⟩ := ofParts_extend h more
          simp only [gather_extend gathered parted, startsWithDigit_extend parted, if_neg ended,
            reads]
      · cases h

theorem exponent_extend {negative : Bool} {significand : Nat} {scale : Int}
    {text rest more : List Char} {n : Number}
    (h : exponent negative significand scale text = .ok (n, rest)) (parted : Parted rest more) :
    exponent negative significand scale (text ++ more) = .ok (n, rest ++ more) := by
  unfold exponent at h
  split at h
  · exact exponentDigits_extend h parted
  · exact exponentDigits_extend h parted
  · rename_i plus minus
    cases text with
    | nil => cases h
    | cons c text =>
        rw [List.cons_append, exponent]
        · exact exponentDigits_extend h parted
        · rintro rest eq
          cases eq
          exact plus text rfl
        · rintro rest eq
          cases eq
          exact minus text rfl

/-- An exponent begins with its letter. -/
theorem maybeExponent_cons (negative : Bool) (significand : Nat) (scale : Int) (c : Char)
    (rest : List Char) :
    maybeExponent negative significand scale (c :: rest) =
      if c = 'e' ∨ c = 'E' then exponent negative significand scale rest
      else ofParts negative significand scale (c :: rest) := by
  unfold maybeExponent
  split
  · rename_i eq
    cases eq
    rfl
  · rename_i eq
    cases eq
    rfl
  · rename_i lower upper
    rw [if_neg]
    rintro (rfl | rfl)
    · exact lower rest rfl
    · exact upper rest rfl

theorem maybeExponent_of_ends {rest : List Char} (h : Ends rest) (negative : Bool)
    (significand : Nat) (scale : Int) :
    maybeExponent negative significand scale rest = ofParts negative significand scale rest := by
  cases rest with
  | nil => rfl
  | cons c rest =>
      rw [maybeExponent_cons, if_neg]
      rintro (rfl | rfl) <;> cases h

theorem maybeExponent_extend {negative : Bool} {significand : Nat} {scale : Int}
    {text rest more : List Char} {n : Number}
    (h : maybeExponent negative significand scale text = .ok (n, rest))
    (parted : Parted rest more) :
    maybeExponent negative significand scale (text ++ more) = .ok (n, rest ++ more) := by
  cases text with
  | nil =>
      obtain ⟨rfl, reads⟩ := ofParts_extend h more
      rw [← reads]
      exact maybeExponent_of_ends (parted rfl) negative significand scale
  | cons c text =>
      rw [maybeExponent_cons] at h
      rw [List.cons_append, maybeExponent_cons]
      exact ite_extend h (fun _ h => exponent_extend h parted) fun _ h => (ofParts_extend h more).2

/-- Where nothing is left, an exponent leaves nothing. -/
theorem maybeExponent_parted {negative : Bool} {significand : Nat} {scale : Int}
    {text rest more : List Char} {n : Number}
    (h : maybeExponent negative significand scale text = .ok (n, rest))
    (parted : Parted rest more) :
    Parted text more := by
  rintro rfl
  exact parted (ofParts_extend h []).1

theorem fraction_extend {negative : Bool} {significand : Nat} {scale : Int}
    {text rest more : List Char} {n : Number}
    (h : fraction negative significand scale text = .ok (n, rest)) (parted : Parted rest more) :
    fraction negative significand scale (text ++ more) = .ok (n, rest ++ more) := by
  obtain ⟨size, taken, left, gathered⟩ :
      ∃ size taken left, gather significandLimit significand 0 text = (size, taken, left) :=
    ⟨_, _, _, rfl⟩
  simp only [fraction, gathered] at h
  split at h
  · rename_i goes_on
    have left_parted : Parted left more := by
      rintro rfl
      cases goes_on
    have skips := skipDigits_extend rfl (maybeExponent_parted h parted)
    simp only [fraction, gather_extend gathered left_parted, startsWithDigit_extend left_parted,
      if_pos goes_on, skips]
    exact maybeExponent_extend h parted
  · rename_i ended
    split at h
    · cases h
    · rename_i some_read
      have left_parted := maybeExponent_parted h parted
      simp only [fraction, gather_extend gathered left_parted, startsWithDigit_extend left_parted,
        if_neg ended, if_neg some_read]
      exact maybeExponent_extend h parted

/-- Behind whole digits stands a point, an exponent, or what is left to others. -/
theorem afterWhole_cons (negative : Bool) (significand : Nat) (c : Char) (rest : List Char) :
    afterWhole negative significand (c :: rest) =
      if c = '.' then fraction negative significand 0 rest
      else if c = 'e' ∨ c = 'E' then exponent negative significand 0 rest
      else .ok (ofInteger negative significand, c :: rest) := by
  unfold afterWhole
  split
  · rename_i eq
    cases eq
    rfl
  · rename_i eq
    cases eq
    rfl
  · rename_i eq
    cases eq
    rfl
  · rename_i point lower upper
    rw [if_neg (fun eq => point rest (by rw [eq])), if_neg]
    rintro (rfl | rfl)
    · exact lower rest rfl
    · exact upper rest rfl

theorem afterWhole_extend {negative : Bool} {significand : Nat} {text rest more : List Char}
    {n : Number} (h : afterWhole negative significand text = .ok (n, rest))
    (parted : Parted rest more) :
    afterWhole negative significand (text ++ more) = .ok (n, rest ++ more) := by
  cases text with
  | nil =>
      cases h
      exact afterWhole_of_ends (parted rfl) negative significand
  | cons c text =>
      rw [afterWhole_cons] at h
      rw [List.cons_append, afterWhole_cons]
      refine ite_extend h (fun _ h => fraction_extend h parted) fun _ h => ?_
      exact ite_extend h (fun _ h => exponent_extend h parted) fun _ h => by cases h; rfl

theorem afterLong_cons (negative : Bool) (significand : Nat) (scale : Int) (c : Char)
    (rest : List Char) :
    afterLong negative significand scale (c :: rest) =
      if c = '.' then fraction negative significand scale rest
      else maybeExponent negative significand scale (c :: rest) := by
  unfold afterLong
  split
  · rename_i eq
    cases eq
    rfl
  · rename_i point
    rw [if_neg fun eq => point rest (by rw [eq])]

theorem afterLong_parted {negative : Bool} {significand : Nat} {scale : Int}
    {text rest more : List Char} {n : Number}
    (h : afterLong negative significand scale text = .ok (n, rest)) (parted : Parted rest more) :
    Parted text more := by
  rintro rfl
  have h : maybeExponent negative significand scale [] = .ok (n, rest) := h
  exact maybeExponent_parted h parted rfl

theorem afterLong_extend {negative : Bool} {significand : Nat} {scale : Int}
    {text rest more : List Char} {n : Number}
    (h : afterLong negative significand scale text = .ok (n, rest)) (parted : Parted rest more) :
    afterLong negative significand scale (text ++ more) = .ok (n, rest ++ more) := by
  cases text with
  | nil =>
      have h : maybeExponent negative significand scale [] = .ok (n, rest) := h
      have reads := maybeExponent_extend h parted
      cases more with
      | nil => exact reads
      | cons c more =>
          rw [List.nil_append, afterLong_cons, if_neg]
          · exact reads
          · rintro rfl
            cases maybeExponent_parted h parted rfl
  | cons c text =>
      rw [afterLong_cons] at h
      rw [List.cons_append, afterLong_cons]
      exact ite_extend h (fun _ h => fraction_extend h parted) fun _ h =>
        maybeExponent_extend h parted

theorem read_extend {negative : Bool} {text rest more : List Char} {n : Number}
    (h : read negative text = .ok (n, rest)) (parted : Parted rest more) :
    read negative (text ++ more) = .ok (n, rest ++ more) := by
  have whole {significand : Nat} {left : List Char}
      (h : afterWhole negative significand left = .ok (n, rest)) : Parted left more := by
    rintro rfl
    cases h
    exact parted rfl
  cases text with
  | nil => cases h
  | cons c text =>
      rw [read] at h
      rw [List.cons_append, read]
      refine ite_extend h (fun _ h => ?_) fun _ h => ?_
      · split at h
        · cases h
        · rename_i ended
          rw [startsWithDigit_extend (whole h), if_neg ended]
          exact afterWhole_extend h parted
      refine ite_extend h (fun _ h => ?_) fun _ h => by cases h
      obtain ⟨size, taken, left, gathered⟩ :
          ∃ size taken left, gather significandLimit 0 0 (c :: text) = (size, taken, left) :=
        ⟨_, _, _, rfl⟩
      simp only [gathered] at h
      rw [← List.cons_append]
      split at h
      · rename_i goes_on
        have left_parted : Parted left more := by
          rintro rfl
          cases goes_on
        have skips := skipDigits_extend rfl (afterLong_parted h parted)
        simp only [gather_extend gathered left_parted, startsWithDigit_extend left_parted,
          if_pos goes_on, skips, List.length_append, Nat.add_sub_add_right]
        exact afterLong_extend h parted
      · rename_i ended
        simp only [gather_extend gathered (whole h), startsWithDigit_extend (whole h), if_neg ended]
        exact afterWhole_extend h parted

end Number

end FaceAnnotator.Json
