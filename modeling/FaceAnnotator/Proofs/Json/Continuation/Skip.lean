import FaceAnnotator.Json.Skip
import FaceAnnotator.Proofs.Json.Continuation.Token
/-!
# FaceAnnotator.Proofs.Json.Continuation.Skip

**Passing over a value leaves the same, whatever comes behind it.**

The loop has more fuel on the longer text, and fuel that is not needed changes nothing. What is left
inside a list or an object is never empty, so only the outermost value can be one that goes on.
-/

namespace FaceAnnotator.Json

namespace Skip

theorem exponent_of_sign {c : Char} (h : c = '+' ∨ c = '-') (rest : List Char) :
    exponent (c :: rest) =
      if startsWithDigit rest then .ok (skipDigits rest) else .error (.next .badNumber rest) := by
  rcases h with rfl | rfl <;> rfl

theorem exponent_of_digit {rest : List Char} (h : startsWithDigit rest = true) :
    exponent rest = .ok (skipDigits rest) := by
  unfold exponent
  split
  · cases h
  · cases h
  · exact if_pos h

theorem exponent_cases {text rest : List Char} (h : exponent text = .ok rest) :
    ∃ digits, startsWithDigit digits = true ∧ skipDigits digits = rest ∧
      (text = digits ∨ ∃ c, (c = '+' ∨ c = '-') ∧ text = c :: digits) := by
  have read {digits : List Char}
      (h : (if startsWithDigit digits then .ok (skipDigits digits)
        else Except.error (Fault.next .badNumber digits)) = .ok rest) :
      startsWithDigit digits = true ∧ skipDigits digits = rest := by
    split at h
    · rename_i digit
      exact ⟨digit, Except.ok.inj h⟩
    · cases h
  unfold exponent at h
  split at h
  · exact ⟨_, (read h).1, (read h).2, .inr ⟨_, .inl rfl, rfl⟩⟩
  · exact ⟨_, (read h).1, (read h).2, .inr ⟨_, .inr rfl, rfl⟩⟩
  · exact ⟨_, (read h).1, (read h).2, .inl rfl⟩

theorem exponent_extend {text rest more : List Char} (h : exponent text = .ok rest)
    (parted : Parted rest more) : exponent (text ++ more) = .ok (rest ++ more) := by
  obtain ⟨digits, digit, skipped, form⟩ := exponent_cases h
  have digits_parted : Parted digits more := by
    rintro rfl
    cases digit
  have still := startsWithDigit_extend digits_parted
  rw [digit] at still
  rcases form with rfl | ⟨c, sign, rfl⟩
  · rw [exponent_of_digit still, skipDigits_extend skipped parted]
  · rw [List.cons_append, exponent_of_sign sign, if_pos still, skipDigits_extend skipped parted]

theorem maybeExponent_cons (c : Char) (rest : List Char) :
    maybeExponent (c :: rest) = if c = 'e' ∨ c = 'E' then exponent rest else .ok (c :: rest) := by
  unfold maybeExponent
  split
  · rename_i eq
    cases eq
    rfl
  · rename_i eq
    cases eq
    rfl
  · rename_i lower upper
    rw [if_neg]
    rintro (rfl | rfl)
    · exact lower rest rfl
    · exact upper rest rfl

theorem maybeExponent_of_ends {rest : List Char} (h : Ends rest) :
    maybeExponent rest = .ok rest := by
  cases rest with
  | nil => rfl
  | cons c rest =>
      rw [maybeExponent_cons, if_neg]
      rintro (rfl | rfl) <;> cases h

theorem maybeExponent_extend {text rest more : List Char} (h : maybeExponent text = .ok rest)
    (parted : Parted rest more) : maybeExponent (text ++ more) = .ok (rest ++ more) := by
  cases text with
  | nil =>
      cases h
      exact maybeExponent_of_ends (parted rfl)
  | cons c text =>
      rw [maybeExponent_cons] at h
      rw [List.cons_append, maybeExponent_cons]
      exact ite_extend h (fun _ h => exponent_extend h parted) fun _ h => by cases h; rfl

theorem maybeExponent_parted {text rest more : List Char} (h : maybeExponent text = .ok rest)
    (parted : Parted rest more) : Parted text more := by
  rintro rfl
  cases h
  exact parted rfl

theorem afterWhole_cons (c : Char) (rest : List Char) :
    afterWhole (c :: rest) =
      if c = '.' then
        if startsWithDigit rest then maybeExponent (skipDigits rest)
        else .error (.next .badNumber rest)
      else maybeExponent (c :: rest) := by
  unfold afterWhole
  split
  · rename_i eq
    cases eq
    rfl
  · rename_i point
    rw [if_neg fun eq => point rest (by rw [eq])]

theorem afterWhole_of_ends {rest : List Char} (h : Ends rest) : afterWhole rest = .ok rest := by
  cases rest with
  | nil => rfl
  | cons c rest =>
      rw [afterWhole_cons, if_neg]
      · exact maybeExponent_of_ends h
      · rintro rfl
        cases h

theorem afterWhole_parted {text rest more : List Char} (h : afterWhole text = .ok rest)
    (parted : Parted rest more) : Parted text more := by
  rintro rfl
  cases h
  exact parted rfl

theorem afterWhole_extend {text rest more : List Char} (h : afterWhole text = .ok rest)
    (parted : Parted rest more) : afterWhole (text ++ more) = .ok (rest ++ more) := by
  cases text with
  | nil =>
      cases h
      exact afterWhole_of_ends (parted rfl)
  | cons c text =>
      rw [afterWhole_cons] at h
      rw [List.cons_append, afterWhole_cons]
      refine ite_extend h (fun _ h => ?_) fun _ h => maybeExponent_extend h parted
      split at h
      · rename_i digit
        have text_parted : Parted text more := by
          rintro rfl
          cases digit
        have skips := skipDigits_extend rfl (maybeExponent_parted h parted)
        rw [startsWithDigit_extend text_parted, if_pos digit, skips]
        exact maybeExponent_extend h parted
      · cases h

theorem number_extend {text rest more : List Char} (h : number text = .ok rest)
    (parted : Parted rest more) : number (text ++ more) = .ok (rest ++ more) := by
  cases text with
  | nil => cases h
  | cons c text =>
      rw [number] at h
      rw [List.cons_append, number]
      refine ite_extend h (fun _ h => ?_) fun _ h =>
        ite_extend h (fun _ h => ?_) fun _ h => by cases h
      · split at h
        · cases h
        · rename_i ended
          rw [startsWithDigit_extend (afterWhole_parted h parted), if_neg ended]
          exact afterWhole_extend h parted
      · rw [skipDigits_extend rfl (afterWhole_parted h parted)]
        exact afterWhole_extend h parted

theorem scalar_extend {c : Char} {text rest more : List Char} (h : scalar c text = .ok rest)
    (parted : Parted rest more) : scalar c (text ++ more) = .ok (rest ++ more) := by
  unfold scalar at h ⊢
  refine ite_extend h (fun _ h => word_extend h more) fun _ h => ?_
  refine ite_extend h (fun _ h => word_extend h more) fun _ h => ?_
  refine ite_extend h (fun _ h => word_extend h more) fun _ h => ?_
  refine ite_extend h (fun _ h => number_extend h parted) fun _ h => ?_
  refine ite_extend h (fun _ h => number_extend h parted) fun _ h => ?_
  refine ite_extend h (fun _ h => Literal.skip_extend h more) fun _ h => ?_
  cases h

theorem key_extend {e : Enclosure} {text rest : List Char} (h : e.key text = .ok rest)
    (more : List Char) : e.key (text ++ more) = .ok (rest ++ more) := by
  cases e with
  | list =>
      cases h
      rfl
  | object =>
      unfold Enclosure.key at h ⊢
      dsimp only at h ⊢
      split at h
      · cases h
      rename_i c after opening
      rw [skipSpace_extend opening more]
      refine ite_extend h (fun _ h => ?_) fun _ h => by cases h
      split at h
      · cases h
      rename_i behind literal
      rw [Literal.skip_extend literal more]
      dsimp only
      split at h
      · cases h
      rename_i d last colon
      rw [skipSpace_extend colon more]
      exact ite_extend h (fun _ h => by cases h; rfl) fun _ h => by cases h

theorem within_value (fuel : Nat) (enclosures : List Enclosure) {text rest : List Char} {c : Char}
    (h : skipSpace text = c :: rest) :
    within (fuel + 1) .value enclosures text =
      if c = '[' then within fuel (.inside false) (.list :: enclosures) rest
      else if c = '\x7b' then within fuel (.inside false) (.object :: enclosures) rest
      else
        match scalar c rest with
        | .error fault => .error fault
        | .ok rest => within fuel (.inside true) enclosures rest := by
  rw [within, h]
  split
  · rename_i eq
    cases eq
  · rename_i eq
    cases eq
    rfl
  · rename_i eq
    cases eq
    rfl
  · rename_i list object eq
    cases eq
    have opens_no_list : c ≠ '[' := by
      rintro rfl
      exact list rfl
    have opens_no_object : c ≠ '\x7b' := by
      rintro rfl
      exact object rfl
    cases scalar c rest <;> simp only [if_neg opens_no_list, if_neg opens_no_object]

theorem within_inside (fuel : Nat) (behindValue : Bool) (e : Enclosure)
    (enclosures : List Enclosure) {text rest : List Char} {c : Char}
    (h : skipSpace text = c :: rest) :
    within (fuel + 1) (.inside behindValue) (e :: enclosures) text =
      if c = ',' && behindValue then
        match e.key rest with
        | .error fault => .error fault
        | .ok rest => within fuel .value (e :: enclosures) rest
      else if c = e.closing then within fuel (.inside true) enclosures rest
      else if behindValue then .error (.next e.endExpected (c :: rest))
      else
        match e.key (c :: rest) with
        | .error fault => .error fault
        | .ok rest => within fuel .value (e :: enclosures) rest := by
  cases behind : e.key rest <;> cases here : e.key (c :: rest) <;>
    simp only [within, h, behind, here]

/-- Where nothing is left inside, nothing encloses. -/
theorem inside_parted {fuel : Nat} {behindValue : Bool} {enclosures : List Enclosure}
    {text rest more : List Char} (h : within fuel (.inside behindValue) enclosures text = .ok rest)
    (parted : Parted rest more) : Parted text more := by
  rintro rfl
  cases fuel with
  | zero => cases h
  | succ fuel =>
      cases enclosures with
      | nil =>
          cases h
          exact parted rfl
      | cons e enclosures => cases h

theorem within_extend {fuel : Nat} {stage : Stage} {enclosures : List Enclosure}
    {text rest more : List Char} (h : within fuel stage enclosures text = .ok rest) {enough : Nat}
    (le : fuel ≤ enough) (parted : Parted rest more) :
    within enough stage enclosures (text ++ more) = .ok (rest ++ more) := by
  induction fuel generalizing enough stage enclosures text with
  | zero => cases h
  | succ fuel ih =>
      obtain ⟨enough, rfl⟩ := Nat.exists_eq_add_one.2 (Nat.zero_lt_of_lt le)
      have le := Nat.le_of_succ_le_succ le
      cases stage with
      | value =>
          cases found : skipSpace text with
          | nil =>
              rw [within, found] at h
              cases h
          | cons c after =>
              rw [within_value fuel enclosures found] at h
              rw [within_value enough enclosures (skipSpace_extend found more)]
              refine ite_extend h (fun _ h => ih h le) fun _ h => ?_
              refine ite_extend h (fun _ h => ih h le) fun _ h => ?_
              split at h
              · cases h
              · rename_i left passed
                rw [scalar_extend passed (inside_parted h parted)]
                exact ih h le
      | inside behindValue =>
          cases enclosures with
          | nil =>
              cases h
              rfl
          | cons e enclosures =>
              cases found : skipSpace text with
              | nil =>
                  rw [within, found] at h
                  cases h
              | cons c after =>
                  have keyed {before : List Char}
                      (h : (match e.key before with
                        | .error fault => Except.error fault
                        | .ok rest => within fuel .value (e :: enclosures) rest) = .ok rest) :
                      (match e.key (before ++ more) with
                        | .error fault => Except.error fault
                        | .ok rest => within enough .value (e :: enclosures) rest) = .ok
                          (rest ++ more) := by
                    split at h
                    · cases h
                    · rename_i left passed
                      rw [key_extend passed more]
                      exact ih h le
                  rw [within_inside fuel behindValue e enclosures found] at h
                  rw [within_inside enough behindValue e enclosures (skipSpace_extend found more)]
                  refine ite_extend h (fun _ h => keyed h) fun _ h => ?_
                  refine ite_extend h (fun _ h => ih h le) fun _ h => ?_
                  exact ite_extend h (fun _ h => by cases h) fun _ h => keyed h

theorem value_extend {text rest more : List Char} (h : value text = .ok rest)
    (parted : Parted rest more) : value (text ++ more) = .ok (rest ++ more) :=
  within_extend h (by simp) parted

end Skip

end FaceAnnotator.Json
