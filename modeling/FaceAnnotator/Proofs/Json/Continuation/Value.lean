import FaceAnnotator.Json.Schema
import FaceAnnotator.Proofs.Json.Continuation.Skip
/-!
# FaceAnnotator.Proofs.Json.Continuation.Value

**Values, and readers that know where they end.**

A reader `Extends` if what it reads does not depend on what comes behind; it `Closes` if that holds
even where a number could go on, because the value that it reads has an end of its own. Lists and
records do, whatever is in them.
-/

namespace FaceAnnotator.Json

variable {α β σ : Type}

/-- A reader reads the same when more comes behind. -/
def Extends (r : Reader α) : Prop :=
  ∀ ⦃text rest : List Char⦄ ⦃x : α⦄, r text = .ok (x, rest) →
    ∀ more, Parted rest more → r (text ++ more) = .ok (x, rest ++ more)

/-- A reader knows where the value ends that it reads. -/
def Closes (r : Reader α) : Prop :=
  ∀ ⦃text rest : List Char⦄ ⦃x : α⦄, r text = .ok (x, rest) →
    ∀ more, r (text ++ more) = .ok (x, rest ++ more)

theorem Closes.extends {r : Reader α} (h : Closes r) : Extends r :=
  fun _ _ _ reads more _ => h reads more

theorem Extends.map {r : Reader α} (h : Extends r) (f : α → β) :
    Extends fun rest => (r rest).map fun (x, rest) => (f x, rest) := by
  intro text rest y reads more parted
  dsimp only at reads ⊢
  cases outcome : r text with
  | error fault =>
      rw [outcome] at reads
      cases reads
  | ok found =>
      obtain ⟨x, left⟩ := found
      rw [outcome] at reads
      cases reads
      rw [h outcome more parted]
      rfl

/-- A text that is read to its end is an answer. -/
theorem Extends.answers {r : Reader α} (h : Extends r) {text : List Char} {x : α}
    (reads : r text = .ok (x, [])) : Answers r text (some x) :=
  fun rest ends => h reads rest fun _ => ends

/-! ### Values of one type -/

theorem extends_number (expected : String) : Extends (number expected) := by
  intro text rest n h more parted
  unfold number at h ⊢
  split at h
  · cases h
  rename_i c after found
  rw [skipSpace_extend found more]
  refine ite_extend h (fun _ h => Number.read_extend h parted) fun _ h => ?_
  exact ite_extend h (fun _ h => Number.read_extend h parted) fun _ h => by cases h

theorem extends_single : Extends single := by
  intro text rest x h more parted
  unfold single at h ⊢
  split at h
  · cases h
  · rename_i n left found
    cases h
    rw [extends_number "f32" found more parted]

theorem extends_integer (expected : String) (least greatest : Int) :
    Extends (integer expected least greatest) := by
  intro text rest n h more parted
  unfold integer at h ⊢
  split at h
  · cases h
  · cases h
  · rename_i n left found
    split at h
    · rename_i below
      cases h
      simp only [extends_number expected found more parted, if_pos below]
    · cases h
  · rename_i n left found
    split at h
    · rename_i above
      cases h
      simp only [extends_number expected found more parted, if_pos above]
    · cases h

theorem closes_text : Closes text := by
  intro text rest s h more
  unfold Json.text at h ⊢
  split at h
  · cases h
  rename_i c after found
  rw [skipSpace_extend found more]
  refine ite_extend h (fun _ h => ?_) fun _ h => by cases h
  split at h
  · cases h
  · rename_i chars left literal
    cases h
    rw [Literal.read_extend literal more]

theorem closes_optionalText : Closes optionalText := by
  intro text rest s h more
  unfold optionalText at h
  split at h
  · rename_i after found
    split at h
    · cases h
    · rename_i left null
      cases h
      unfold optionalText
      rw [skipSpace_extend found more]
      simp only [word_extend null more]
  · rename_i word
    split at h
    · cases h
    · rename_i t left literal
      cases h
      have reads := closes_text literal more
      cases found : skipSpace text with
      | nil =>
          rw [found] at literal
          cases literal
      | cons c after =>
          rw [found] at reads
          unfold optionalText
          rw [skipSpace_extend found more]
          split
          · rename_i eq
            cases eq
            exact absurd found (word _)
          · rw [List.cons_append] at reads
            rw [reads]

/-! ### Lists -/

theorem nextElement_cons {first : Bool} {text rest : List Char} {c : Char}
    (h : skipSpace text = c :: rest) :
    nextElement first text =
      if c = ']' then .ok (false, c :: rest)
      else if first then .ok (true, c :: rest)
      else if c = ',' then
        match skipSpace rest with
        | [] => .error (.next .endInValue [])
        | d :: after =>
          if d = ']' then .error (.next .trailingComma (d :: after)) else .ok (true, d :: after)
      else .error (.next .listEndExpected (c :: rest)) := by
  rw [nextElement, h]
  split
  · rename_i eq
    cases eq
  · rename_i eq
    cases eq
    rfl
  · rename_i no_end eq
    cases eq
    have ends_no_list : c ≠ ']' := by
      rintro rfl
      exact no_end rfl
    rw [if_neg ends_no_list]
    congr 2
    cases next : skipSpace rest with
    | nil => rfl
    | cons d after =>
        split
        · rename_i eq
          cases eq
        · rename_i eq
          cases eq
          rfl
        · rename_i no_end
          have : d ≠ ']' := by
            rintro rfl
            exact no_end after rfl
          simp [this]

theorem closes_nextElement (first : Bool) : Closes (nextElement first) := by
  intro text rest goes_on h more
  cases found : skipSpace text with
  | nil =>
      rw [nextElement, found] at h
      cases h
  | cons c after =>
      rw [nextElement_cons found] at h
      rw [nextElement_cons (skipSpace_extend found more)]
      refine ite_extend h (fun _ h => by cases h; rfl) fun _ h => ?_
      refine ite_extend h (fun _ h => by cases h; rfl) fun _ h => ?_
      refine ite_extend h (fun _ h => ?_) fun _ h => by cases h
      split at h
      · cases h
      · rename_i d last next
        rw [skipSpace_extend next more]
        exact ite_extend h (fun _ h => by cases h) fun _ h => by cases h; rfl

theorem endList_extend {text rest : List Char} (h : endList text = .ok rest) (more : List Char) :
    endList (text ++ more) = .ok (rest ++ more) := by
  unfold endList at h
  split at h
  · cases h
  · rename_i after found
    cases h
    rw [endList, skipSpace_extend found more]
    rfl
  · split at h <;> cases h
  · cases h

theorem parted_of_ne_nil {text : List Char} (h : text ≠ []) (more : List Char) : Parted text more :=
  fun eq => absurd eq h

theorem endList_ne_nil {text rest : List Char} (h : endList text = .ok rest) : text ≠ [] := by
  rintro rfl
  cases h

theorem elementsWithin_ne_nil {element : Reader α} {fuel : Nat} {first : Bool} {done xs : List α}
    {text rest : List Char} (h : elementsWithin element fuel first done text = .ok (xs, rest)) :
    text ≠ [] := by
  rintro rfl
  cases fuel <;> cases h

theorem elementsWithin_extend {element : Reader α} (h : Extends element) {fuel enough : Nat}
    {first : Bool} {done xs : List α} {text rest : List Char}
    (reads : elementsWithin element fuel first done text = .ok (xs, rest)) (le : fuel ≤ enough)
    (more : List Char) :
    elementsWithin element enough first done (text ++ more) = .ok (xs, rest ++ more) := by
  induction fuel generalizing enough first done text with
  | zero => cases reads
  | succ fuel ih =>
      obtain ⟨enough, rfl⟩ := Nat.exists_eq_add_one.2 (Nat.zero_lt_of_lt le)
      have le := Nat.le_of_succ_le_succ le
      rw [elementsWithin] at reads ⊢
      split at reads
      · cases reads
      · rename_i last ended
        cases reads
        rw [closes_nextElement first ended more]
      · rename_i front goes_on
        rw [closes_nextElement first goes_on more]
        dsimp only
        split at reads
        · cases reads
        · rename_i x left one
          rw [h one more (parted_of_ne_nil (elementsWithin_ne_nil reads) more)]
          exact ih reads le

theorem closes_list {element : Reader α} (h : Extends element) : Closes (list element) := by
  intro text rest xs reads more
  unfold list at reads
  split at reads
  · cases reads
  · rename_i after opening
    split at reads
    · cases reads
    · rename_i ys left inside
      split at reads
      · cases reads
      · rename_i behind ended
        cases reads
        have whole := @elementsWithin_extend α element h _ ((after ++ more).length + 1) _ _ _ _ _
          inside (by simp) more
        simp only [list, skipSpace_extend opening more, whole, endList_extend ended more]
  · cases reads

/-! ### Records -/

namespace Schema

theorem nextKey_cons {first : Bool} {text rest : List Char} {c : Char}
    (h : skipSpace text = c :: rest) :
    nextKey first text =
      if c = '\x7d' then .ok (false, c :: rest)
      else if first then
        if c = '"' then .ok (true, rest) else .error (.next .keyExpected (c :: rest))
      else if c = ',' then
        match skipSpace rest with
        | [] => .error (.next .endInValue [])
        | d :: after =>
          if d = '"' then .ok (true, after)
          else if d = '\x7d' then .error (.next .trailingComma (d :: after))
          else .error (.next .keyExpected (d :: after))
      else .error (.next .objectEndExpected (c :: rest)) := by
  rw [nextKey, h]
  split
  · rename_i eq
    cases eq
  · rename_i eq
    cases eq
    rfl
  · rename_i no_end eq
    cases eq
    have ends_no_object : c ≠ '\x7d' := by
      rintro rfl
      exact no_end rfl
    rw [if_neg ends_no_object]
    congr 2
    cases next : skipSpace rest with
    | nil => rfl
    | cons d after =>
        split
        · rename_i eq
          cases eq
        · rename_i eq
          cases eq
          rfl
        · rename_i eq
          cases eq
          rfl
        · rename_i no_key no_end
          have no_key : d ≠ '"' := by
            rintro rfl
            exact no_key after rfl
          have no_end : d ≠ '\x7d' := by
            rintro rfl
            exact no_end after rfl
          simp [no_key, no_end]

theorem closes_nextKey (first : Bool) : Closes (nextKey first) := by
  intro text rest goes_on h more
  cases found : skipSpace text with
  | nil =>
      rw [nextKey, found] at h
      cases h
  | cons c after =>
      rw [nextKey_cons found] at h
      rw [nextKey_cons (skipSpace_extend found more)]
      refine ite_extend h (fun _ h => by cases h; rfl) fun _ h => ?_
      refine ite_extend h (fun _ h => ?_) fun _ h =>
        ite_extend h (fun _ h => ?_) fun _ h => by cases h
      · exact ite_extend h (fun _ h => by cases h; rfl) fun _ h => by cases h
      · split at h
        · cases h
        · rename_i d last next
          rw [skipSpace_extend next more]
          refine ite_extend h (fun _ h => by cases h; rfl) fun _ h => ?_
          exact ite_extend h (fun _ h => by cases h) fun _ h => by cases h

theorem colon_extend {text rest : List Char} (h : colon text = .ok rest) (more : List Char) :
    colon (text ++ more) = .ok (rest ++ more) := by
  unfold colon at h
  split at h
  · cases h
  · rename_i after found
    cases h
    rw [colon, skipSpace_extend found more]
    rfl
  · cases h

/-- Where an object ends, its end stands. -/
theorem nextKey_end {first : Bool} {text rest : List Char}
    (h : nextKey first text = .ok (false, rest)) :
    ∃ after, rest = '\x7d' :: after := by
  cases found : skipSpace text with
  | nil =>
      rw [nextKey, found] at h
      cases h
  | cons c after =>
      rw [nextKey_cons found] at h
      split at h
      · rename_i close
        cases h
        exact ⟨after, by rw [close]⟩
      · repeat' split at h
        all_goals cases h

variable {s : Schema σ α}

theorem membersWithin_end {fuel : Nat} {first : Bool} {collected all : σ} {text rest : List Char}
    (h : s.membersWithin fuel first collected text = .ok (all, rest)) :
    ∃ after, rest = '\x7d' :: after := by
  induction fuel generalizing first collected text with
  | zero => cases h
  | succ fuel ih =>
      rw [membersWithin] at h
      split at h
      · cases h
      · rename_i last ended
        cases h
        exact nextKey_end ended
      · split at h
        · cases h
        · exact ih h

theorem behindObject_end (after : List Char) : behindObject ('\x7d' :: after) = after := by
  simp [behindObject, skipSpace_cons (show isSpace '\x7d' = false by decide)]

theorem membersWithin_ne_nil {fuel : Nat} {first : Bool} {collected all : σ} {text rest : List Char}
    (h : s.membersWithin fuel first collected text = .ok (all, rest)) : text ≠ [] := by
  rintro rfl
  cases fuel <;> cases h

theorem elements_ne_nil {field : Field σ} {fields : List (Field σ)} {count : Nat}
    {collected all : σ}
    {text rest : List Char}
    (h : s.elements (field :: fields) count collected text = .ok (all, rest)) :
    text ≠ [] := by
  rintro rfl
  cases h

section fields

variable (h : ∀ field ∈ s.fields, ∀ collected, Extends (field.read collected))
include h

theorem extends_member (collected : σ) : Extends (s.member collected) := by
  intro text rest next reads more parted
  unfold member at reads ⊢
  split at reads
  · cases reads
  rename_i key after literal
  simp only [Literal.read_extend literal more]
  split at reads
  · split at reads
    · cases reads
    · rename_i behind passed
      simp only [colon_extend passed more]
      cases skipped : Skip.value behind with
      | error fault =>
          rw [skipped] at reads
          cases reads
      | ok left =>
          rw [skipped] at reads
          cases reads
          rw [Skip.value_extend skipped parted]
          rfl
  · rename_i field named
    split at reads
    · cases reads
    rename_i unset
    split at reads
    · cases reads
    rename_i behind passed
    simp only [if_neg unset, colon_extend passed more]
    exact h field (List.mem_of_find?_eq_some named) collected reads more parted

theorem membersWithin_extend {fuel enough : Nat} {first : Bool} {collected all : σ}
    {text rest : List Char} (reads : s.membersWithin fuel first collected text = .ok (all, rest))
    (le : fuel ≤ enough) (more : List Char) :
    s.membersWithin enough first collected (text ++ more) = .ok (all, rest ++ more) := by
  induction fuel generalizing enough first collected text with
  | zero => cases reads
  | succ fuel ih =>
      obtain ⟨enough, rfl⟩ := Nat.exists_eq_add_one.2 (Nat.zero_lt_of_lt le)
      have le := Nat.le_of_succ_le_succ le
      rw [membersWithin] at reads ⊢
      split at reads
      · cases reads
      · rename_i last ended
        cases reads
        rw [closes_nextKey first ended more]
      · rename_i front goes_on
        rw [closes_nextKey first goes_on more]
        dsimp only
        split at reads
        · cases reads
        · rename_i next left one
          rw [extends_member h collected one more
            (parted_of_ne_nil (membersWithin_ne_nil reads) more)]
          exact ih reads le

theorem closes_object : Closes s.object := by
  intro text rest x reads more
  unfold object at reads ⊢
  split at reads
  · cases reads
  · rename_i all left inside
    obtain ⟨after, rfl⟩ := membersWithin_end inside
    have whole := membersWithin_extend h inside
      (show text.length + 1 ≤ (text ++ more).length + 1 by simp) more
    split at reads
    · cases reads
    · rename_i y built
      rw [behindObject_end] at reads
      cases reads
      simp only [whole, built, List.cons_append, behindObject_end]

theorem elements_extend {fields : List (Field σ)} (known : ∀ field ∈ fields, field ∈ s.fields)
    {count : Nat} {collected all : σ} {text rest : List Char}
    (reads : s.elements fields count collected text = .ok (all, rest)) {more : List Char}
    (parted : Parted rest more) :
    s.elements fields count collected (text ++ more) = .ok (all, rest ++ more) := by
  induction fields generalizing count collected text with
  | nil =>
      cases reads
      rfl
  | cons field fields ih =>
      have later := @ih fun field mem => known field (List.mem_cons_of_mem _ mem)
      rw [elements] at reads ⊢
      split at reads
      · cases reads
      · rename_i last ended
        rw [closes_nextElement _ ended more]
        exact ite_extend reads (fun _ reads => by cases reads) fun _ reads => later reads
      · rename_i front goes_on
        rw [closes_nextElement _ goes_on more]
        dsimp only
        split at reads
        · cases reads
        · rename_i next left one
          have left_parted : Parted left more := by
            rintro rfl
            cases fields with
            | nil =>
                cases reads
                exact parted rfl
            | cons field fields => exact absurd rfl (elements_ne_nil reads)
          rw [h field (known field List.mem_cons_self) collected one more left_parted]
          exact later reads

theorem closes_sequence : Closes s.sequence := by
  intro text rest x reads more
  unfold sequence at reads ⊢
  split at reads
  · cases reads
  · rename_i all left inside
    split at reads
    · cases reads
    · rename_i y built
      split at reads
      · cases reads
      · rename_i behind ended
        cases reads
        have whole := elements_extend h (fun _ mem => mem) inside
          (parted_of_ne_nil (endList_ne_nil ended) more)
        simp only [whole, built, endList_extend ended more]

theorem closes_read : Closes s.read := by
  intro text rest x reads more
  unfold read at reads
  split at reads
  · cases reads
  · rename_i after opening
    simp only [read, skipSpace_extend opening more, closes_object h reads more]
  · rename_i after opening
    simp only [read, skipSpace_extend opening more, closes_sequence h reads more]
  · cases reads

end fields

end Schema

end FaceAnnotator.Json
