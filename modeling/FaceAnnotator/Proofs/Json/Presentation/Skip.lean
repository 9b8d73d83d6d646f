import FaceAnnotator.Proofs.Json.Presentation.Token
/-!
# FaceAnnotator.Proofs.Json.Presentation.Skip

**Whatever is JSON is passed over, to its end.**

The loop has no recursion that an induction could follow: it keeps what encloses it in a list. So
the induction is on the grammar, and says in how many steps the loop gets from before a value to
behind it, whatever encloses it. A character is worth two steps.
-/

namespace FaceAnnotator.Json

open Numeric

/-! ### Spaces -/

theorem spaces_nil : Spaces [] := fun _ mem => nomatch mem

theorem skipSpace_spaces {space : List Char} (h : Spaces space) (rest : List Char) :
    skipSpace (space ++ rest) = skipSpace rest :=
  List.dropWhile_append_of_pos h

theorem skipSpace_begins {text : List Char} (h : Begins text) (rest : List Char) :
    skipSpace (text ++ rest) = text ++ rest := by
  obtain ⟨c, more, rfl, space, -⟩ := h
  exact skipSpace_cons space (more ++ rest)

theorem skipSpace_written {p : Padded} (h : Begins p.text) (rest : List Char) :
    skipSpace (p.written ++ rest) = p.text ++ (p.after ++ rest) := by
  rw [Padded.written, List.append_assoc, skipSpace_spaces p.spaces_before, List.append_assoc,
    skipSpace_begins h]

theorem skipSpace_comma {space : List Char} (h : Spaces space) (rest : List Char) :
    skipSpace (space ++ ',' :: rest) = ',' :: rest := by
  rw [skipSpace_spaces h, skipSpace_cons (by decide)]

theorem skipSpace_listText {before : List Char} (h : Spaces before) (items : List Padded)
    (gap rest : List Char) :
    skipSpace (before ++ (listText items gap ++ rest)) =
      '[' :: (separated true (items.map Padded.written) ++ (gap ++ ']' :: rest)) := by
  have opening := skipSpace_cons (show isSpace '[' = false by decide)
    (separated true (items.map Padded.written) ++ (gap ++ ']' :: rest))
  rw [skipSpace_spaces h, ← opening]
  simp [listText]

theorem skipSpace_objectText {before : List Char} (h : Spaces before) (entries : List Entry)
    (gap rest : List Char) :
    skipSpace (before ++ (objectText entries gap ++ rest)) =
      '\x7b' :: (separated true (entries.map Entry.written) ++ (gap ++ '\x7d' :: rest)) := by
  have opening := skipSpace_cons (show isSpace '\x7b' = false by decide)
    (separated true (entries.map Entry.written) ++ (gap ++ '\x7d' :: rest))
  rw [skipSpace_spaces h, ← opening]
  simp [objectText]

/-- No number goes on with a space. -/
theorem ends_spaces {space rest : List Char} (h : Spaces space) (ends : Ends rest) :
    Ends (space ++ rest) := by
  cases space with
  | nil => exact ends
  | cons c space =>
      have blank := h c List.mem_cons_self
      simp only [isSpace, Bool.or_eq_true, decide_eq_true_eq] at blank
      rw [List.cons_append, Ends]
      rcases blank with ((rfl | rfl) | rfl) | rfl <;> decide

/-- Behind an element or a member stands a comma, or the end. -/
theorem ends_behind {after gap : List Char} (spaces : Spaces after) (gaps : Spaces gap)
    (texts : List (List Char)) {close : Char} (h : continues close = false) (rest : List Char) :
    Ends (after ++ (separated false texts ++ (gap ++ close :: rest))) := by
  refine ends_spaces spaces ?_
  cases texts with
  | nil =>
      have ends : Ends (close :: rest) := h
      rw [separated, List.nil_append]
      exact ends_spaces gaps ends
  | cons text texts => exact (by decide : continues ',' = false)

/-! ### The first character of a value -/

theorem ne_of_isDigit {c d : Char} (h : isDigit c = true) (other : isDigit d = false) : c ≠ d := by
  rintro rfl
  rw [h] at other
  cases other

theorem IsNumber.head {text : List Char} (h : IsNumber text) :
    ∃ c more, text = c :: more ∧ (c = '-' ∨ isDigit c = true) := by
  obtain ⟨negative, c, digits, rfl, digit, -⟩ := h.passes
  cases negative with
  | true => exact ⟨'-', c :: digits, rfl, .inl rfl⟩
  | false => exact ⟨c, digits, rfl, .inr digit⟩

theorem IsNumber.passes_minus {more rest : List Char} (h : IsNumber ('-' :: more))
    (ends : Ends rest) :
    Skip.number (more ++ rest) = .ok rest := by
  obtain ⟨negative, c, digits, eq, digit, passes⟩ := h.passes
  cases negative with
  | true =>
      obtain rfl : more = c :: digits := (List.cons.inj eq).2
      exact passes rest ends
  | false =>
      obtain rfl : '-' = c := (List.cons.inj eq).1
      exact absurd digit (by decide)

theorem IsNumber.passes_digit {c : Char} {more rest : List Char} (h : IsNumber (c :: more))
    (digit : isDigit c = true) (ends : Ends rest) :
    Skip.number (c :: (more ++ rest)) = .ok rest := by
  obtain ⟨negative, d, digits, eq, -, passes⟩ := h.passes
  cases negative with
  | true =>
      obtain rfl : c = '-' := (List.cons.inj eq).1
      exact absurd digit (by decide)
  | false =>
      obtain ⟨rfl, rfl⟩ := List.cons.inj (show c :: more = d :: digits from eq)
      exact passes rest ends

theorem IsLiteral.head {text : List Char} (h : IsLiteral text) : ∃ more, text = '"' :: more := by
  obtain ⟨inside, -, rfl⟩ := h
  exact ⟨inside ++ ['"'], rfl⟩

theorem begins_of_isNumber {text : List Char} (h : IsNumber text) : Begins text := by
  obtain ⟨c, more, rfl, rfl | digit⟩ := h.head
  · exact ⟨'-', more, rfl, by decide, by decide⟩
  · exact ⟨c, more, rfl, isSpace_of_isDigit digit, ne_of_isDigit digit (by decide)⟩

theorem IsLiteral.begins {text : List Char} (h : IsLiteral text) : Begins text := by
  obtain ⟨more, rfl⟩ := h.head
  exact ⟨'"', more, rfl, by decide, by decide⟩

theorem begins_of_words {text : List Char} (h : text ∈ words) : Begins text := by
  simp only [words, List.mem_cons, List.not_mem_nil, or_false] at h
  rcases h with rfl | rfl | rfl
  · exact ⟨'n', _, rfl, by decide, by decide⟩
  · exact ⟨'t', _, rfl, by decide, by decide⟩
  · exact ⟨'f', _, rfl, by decide, by decide⟩

theorem begins_listText (items : List Padded) (gap : List Char) : Begins (listText items gap) :=
  ⟨'[', _, rfl, by decide, by decide⟩

theorem begins_objectText (entries : List Entry) (gap : List Char) :
    Begins (objectText entries gap) :=
  ⟨'\x7b', _, rfl, by decide, by decide⟩

theorem IsJson.begins {text : List Char} (h : IsJson text) : Begins text := by
  cases h with
  | word mem => exact begins_of_words mem
  | number is => exact begins_of_isNumber is
  | literal is => exact is.begins
  | list gaps each => exact begins_listText _ _
  | object gaps keys each => exact begins_objectText _ _

/-- What a value is, its first character tells. -/
theorem IsJson.view {text : List Char} (h : IsJson text) :
    ∃ c more, text = c :: more ∧
      (c = '-' ∨ isDigit c = true → IsNumber text) ∧
      (c = '"' → IsLiteral text) ∧
      (c = 'n' → more = ['u', 'l', 'l']) ∧
      (c = '[' →
        ∃ items gap, Spaces gap ∧ (∀ i ∈ items, IsJson i.text) ∧ text = listText items gap) ∧
      (c = '\x7b' → ∃ entries gap, Spaces gap ∧ (∀ e ∈ entries, IsLiteral e.key.text) ∧
        (∀ e ∈ entries, IsJson e.value.text) ∧ text = objectText entries gap) := by
  cases h with
  | word mem =>
      simp only [words, List.mem_cons, List.not_mem_nil, or_false] at mem
      rcases mem with rfl | rfl | rfl <;> refine ⟨_, _, rfl, ?_, ?_, ?_, ?_, ?_⟩ <;> intro eq <;>
        first
        | rfl
        | exact absurd eq (by decide)
  | number is =>
      obtain ⟨c, more, rfl, rfl | digit⟩ := is.head
      · refine ⟨_, _, rfl, fun _ => is, ?_, ?_, ?_, ?_⟩ <;> exact fun eq => absurd eq (by decide)
      · refine ⟨_, _, rfl, fun _ => is, ?_, ?_, ?_, ?_⟩ <;>
          exact fun eq => absurd eq (ne_of_isDigit digit (by decide))
  | literal is =>
      obtain ⟨more, rfl⟩ := is.head
      refine ⟨_, _, rfl, ?_, fun _ => is, ?_, ?_, ?_⟩ <;> exact fun eq => absurd eq (by decide)
  | @list items gap gaps each =>
      refine ⟨_, _, rfl, ?_, ?_, ?_, fun _ => ⟨items, gap, gaps, each, rfl⟩, ?_⟩ <;>
        exact fun eq => absurd eq (by decide)
  | @object entries gap gaps keys each =>
      refine ⟨_, _, rfl, ?_, ?_, ?_, ?_, fun _ => ⟨entries, gap, gaps, keys, each, rfl⟩⟩ <;>
        exact fun eq => absurd eq (by decide)

namespace Skip

/-! ### Steps of the loop -/

/-- The loop takes so many steps from before a value to behind it. -/
def Passes (text : List Char) (steps : Nat) : Prop :=
  ∀ fuel enclosures before rest, Spaces before → Ends rest →
    within (fuel + steps) .value enclosures (before ++ (text ++ rest)) =
      within fuel (.inside true) enclosures rest

theorem passes_scalar {c : Char} {more : List Char} (space : isSpace c = false) (list : c ≠ '[')
    (object : c ≠ '\x7b') (h : ∀ rest, Ends rest → scalar c (more ++ rest) = .ok rest) :
    Passes (c :: more) 1 := by
  intro fuel enclosures before rest spaces ends
  have found : skipSpace (before ++ (c :: more ++ rest)) = c :: (more ++ rest) := by
    rw [skipSpace_spaces spaces]
    exact skipSpace_cons space _
  rw [within_value fuel enclosures found, if_neg list, if_neg object, h rest ends]

theorem passes_word {text : List Char} (h : text ∈ words) : Passes text 1 := by
  simp only [words, List.mem_cons, List.not_mem_nil, or_false] at h
  rcases h with rfl | rfl | rfl
  · exact passes_scalar (by decide) (by decide) (by decide) fun rest _ =>
      word_append ['u', 'l', 'l'] rest
  · exact passes_scalar (by decide) (by decide) (by decide) fun rest _ =>
      word_append ['r', 'u', 'e'] rest
  · exact passes_scalar (by decide) (by decide) (by decide) fun rest _ =>
      word_append ['a', 'l', 's', 'e'] rest

theorem scalar_of_isDigit {c : Char} (h : isDigit c = true) (rest : List Char) :
    scalar c rest = number (c :: rest) := by
  have other {d : Char} (no_digit : isDigit d = false) : c ≠ d := ne_of_isDigit h no_digit
  rw [scalar, if_neg (other (by decide)), if_neg (other (by decide)), if_neg (other (by decide)),
    if_neg (other (by decide)), if_pos h]

theorem passes_number {text : List Char} (h : IsNumber text) : Passes text 1 := by
  obtain ⟨c, more, rfl, rfl | digit⟩ := h.head
  · exact passes_scalar (by decide) (by decide) (by decide) fun rest ends => h.passes_minus ends
  · refine passes_scalar (isSpace_of_isDigit digit) (ne_of_isDigit digit (by decide))
      (ne_of_isDigit digit (by decide)) fun rest ends => ?_
    rw [scalar_of_isDigit digit]
    exact h.passes_digit digit ends

theorem passes_literal {text : List Char} (h : IsLiteral text) : Passes text 1 := by
  obtain ⟨inside, is, rfl⟩ := h
  refine passes_scalar (by decide) (by decide) (by decide) fun rest _ => ?_
  have skips := Literal.skip_of_isInside is rest
  rw [List.append_assoc]
  exact skips

/-! ### Enclosures -/

theorem inside_spaces {space : List Char} (h : Spaces space) (fuel : Nat) (behindValue : Bool)
    (e : Enclosure) (enclosures : List Enclosure) (rest : List Char) :
    within (fuel + 1) (.inside behindValue) (e :: enclosures) (space ++ rest) =
      within (fuel + 1) (.inside behindValue) (e :: enclosures) rest := by
  rw [within, within, skipSpace_spaces h]

/-- The loop takes so many steps over an element or a member, and over the comma before it if
there is one. -/
def Steps (e : Enclosure) (written : List Char) (steps : Nat) : Prop :=
  ∀ (first : Bool) fuel enclosures rest, Ends rest →
    within (fuel + 1 + steps) (.inside !first) (e :: enclosures)
        (separated first [written] ++ rest) =
      within (fuel + 1) (.inside true) (e :: enclosures) rest

/-- What stands before the value is its key, if a key is expected. -/
theorem steps_of_key {e : Enclosure} {lead : List Char} {value : Padded} {steps : Nat}
    (passes : Passes value.text steps)
    (key : ∀ rest, e.key (lead ++ rest) = .ok rest)
    (front : ∀ rest, ∃ c more,
      skipSpace (lead ++ (value.written ++ rest)) = c :: more ∧ c ≠ e.closing ∧
      ∃ before, Spaces before ∧
        e.key (c :: more) = .ok (before ++ (value.text ++ (value.after ++ rest)))) :
    Steps e (lead ++ value.written) (steps + 1) := by
  intro first fuel enclosures rest ends
  have behind : Ends (value.after ++ rest) := ends_spaces value.spaces_after ends
  rw [← Nat.add_assoc, Nat.add_right_comm fuel 1 steps]
  cases first with
  | true =>
      obtain ⟨c, more, found, no_end, before, spaces, passed⟩ := front rest
      have text : separated true [lead ++ value.written] ++ rest =
          lead ++ (value.written ++ rest) := by
        simp [separated]
      rw [text, within_inside _ _ _ _ found]
      simp only [Bool.not_true, Bool.and_false, Bool.false_eq_true, if_false, if_neg no_end, passed]
      rw [Nat.add_right_comm, passes _ _ _ _ spaces behind, inside_spaces value.spaces_after]
  | false =>
      have text : separated false [lead ++ value.written] ++ rest =
          ',' :: (lead ++ (value.before ++ (value.text ++ (value.after ++ rest)))) := by
        simp [separated, Padded.written]
      have found := skipSpace_cons (show isSpace ',' = false by decide)
        (lead ++ (value.before ++ (value.text ++ (value.after ++ rest))))
      rw [text, within_inside _ _ _ _ found]
      simp only [Bool.not_false, decide_true, Bool.and_self, if_true, key]
      rw [Nat.add_right_comm, passes _ _ _ _ value.spaces_before behind,
        inside_spaces value.spaces_after]

theorem steps_element {item : Padded} {steps : Nat} (begins : Begins item.text)
    (h : Passes item.text steps) : Steps .list item.written (steps + 1) := by
  refine @steps_of_key .list [] item steps h (fun rest => rfl) fun rest => ?_
  have found := skipSpace_written begins rest
  obtain ⟨c, more, eq, -, no_end⟩ := begins
  rw [eq] at found
  refine ⟨c, more ++ (item.after ++ rest), found, no_end, [], spaces_nil, ?_⟩
  rw [eq]
  rfl

theorem key_of_literal {key : Padded} (h : IsLiteral key.text) {before : List Char}
    (spaces : Spaces before) (rest : List Char) :
    Enclosure.key .object (before ++ (key.text ++ (key.after ++ ':' :: rest))) = .ok rest := by
  obtain ⟨inside, is, eq⟩ := h
  have quote := skipSpace_cons (show isSpace '"' = false by decide)
    (inside ++ '"' :: (key.after ++ ':' :: rest))
  have colon := skipSpace_cons (show isSpace ':' = false by decide) rest
  have skips := Literal.skip_of_isInside is (key.after ++ ':' :: rest)
  rw [← skipSpace_spaces key.spaces_after] at colon
  have text : key.text ++ (key.after ++ ':' :: rest) =
      '"' :: (inside ++ '"' :: (key.after ++ ':' :: rest)) := by
    rw [eq]
    simp
  rw [← skipSpace_spaces spaces, ← text] at quote
  unfold Enclosure.key
  dsimp only
  rw [quote]
  simp only [if_true, text, skips, colon]

theorem steps_member {entry : Entry} {steps : Nat} (literal : IsLiteral entry.key.text)
    (h : Passes entry.value.text steps) : Steps .object entry.written (steps + 1) := by
  have written : entry.written = entry.key.written ++ [':'] ++ entry.value.written := by
    simp [Entry.written]
  rw [written]
  refine steps_of_key h (fun rest => ?_) fun rest => ?_
  · have passed := key_of_literal literal entry.key.spaces_before rest
    simpa [Padded.written] using passed
  · obtain ⟨more, eq⟩ := literal.head
    have passed := key_of_literal literal spaces_nil (entry.value.written ++ rest)
    refine ⟨'"', more ++ (entry.key.after ++ ':' :: (entry.value.written ++ rest)), ?_, by decide,
      entry.value.before, entry.value.spaces_before, ?_⟩
    · have quote := skipSpace_cons (show isSpace '"' = false by decide)
        (more ++ (entry.key.after ++ ':' :: (entry.value.written ++ rest)))
      have text : entry.key.written ++ [':'] ++ (entry.value.written ++ rest) =
          entry.key.before ++ ('"' ::
            (more ++ (entry.key.after ++ ':' :: (entry.value.written ++ rest)))) := by
        simp [Padded.written, eq]
      rw [text, skipSpace_spaces entry.key.spaces_before, quote]
    · rw [List.nil_append, eq, List.cons_append] at passed
      rw [passed]
      simp [Padded.written]

theorem separated_cons (first : Bool) (text : List Char) (texts : List (List Char)) :
    separated first (text :: texts) = separated first [text] ++ separated false texts := by
  cases first <;> simp [separated]

/-- The loop gets from inside an enclosure to behind it. -/
theorem within_separated {e : Enclosure} {texts : List (List Char)} {gap : List Char}
    (gaps : Spaces gap) (h : ∀ text ∈ texts, ∃ steps ≤ 2 * text.length + 1, Steps e text steps)
    (first : Bool) :
    ∃ steps ≤ 2 * (separated first texts).length + first.toNat, ∀ fuel enclosures rest,
      within (fuel + steps + 1) (.inside !first) (e :: enclosures)
          (separated first texts ++ (gap ++ e.closing :: rest)) =
        within fuel (.inside true) enclosures rest := by
  have closing : continues e.closing = false := by cases e <;> decide
  induction texts generalizing first with
  | nil =>
      refine ⟨0, Nat.zero_le _, fun fuel enclosures rest => ?_⟩
      have space : isSpace e.closing = false := by cases e <;> decide
      have comma : e.closing ≠ ',' := by cases e <;> decide
      have found : skipSpace (gap ++ e.closing :: rest) = e.closing :: rest := by
        rw [skipSpace_spaces gaps, skipSpace_cons space]
      rw [separated, List.nil_append, within_inside _ _ _ _ found]
      simp only [comma, decide_false, Bool.false_and, Bool.false_eq_true, if_false, if_true]
  | cons text texts ih =>
      obtain ⟨one, one_le, passes⟩ := h text List.mem_cons_self
      obtain ⟨others, others_le, closes⟩ :=
        ih (fun other mem => h other (List.mem_cons_of_mem text mem)) false
      refine ⟨others + one, ?_, fun fuel enclosures rest => ?_⟩
      · cases first <;>
          simp only [separated, List.length_cons, List.length_append, Bool.toNat_false,
            Bool.toNat_true] at others_le ⊢ <;>
          omega
      · have behind := ends_behind spaces_nil gaps texts closing rest
        rw [List.nil_append] at behind
        rw [separated_cons, List.append_assoc, ← Nat.add_assoc, Nat.add_right_comm,
          passes first _ _ _ behind]
        exact closes fuel enclosures rest

theorem passes_list {items : List Padded} {gap : List Char} (gaps : Spaces gap)
    (h : ∀ i ∈ items, Begins i.text ∧ ∃ steps ≤ 2 * i.text.length, Passes i.text steps) :
    ∃ steps ≤ 2 * (listText items gap).length, Passes (listText items gap) steps := by
  have each : ∀ text ∈ items.map Padded.written,
      ∃ steps ≤ 2 * text.length + 1, Steps .list text steps := by
    intro text mem
    obtain ⟨item, known, rfl⟩ := List.mem_map.1 mem
    obtain ⟨begins, steps, le, passes⟩ := h item known
    refine ⟨steps + 1, ?_, steps_element begins passes⟩
    simp only [Padded.written, List.length_append]
    omega
  obtain ⟨steps, le, closes⟩ := within_separated gaps each true
  refine ⟨steps + 2, ?_, fun fuel enclosures before rest spaces ends => ?_⟩
  · simp only [listText, List.length_cons, List.length_append, Bool.toNat_true] at le ⊢
    omega
  · rw [← Nat.add_assoc, within_value _ _ (skipSpace_listText spaces items gap rest), if_pos rfl]
    exact closes fuel enclosures rest

theorem passes_object {entries : List Entry} {gap : List Char} (gaps : Spaces gap)
    (h : ∀ e ∈ entries, IsLiteral e.key.text ∧
      ∃ steps ≤ 2 * e.value.text.length, Passes e.value.text steps) :
    ∃ steps ≤ 2 * (objectText entries gap).length, Passes (objectText entries gap) steps := by
  have each : ∀ text ∈ entries.map Entry.written,
      ∃ steps ≤ 2 * text.length + 1, Steps .object text steps := by
    intro text mem
    obtain ⟨entry, known, rfl⟩ := List.mem_map.1 mem
    obtain ⟨literal, steps, le, passes⟩ := h entry known
    refine ⟨steps + 1, ?_, steps_member literal passes⟩
    simp only [Entry.written, Padded.written, List.length_append, List.length_cons]
    omega
  obtain ⟨steps, le, closes⟩ := within_separated gaps each true
  refine ⟨steps + 2, ?_, fun fuel enclosures before rest spaces ends => ?_⟩
  · simp only [objectText, List.length_cons, List.length_append, Bool.toNat_true] at le ⊢
    omega
  · rw [← Nat.add_assoc, within_value _ _ (skipSpace_objectText spaces entries gap rest),
      if_neg (by decide), if_pos rfl]
    exact closes fuel enclosures rest

theorem passes_of_isJson {text : List Char} (h : IsJson text) :
    ∃ steps ≤ 2 * text.length, Passes text steps := by
  have scalar {text : List Char} (begins : Begins text) (passes : Passes text 1) :
      ∃ steps ≤ 2 * text.length, Passes text steps := by
    obtain ⟨c, more, rfl, -⟩ := begins
    exact ⟨1, by simp only [List.length_cons]; omega, passes⟩
  induction h with
  | word mem => exact scalar (begins_of_words mem) (passes_word mem)
  | number is => exact scalar (begins_of_isNumber is) (passes_number is)
  | literal is => exact scalar is.begins (passes_literal is)
  | list gaps each ih => exact passes_list gaps fun i mem => ⟨(each i mem).begins, ih i mem⟩
  | object gaps keys each ih => exact passes_object gaps fun e mem => ⟨keys e mem, ih e mem⟩

/-- Whatever is JSON is passed over. -/
theorem value_of_isJson {text before rest : List Char} (h : IsJson text) (spaces : Spaces before)
    (ends : Ends rest) : value (before ++ (text ++ rest)) = .ok rest := by
  obtain ⟨steps, le, passes⟩ := passes_of_isJson h
  obtain ⟨spare, enough⟩ : ∃ spare,
      2 * (before ++ (text ++ rest)).length + 2 = spare + 1 + steps := by
    refine ⟨2 * (before ++ (text ++ rest)).length + 1 - steps, ?_⟩
    simp only [List.length_append]
    omega
  rw [value, enough, passes _ _ _ _ spaces ends]
  rfl

end Skip

end FaceAnnotator.Json
