import FaceAnnotator.Proofs.Json.Continuation.Value
import FaceAnnotator.Proofs.Json.Presentation.Skip
import Mathlib.Data.List.DropRight
import Mathlib.Data.List.Forall2
/-!
# FaceAnnotator.Proofs.Json.Presentation.Value

**What the readers make of JSON.**

A reader `Meets` what is due for a text: with spaces before it and anything behind it that does not
continue a number, what it reads is due and it stops right behind the text, or it fails and failing
is due. That something is read and nothing else is one case of it, that the reader fails is
another, and a third is that it may do either, but stops nowhere else. Every reader does the last
on whatever is JSON.
-/

namespace FaceAnnotator.Json

variable {α β : Type}

/-- What came of reading is due, and nothing but the given rest is left. -/
def Allowed (due : Option α → Prop) (rest : List Char) : Except Fault (α × List Char) → Prop
  | .error _ => due none
  | .ok (x, left) => left = rest ∧ due (some x)

theorem Allowed.mono {due due' : Option α → Prop} {rest : List Char}
    {outcome : Except Fault (α × List Char)}
    (h : Allowed due rest outcome) (imp : ∀ out, due out → due' out) :
    Allowed due' rest outcome := by
  cases outcome with
  | error fault => exact imp none h
  | ok found => exact ⟨h.1, imp _ h.2⟩

theorem allowed_of_rest {rest : List Char} {outcome : Except Fault (α × List Char)}
    (h : ∀ x left, outcome = .ok (x, left) → left = rest) :
    Allowed (fun _ => True) rest outcome := by
  cases outcome with
  | error fault => trivial
  | ok found => exact ⟨h _ _ rfl, trivial⟩

/-- What a reader makes of a text is due, wherever the text stands. -/
def Meets (r : Reader α) (text : List Char) (due : Option α → Prop) : Prop :=
  ∀ before rest, Spaces before → Ends rest → Allowed due rest (r (before ++ (text ++ rest)))

theorem Meets.mono {r : Reader α} {text : List Char} {due due' : Option α → Prop}
    (h : Meets r text due) (imp : ∀ out, due out → due' out) : Meets r text due' :=
  fun before rest spaces ends => (h before rest spaces ends).mono imp

theorem Meets.map {r : Reader α} {text : List Char} {due : Option α → Prop} (h : Meets r text due)
    (f : α → β) {due' : Option β → Prop} (imp : ∀ out, due out → due' (out.map f)) :
    Meets (fun rest => (r rest).map fun (x, rest) => (f x, rest)) text due' := by
  intro before rest spaces ends
  have met := h before rest spaces ends
  dsimp only
  cases outcome : r (before ++ (text ++ rest)) with
  | error fault =>
      rw [outcome] at met
      exact imp none met
  | ok found =>
      rw [outcome] at met
      exact ⟨met.1, imp _ met.2⟩

/-- A reader that passes over the spaces before a text makes of it what it makes of the text. -/
theorem Answers.meets {r : Reader α} {text : List Char} {x : α} (h : Answers r text (some x))
    (spaced : ∀ before rest, Spaces before → r (before ++ rest) = r rest) :
    Meets r text fun out => out = some x := by
  intro before rest spaces ends
  have reads : r (text ++ rest) = .ok (x, rest) := h rest ends
  rw [spaced before _ spaces, reads]
  exact ⟨rfl, rfl⟩

theorem Padded.ends_after (p : Padded) : Ends p.after := by
  have ends := @ends_spaces p.after [] p.spaces_after trivial
  rwa [List.append_nil] at ends

/-- A text with spaces around it is a document. -/
theorem Meets.document {r : Reader α} {p : Padded} {x : α}
    (h : Meets r p.text fun out => out = some x) :
    document r p.written = .ok x := by
  have met := h p.before p.after p.spaces_before p.ends_after
  have blank : skipSpace p.after = [] := by
    rw [← List.append_nil p.after, skipSpace_spaces p.spaces_after, skipSpace_nil]
  rw [← Padded.written] at met
  unfold Json.document
  cases outcome : r p.written with
  | error fault =>
      rw [outcome] at met
      cases met
  | ok found =>
      obtain ⟨y, left⟩ := found
      rw [outcome] at met
      obtain ⟨rfl, eq⟩ := met
      cases eq
      simp only [blank]

theorem Meets.document_error {r : Reader α} {p : Padded}
    (h : Meets r p.text fun out => out = none) :
    ∃ complaint, Json.document r p.written = .error complaint := by
  have met := h p.before p.after p.spaces_before p.ends_after
  rw [← Padded.written] at met
  unfold Json.document
  cases outcome : r p.written with
  | error fault => exact ⟨_, rfl⟩
  | ok found =>
      rw [outcome] at met
      cases met.2

theorem skipSpace_value {before more : List Char} {c : Char} (spaces : Spaces before)
    (begins : Begins (c :: more)) (rest : List Char) :
    skipSpace (before ++ (c :: more ++ rest)) = c :: (more ++ rest) := by
  rw [skipSpace_spaces spaces, skipSpace_begins begins, List.cons_append]

/-! ### Values of one type -/

theorem takes_number {text : List Char} (expected : String) (h : IsJson text) :
    Meets (number expected) text fun _ => True := by
  intro before rest spaces ends
  have begins := h.begins
  obtain ⟨c, more, rfl, is_number, -⟩ := h.view
  refine allowed_of_rest fun n left reads => ?_
  unfold number at reads
  rw [skipSpace_value spaces begins] at reads
  dsimp only at reads
  split at reads
  · rename_i minus
    subst minus
    have passed := (is_number (.inl rfl)).passes_minus ends
    rw [Number.read_passes reads] at passed
    exact Except.ok.inj passed
  split at reads
  · rename_i digit
    have passed := (is_number (.inr digit)).passes_digit digit ends
    rw [Number.read_passes reads] at passed
    exact Except.ok.inj passed
  · cases reads

theorem takes_single {text : List Char} (h : IsJson text) : Meets single text fun _ => True := by
  intro before rest spaces ends
  have met := takes_number "f32" h before rest spaces ends
  unfold single
  cases outcome : number "f32" (before ++ (text ++ rest)) with
  | error fault => trivial
  | ok found =>
      rw [outcome] at met
      exact met

theorem takes_integer {text : List Char} (expected : String) (least greatest : Int)
    (h : IsJson text) :
    Meets (integer expected least greatest) text fun _ => True := by
  intro before rest spaces ends
  have met := takes_number expected h before rest spaces ends
  refine allowed_of_rest fun n left reads => ?_
  unfold integer at reads
  split at reads
  · cases reads
  · cases reads
  · rename_i number
    rw [number] at met
    split at reads
    · cases reads
      exact met.1
    · cases reads
  · rename_i number
    rw [number] at met
    split at reads
    · cases reads
      exact met.1
    · cases reads

theorem number_spaces {before : List Char} (spaces : Spaces before) (expected : String)
    (rest : List Char) :
    number expected (before ++ rest) = number expected rest := by
  rw [number, number, skipSpace_spaces spaces]

theorem integer_spaces {before : List Char} (spaces : Spaces before) (expected : String)
    (least greatest : Int) (rest : List Char) :
    integer expected least greatest (before ++ rest) = integer expected least greatest rest := by
  rw [integer, integer, number_spaces spaces]

theorem single_spaces {before : List Char} (spaces : Spaces before) (rest : List Char) :
    single (before ++ rest) = single rest := by
  rw [single, single, number_spaces spaces]

/-- A number stands for the same data in a document as alone. -/
theorem reads_single {text : List Char} {x : Numeric.Single} (h : IsNumber text)
    (alone : document single text = .ok x) : Meets single text fun out => out = some x := by
  have met := takes_single (.number h) [] [] spaces_nil trivial
  rw [List.nil_append, List.append_nil] at met
  unfold document at alone
  cases outcome : single text with
  | error fault =>
      rw [outcome] at alone
      cases alone
  | ok found =>
      obtain ⟨y, left⟩ := found
      rw [outcome] at alone met
      obtain ⟨rfl, -⟩ := met
      obtain rfl : y = x := Except.ok.inj alone
      exact (extends_single.answers outcome).meets fun before rest spaces =>
        single_spaces spaces rest

theorem text_cons {text rest : List Char} {c : Char} (h : skipSpace text = c :: rest) :
    Json.text text =
      if c = '"' then
        match Literal.read rest with
        | .error fault => .error fault
        | .ok (chars, rest) => .ok (String.ofList chars, rest)
      else .error (wrongType "a string" (c :: rest)) := by
  cases read : Literal.read rest <;> simp only [Json.text, h, read]

theorem takes_text {text : List Char} (h : IsJson text) : Meets Json.text text fun _ => True := by
  intro before rest spaces _
  have begins := h.begins
  obtain ⟨c, more, rfl, -, is_literal, -⟩ := h.view
  refine allowed_of_rest fun s left reads => ?_
  rw [text_cons (skipSpace_value spaces begins rest)] at reads
  split at reads
  · rename_i quote
    obtain ⟨inside, is, eq⟩ := is_literal quote
    obtain rfl : more = inside ++ ['"'] := (List.cons.inj eq).2
    rw [List.append_assoc] at reads
    split at reads
    · cases reads
    · rename_i chars behind literal
      cases reads
      exact Literal.read_inside is literal
  · cases reads

theorem reads_text {s text : List Char} (h : IsString s text) :
    Meets Json.text text fun out => out = some (String.ofList s) := by
  intro before rest spaces _
  have begins := h.isLiteral.begins
  obtain ⟨inside, spells, rfl⟩ := h
  have found := skipSpace_value spaces begins rest
  have reads : Literal.read (inside ++ ['"'] ++ rest) = .ok (s, rest) := by
    rw [List.append_assoc]
    exact Literal.read_of_spells spells rest
  rw [text_cons found, if_pos rfl, reads]
  exact ⟨rfl, rfl⟩

theorem optionalText_cons {text rest : List Char} {c : Char} (h : skipSpace text = c :: rest) :
    optionalText text =
      if c = 'n' then
        match word ['u', 'l', 'l'] rest with
        | .error fault => .error fault
        | .ok rest => .ok (none, rest)
      else
        match Json.text text with
        | .error fault => .error fault
        | .ok (s, rest) => .ok (some s, rest) := by
  have same : Json.text (c :: rest) = Json.text text := by
    have space : skipSpace (c :: rest) = c :: rest := by
      rw [← h]
      exact List.dropWhile_idempotent isSpace text
    rw [text_cons space, text_cons h]
  rw [optionalText, h]
  split
  · rename_i eq
    cases eq
    rfl
  · rename_i no_word
    have no_null : c ≠ 'n' := by
      rintro rfl
      exact no_word rest rfl
    cases read : Json.text text <;> simp only [if_neg no_null, same, read]

theorem takes_optionalText {text : List Char} (h : IsJson text) :
    Meets optionalText text fun _ => True := by
  intro before rest spaces ends
  have begins := h.begins
  have met := takes_text h before rest spaces ends
  obtain ⟨c, more, rfl, -, -, is_null, -⟩ := h.view
  refine allowed_of_rest fun s left reads => ?_
  rw [optionalText_cons (skipSpace_value spaces begins rest)] at reads
  split at reads
  · rename_i null
    rw [is_null null, word_append] at reads
    cases reads
    rfl
  · cases outcome : Json.text (before ++ (c :: more ++ rest)) with
    | error fault =>
        rw [outcome] at reads
        cases reads
    | ok found =>
        rw [outcome] at reads met
        cases reads
        exact met.1

theorem reads_null : Meets optionalText ['n', 'u', 'l', 'l'] fun out => out = some none := by
  intro before rest spaces _
  have found := skipSpace_value spaces (begins_of_words (List.mem_cons_self)) rest
  rw [optionalText_cons found, if_pos rfl]
  exact ⟨rfl, rfl⟩

theorem reads_optionalText {s text : List Char} (h : IsString s text) :
    Meets optionalText text fun out => out = some (some (String.ofList s)) := by
  intro before rest spaces ends
  have met := reads_text h before rest spaces ends
  have begins := h.isLiteral.begins
  obtain ⟨inside, spells, rfl⟩ := h
  rw [optionalText_cons (skipSpace_value spaces begins rest), if_neg (by decide)]
  cases outcome : Json.text (before ++ ('"' :: (inside ++ ['"']) ++ rest)) with
  | error fault =>
      rw [outcome] at met
      cases met
  | ok found =>
      obtain ⟨t, behind⟩ := found
      rw [outcome] at met
      obtain ⟨rfl, eq⟩ := met
      obtain rfl : t = String.ofList s := Option.some.inj eq
      exact ⟨rfl, rfl⟩

/-! ### Lists -/

theorem nextElement_item {item : Padded} {space : List Char} (begins : Begins item.text)
    (spaces : Spaces space) (first : Bool) (texts : List (List Char)) (rest : List Char) :
    nextElement first (space ++ (separated first (item.written :: texts) ++ rest)) =
      .ok (true, item.text ++ (item.after ++ (separated false texts ++ rest))) := by
  have found := skipSpace_written begins (separated false texts ++ rest)
  obtain ⟨c, more, eq, -, no_end⟩ := begins
  rw [eq, List.cons_append] at found ⊢
  cases first with
  | true =>
      rw [← skipSpace_spaces spaces] at found
      rw [separated, List.append_assoc, nextElement_cons found, if_neg no_end, if_pos rfl]
  | false =>
      have comma := skipSpace_comma spaces (item.written ++ (separated false texts ++ rest))
      rw [separated, List.cons_append, List.append_assoc, nextElement_cons comma,
        if_neg (by decide), if_neg (by decide), if_pos rfl, found]
      exact if_neg no_end

theorem nextElement_close {space gap : List Char} (spaces : Spaces space) (gaps : Spaces gap)
    (first : Bool)
    (rest : List Char) :
    nextElement first (space ++ (gap ++ ']' :: rest)) = .ok (false, ']' :: rest) := by
  have found := skipSpace_cons (show isSpace ']' = false by decide) rest
  rw [← skipSpace_spaces gaps, ← skipSpace_spaces spaces] at found
  rw [nextElement_cons found, if_pos rfl]

/-- What is due for a list, if this is due for its elements. -/
def EachDue (dues : List (Option α → Prop)) : Option (List α) → Prop
  | some xs => List.Forall₂ (fun due x => due (some x)) dues xs
  | none => ∃ due ∈ dues, due none

theorem EachDue.cons {due : Option α → Prop} {dues : List (Option α → Prop)} {x : α}
    {found : Option (List α)} (one : due (some x)) (others : EachDue dues found) :
    EachDue (due :: dues) (found.map fun xs => x :: xs) := by
  cases found with
  | none =>
      obtain ⟨other, mem, fails⟩ := others
      exact ⟨other, List.mem_cons_of_mem due mem, fails⟩
  | some xs => exact List.Forall₂.cons one others

section list

variable {element : Reader α} {items : List Padded} {dues : List (Option α → Prop)}

theorem allowed_elementsWithin
    (h : List.Forall₂ (fun item due => Begins item.text ∧ Meets element item.text due) items dues)
    {gap : List Char} (gaps : Spaces gap) {fuel : Nat} (enough : items.length < fuel) (first : Bool)
    (done : List α) {space : List Char} (spaces : Spaces space) (rest : List Char) :
    Allowed (fun out => ∃ found, EachDue dues found ∧ out = found.map (done.reverse ++ ·))
      (']' :: rest) (elementsWithin element fuel first done
        (space ++ (separated first (items.map Padded.written) ++ (gap ++ ']' :: rest)))) := by
  induction h generalizing fuel first done space with
  | nil =>
      obtain ⟨fuel, rfl⟩ := Nat.exists_eq_add_one.2 (Nat.zero_lt_of_lt enough)
      rw [List.map_nil, separated, List.nil_append, elementsWithin, nextElement_close spaces gaps]
      exact ⟨rfl, some [], .nil, by simp⟩
  | @cons item due items dues one others ih =>
      obtain ⟨fuel, rfl⟩ := Nat.exists_eq_add_one.2 (Nat.zero_lt_of_lt enough)
      have behind := ends_behind item.spaces_after gaps (items.map Padded.written)
        (show continues ']' = false by decide) rest
      have met := one.2 [] _ spaces_nil behind
      rw [List.map_cons, elementsWithin, nextElement_item one.1 spaces]
      dsimp only
      rw [List.nil_append] at met
      cases outcome :
        element (item.text ++ (item.after ++ (separated false (items.map Padded.written) ++
          (gap ++ ']' :: rest)))) with
      | error fault =>
          rw [outcome] at met
          exact ⟨none, ⟨due, List.mem_cons_self, met⟩, rfl⟩
      | ok read =>
          obtain ⟨x, left⟩ := read
          rw [outcome] at met
          obtain ⟨rfl, fits⟩ := met
          have later := @ih fuel (by simpa using enough) false (x :: done) _ item.spaces_after
          refine later.mono ?_
          rintro out ⟨found, due_found, eq⟩
          refine ⟨_, due_found.cons fits, ?_⟩
          rw [eq, Option.map_map]
          congr 1
          funext xs
          simp

theorem list_cons {text rest : List Char} {c : Char} (h : skipSpace text = c :: rest) :
    list element text =
      if c = '[' then
        match elementsWithin element (rest.length + 1) true [] rest with
        | .error fault => .error fault
        | .ok (xs, rest) =>
          match endList rest with
          | .error fault => .error fault
          | .ok rest => .ok (xs, rest)
      else .error (wrongType "a sequence" (c :: rest)) := by
  rw [list, h]
  split
  · rename_i eq
    cases eq
  · rename_i eq
    cases eq
    rfl
  · rename_i no_list
    rw [if_neg]
    rintro rfl
    exact no_list rest rfl

theorem endList_close (rest : List Char) : endList (']' :: rest) = .ok rest := by
  rw [endList, skipSpace_cons (by decide)]
  rfl

/-- The answers to a list are answers to its elements. -/
theorem meets_list {gap : List Char} (gaps : Spaces gap)
    (h : List.Forall₂ (fun item due => Begins item.text ∧ Meets element item.text due) items dues) :
    Meets (list element) (listText items gap) (EachDue dues) := by
  intro before rest spaces _
  let inner := separated true (items.map Padded.written) ++ (gap ++ ']' :: rest)
  have found : skipSpace (before ++ (listText items gap ++ rest)) = '[' :: inner :=
    skipSpace_listText spaces items gap rest
  have enough : items.length < inner.length + 1 := by
    have bound := length_le_separated true (items.map Padded.written)
    simp only [inner, List.length_append, List.length_cons, List.length_map,
      Bool.toNat_true] at bound ⊢
    omega
  have met := allowed_elementsWithin h gaps enough true [] spaces_nil rest
  rw [list_cons found, if_pos rfl]
  rw [List.nil_append] at met
  change Allowed _ _ (elementsWithin element (inner.length + 1) true [] inner) at met
  cases outcome : elementsWithin element (inner.length + 1) true [] inner with
  | error fault =>
      rw [outcome] at met
      obtain ⟨found, due_found, eq⟩ := met
      cases found with
      | none => exact due_found
      | some xs => cases eq
  | ok read =>
      obtain ⟨xs, left⟩ := read
      rw [outcome] at met
      obtain ⟨rfl, found, due_found, eq⟩ := met
      simp only [endList_close]
      cases found with
      | none => cases eq
      | some ys =>
          cases eq
          exact ⟨rfl, due_found⟩

/-- A list for given things is read as these things. -/
theorem reads_list {tells : α → List Char → Prop} {xs : List α} {text : List Char}
    (each : ∀ x text, tells x text → Begins text ∧ Meets element text fun out => out = some x)
    (h : IsListOf tells xs text) : Meets (list element) text fun out => out = some xs := by
  obtain ⟨items, gap, gaps, all, rfl⟩ := h
  have met := @meets_list α element items (xs.map fun x out => out = some x) gap gaps (by
    rw [List.forall₂_map_right_iff]
    exact all.flip.imp fun item x one => each x item.text one)
  refine met.mono fun out due => ?_
  cases out with
  | none =>
      obtain ⟨due, mem, fails⟩ := due
      obtain ⟨x, -, rfl⟩ := List.mem_map.1 mem
      cases fails
  | some ys =>
      have same : List.Forall₂ (fun x y => some y = some x) xs ys := List.forall₂_map_left_iff.1 due
      have eq : List.Forall₂ (fun x y => x = y) xs ys :=
        same.imp fun x y eq => (Option.some.inj eq).symm
      rw [List.forall₂_eq_eq_eq] at eq
      rw [eq]

variable (takes : ∀ text, IsJson text → Meets element text fun _ => True)
include takes

theorem takes_list {text : List Char} (h : IsJson text) :
    Meets (list element) text fun _ => True := by
  intro before rest spaces ends
  have begins := h.begins
  obtain ⟨c, more, rfl, -, -, -, is_list, -⟩ := h.view
  by_cases opens : c = '['
  · obtain ⟨items, gap, gaps, each, eq⟩ := is_list opens
    have met := @meets_list α element items (items.map fun _ _ => True) gap gaps (by
      rw [List.forall₂_map_right_iff, List.forall₂_same]
      exact fun item mem => ⟨(each item mem).begins, takes _ (each item mem)⟩)
    rw [← eq] at met
    exact (met before rest spaces ends).mono fun _ _ => trivial
  · rw [list_cons (skipSpace_value spaces begins rest), if_neg opens]
    trivial

/-- A list fails if an element of it does. -/
theorem refuses_list {kind : List Char → Prop}
    (refuses : ∀ text, kind text → Meets element text fun out => out = none) {text : List Char}
    (h : HasElement kind text) : Meets (list element) text fun out => out = none := by
  obtain ⟨items, gap, gaps, each, ⟨bad, bad_mem, is_bad⟩, rfl⟩ := h
  have met := @meets_list α element items (items.map fun item out => kind item.text → out = none)
      gap gaps (by
    rw [List.forall₂_map_right_iff, List.forall₂_same]
    intro item mem
    refine ⟨(each item mem).begins, ?_⟩
    by_cases is : kind item.text
    · exact (refuses _ is).mono fun out fails _ => fails
    · exact (takes _ (each item mem)).mono fun out _ kind => absurd kind is)
  refine met.mono fun out due => ?_
  cases out with
  | none => rfl
  | some xs =>
      have due : List.Forall₂ (fun item x => kind item.text → some x = none) items xs :=
        List.forall₂_map_left_iff.1 due
      obtain ⟨⟨i, below⟩, rfl⟩ := List.mem_iff_get.1 bad_mem
      have refused := due.get below (due.length_eq ▸ below) is_bad
      cases refused

end list

end FaceAnnotator.Json
