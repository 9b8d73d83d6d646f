import FaceAnnotator.Json.Value
/-!
# FaceAnnotator.Proofs.Json.Answer

**What a reader makes of a text, whatever comes behind it.**

A text is handed to a reader with something behind it: a comma, a bracket, or nothing. Only a number
could be taken to go on there, so what comes behind must not continue one (`Ends`).
`Answers r text (some x)` says that the reader reads `x` and leaves what comes behind;
`Answers r text none` says that it refuses the text for what it says, not for how it is written.
-/

namespace FaceAnnotator.Json

variable {α β : Type}

/-- Whether a number may go on with a character. -/
def continues (c : Char) : Bool := isDigit c || c = '.' || c = 'e' || c = 'E'

/-- No number goes on here. -/
def Ends : List Char → Prop
  | [] => True
  | c :: _ => continues c = false

/-- A text that begins neither with a space nor like the end of a list. -/
def Begins (text : List Char) : Prop := ∃ c more, text = c :: more ∧ isSpace c = false ∧ c ≠ ']'

/-- What came of reading, given the answer that is due: a value and the rest behind it, or a
complaint about the content. -/
def Answered (rest : List Char) (outcome : Except Fault (α × List Char)) : Option α → Prop
  | some x => outcome = .ok (x, rest)
  | none => ∃ fault, outcome = .error fault ∧ fault.cause.category = .content

@[simp] theorem answered_some (rest : List Char) (outcome : Except Fault (α × List Char)) (x : α) :
    Answered rest outcome (some x) ↔ outcome = .ok (x, rest) := Iff.rfl

/-- The answer of a reader to a text. -/
def Answers (r : Reader α) (text : List Char) (answer : Option α) : Prop :=
  ∀ rest, Ends rest → Answered rest (r (text ++ rest)) answer

/-- What a reader makes of what another one reads. -/
theorem Answers.map {r : Reader α} {text : List Char} {answer : Option α}
    (h : Answers r text answer) (f : α → β) :
    Answers (fun rest => (r rest).map fun (x, rest) => (f x, rest)) text (answer.map f) := by
  cases answer with
  | none =>
      intro rest ends
      obtain ⟨fault, refused, content⟩ := h rest ends
      refine ⟨fault, ?_, content⟩
      simp only [refused]
      rfl
  | some x =>
      intro rest ends
      have reads : r (text ++ rest) = .ok (x, rest) := h rest ends
      simp only [reads]
      rfl

theorem Answers.map_ite {r : Reader α} {text : List Char} {accepted : Bool} {x : α}
    (h : Answers r text (if accepted then some x else none)) (f : α → β) :
    Answers (fun rest => (r rest).map fun (x, rest) => (f x, rest)) text
      (if accepted then some (f x) else none) := by
  have mapped := h.map f
  rwa [apply_ite (Option.map f)] at mapped

/-- A text that stands alone is a document. -/
theorem Answers.document {r : Reader α} {text : List Char} {x : α} (h : Answers r text (some x)) :
    document r text = .ok x := by
  have alone : r (text ++ []) = .ok (x, []) := h [] trivial
  rw [List.append_nil] at alone
  simp [Json.document, alone]

theorem Answers.document_none {r : Reader α} {text : List Char} (h : Answers r text none) :
    ∃ complaint, Json.document r text = .error complaint ∧ complaint.cause.category = .content := by
  obtain ⟨fault, refused, content⟩ := h [] trivial
  rw [List.append_nil] at refused
  refine ⟨fault.locate text, ?_, content⟩
  rw [Json.document, refused]

theorem skipSpace_cons {c : Char} (h : isSpace c = false) (rest : List Char) :
    skipSpace (c :: rest) = c :: rest := by
  rw [skipSpace, List.dropWhile_cons_of_neg (by simp [h])]

end FaceAnnotator.Json
