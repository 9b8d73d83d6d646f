import FaceAnnotator.Recording.LineReader
/-!
# FaceAnnotator.Proofs.Text.Lines

**Lines that were ended one by one are read one by one.**

A line that holds neither a line feed nor a carriage return comes back as it was. What stands behind
the last ending is a line too, unless it is nothing.
-/

namespace FaceAnnotator

namespace Text

/-- A text that stays on its line, and all of which is the line. -/
def Unbroken (line : List Char) : Prop := ∀ c ∈ line, c ≠ '\n' ∧ c ≠ '\r'

/-- Lines, each with its ending. -/
def ended (lines : List (List Char)) : List Char := lines.flatMap (· ++ ['\n'])

@[simp] theorem ended_cons (line : List Char) (lines : List (List Char)) :
    ended (line :: lines) = line ++ '\n' :: ended lines := by
  simp [ended]

theorem Unbroken.inLine {line : List Char} (h : Unbroken line) :
    ∀ c ∈ line, Text.inLine c = true := by
  intro c mem
  simpa [Text.inLine] using (h c mem).1

theorem Unbroken.withoutReturn {line : List Char} (h : Unbroken line) :
    withoutReturn line = line := by
  rw [Text.withoutReturn, if_neg]
  intro last
  exact (h '\r' (List.mem_of_getLast? last)).2 rfl

theorem Unbroken.of_prefix {line part : List Char} (h : Unbroken line) (le : part <+: line) :
    Unbroken part :=
  fun c mem => h c (le.subset mem)

/-- What is left behind the endings. -/
def remainder (part : List Char) : List (List Char) := if part.isEmpty then [] else [part]

theorem lines_remainder {part : List Char} (h : Unbroken part) : lines part = remainder part := by
  cases part with
  | nil => simp [remainder]
  | cons c part => exact lines_of_all_inLine h.inLine (List.cons_ne_nil c part)

theorem lines_ended_append {lines : List (List Char)} {part : List Char}
    (h : ∀ line ∈ lines, Unbroken line) (rest : Unbroken part) :
    Text.lines (ended lines ++ part) = lines ++ remainder part := by
  induction lines with
  | nil => exact lines_remainder rest
  | cons line lines ih =>
      have first := h line List.mem_cons_self
      have others := ih fun other mem => h other (List.mem_cons_of_mem line mem)
      rw [ended_cons, List.append_assoc, List.cons_append, lines_append_newline first.inLine,
        first.withoutReturn, others, List.cons_append]

end Text

theorem numberedFrom_append (number : Nat) (lines others : List (List Char)) :
    numberedFrom number (lines ++ others) =
      numberedFrom number lines ++ numberedFrom (number + lines.length) others := by
  induction lines generalizing number with
  | nil => rfl
  | cons line lines ih =>
      have later : number + 1 + lines.length = number + (line :: lines).length := by
        rw [List.length_cons]
        omega
      rw [List.cons_append, numberedFrom, ih, numberedFrom, List.cons_append, later]

theorem mem_of_mem_numberedFrom {number : Nat} {lines : List (List Char)} {entry : Nat × List Char}
    (h : entry ∈ numberedFrom number lines) : entry.2 ∈ lines := by
  induction lines generalizing number with
  | nil => cases h
  | cons line lines ih =>
      rw [numberedFrom] at h
      rcases List.mem_cons.1 h with rfl | h
      · exact List.mem_cons_self
      · exact List.mem_cons_of_mem line (ih h)

/-- A text none of whose lines is blank has a frame on each of them. -/
theorem frameLines_of_not_blank {text : List Char}
    (h : ∀ line ∈ Text.lines text, line.all Text.isBlank = false) :
    frameLines text = numberedFrom 1 (Text.lines text) := by
  refine List.filter_eq_self.2 fun entry mem => ?_
  simp [h entry.2 (mem_of_mem_numberedFrom mem)]

end FaceAnnotator
