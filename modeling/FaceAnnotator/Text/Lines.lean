/-!
# FaceAnnotator.Text.Lines

**A text as its lines.**

A line ends at a line feed, and a carriage return right before that line feed belongs to the ending.
What follows the last line feed is a line of its own unless it is empty, so a text that ends in a
line feed has no empty last line. Such a last line keeps its carriage return: nothing ends it.
-/

namespace FaceAnnotator.Text

/-- Whether a character is no line feed. -/
def inLine (c : Char) : Bool := c ≠ '\n'

/-- A line without the carriage return of its ending. -/
def withoutReturn (line : List Char) : List Char :=
  if line.getLast? = some '\r' then line.dropLast else line

/-- What follows the first line is shorter than the text. -/
theorem length_of_dropWhile_inLine {text rest : List Char} {c : Char}
    (h : text.dropWhile inLine = c :: rest) : rest.length < text.length := by
  have := (List.dropWhile_sublist (l := text) inLine).length_le
  rw [h, List.length_cons] at this
  omega

/-- The lines of a text, without their endings. -/
def lines (text : List Char) : List (List Char) :=
  match _ending : text.dropWhile inLine with
  | [] => if text.isEmpty then [] else [text]
  | _ :: rest => withoutReturn (text.takeWhile inLine) :: lines rest
termination_by text.length
decreasing_by exact length_of_dropWhile_inLine _ending

@[simp] theorem lines_nil : lines [] = [] := by
  unfold lines
  rfl

/-- A text without a line feed is its only line. -/
theorem lines_of_all_inLine {line : List Char} (h : ∀ c ∈ line, inLine c) (hne : line ≠ []) :
    lines line = [line] := by
  have hd : line.dropWhile inLine = [] := by
    have := (List.dropWhile_append_of_pos h : (line ++ []).dropWhile inLine = [].dropWhile inLine)
    simpa using this
  unfold lines
  split
  · simp [hne]
  · simp_all

/-- A line feed ends a line. -/
theorem lines_append_newline {line : List Char} (h : ∀ c ∈ line, inLine c) (rest : List Char) :
    lines (line ++ '\n' :: rest) = withoutReturn line :: lines rest := by
  have hn : inLine '\n' = false := rfl
  have hd : (line ++ '\n' :: rest).dropWhile inLine = '\n' :: rest := by
    rw [List.dropWhile_append_of_pos h]
    simp [hn]
  have ht : (line ++ '\n' :: rest).takeWhile inLine = line := by
    rw [List.takeWhile_append_of_pos h]
    simp [hn]
  rw [lines]
  split
  · simp_all
  · rename_i heq
    rw [hd] at heq
    obtain ⟨rfl, rfl⟩ : '\n' = _ ∧ rest = _ := by simpa using heq
    rw [ht]

end FaceAnnotator.Text
