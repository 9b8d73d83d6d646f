import FaceAnnotator.Text.Lines
import Mathlib.Data.List.Basic
/-!
# FaceAnnotator.Proofs.Text.Numbering

**The lines of a text are found in the text itself.**

`IsLine` says what a line is without taking the text apart: it begins the text or stands behind a
line feed, holds no line feed, and ends at an ending or with the text. Its place is the number of
line feeds before it. `getElem?_lines_iff` says that the lines of a text are all of these, each
at its place.
-/

namespace FaceAnnotator.Text

/-- What can stand behind a line. A carriage return is left to the line only if no line feed follows
it. -/
inductive Ending (line : List Char) : List Char → Prop where
  /-- A line feed, and maybe more lines. -/
  | newline (rest : List Char) (kept : line.getLast? ≠ some '\r') : Ending line ('\n' :: rest)
  /-- A carriage return and a line feed, and maybe more lines. -/
  | returned (rest : List Char) : Ending line ('\r' :: '\n' :: rest)
  /-- Nothing: the last line goes on to the end of the text, unless there is nothing on it. -/
  | last (filled : line ≠ []) : Ending line []

/-- A line stands in a text behind so many line feeds. -/
def IsLine (text : List Char) (place : Nat) (line : List Char) : Prop :=
  ∃ before behind, text = before ++ line ++ behind ∧ (before = [] ∨ before.getLast? = some '\n') ∧
    before.count '\n' = place ∧ '\n' ∉ line ∧ Ending line behind

/-! ### A text as a first line and more text -/

theorem all_inLine_iff {text : List Char} : (∀ c ∈ text, inLine c = true) ↔ '\n' ∉ text := by
  simp only [inLine, decide_eq_true_eq]
  exact ⟨fun h mem => h '\n' mem rfl, fun h c mem eq => h (eq ▸ mem)⟩

/-- A text either stays on its first line, or is a line, a line feed and a shorter text. -/
theorem lines_induction {motive : List Char → Prop} (single : ∀ line, '\n' ∉ line → motive line)
    (more : ∀ first rest, '\n' ∉ first → motive rest → motive (first ++ '\n' :: rest)) :
    ∀ text, motive text := by
  intro text
  induction size : text.length using Nat.strongRecOn generalizing text with
  | _ size ih =>
      by_cases mem : '\n' ∈ text
      · obtain ⟨first, rest, rfl, fresh⟩ := List.eq_append_cons_of_mem mem
        refine more first rest fresh (ih rest.length ?_ rest rfl)
        rw [List.length_append, List.length_cons] at size
        omega
      · exact single text mem

theorem not_mem_withoutReturn {first : List Char} (h : '\n' ∉ first) :
    '\n' ∉ withoutReturn first := by
  unfold withoutReturn
  split
  · exact fun mem => h (List.dropLast_subset first mem)
  · exact h

theorem withoutReturn_append_return (line : List Char) : withoutReturn (line ++ ['\r']) = line := by
  simp [withoutReturn]

/-- A line up to a line feed has an ending there. -/
theorem exists_ending (first rest : List Char) :
    ∃ behind, first ++ '\n' :: rest = withoutReturn first ++ behind ∧
      Ending (withoutReturn first) behind := by
  by_cases last : first.getLast? = some '\r'
  · obtain ⟨line, rfl⟩ := List.getLast?_eq_some_iff.1 last
    rw [withoutReturn_append_return]
    exact ⟨'\r' :: '\n' :: rest, by simp, .returned rest⟩
  · rw [withoutReturn, if_neg last]
    exact ⟨'\n' :: rest, rfl, .newline rest last⟩

theorem takeWhile_append_newline {line : List Char} (h : '\n' ∉ line) (rest : List Char) :
    (line ++ '\n' :: rest).takeWhile inLine = line := by
  rw [List.takeWhile_append_of_pos (all_inLine_iff.2 h), List.takeWhile_cons, if_neg (by decide),
    List.append_nil]

/-- A text has at most one first line. -/
theorem append_newline_inj {first line rest behind : List Char} (h : '\n' ∉ first)
    (h' : '\n' ∉ line) (eq : first ++ '\n' :: rest = line ++ '\n' :: behind) :
    first = line ∧ rest = behind := by
  have same : first = line := by
    rw [← takeWhile_append_newline h rest, eq, takeWhile_append_newline h' behind]
  subst same
  exact ⟨rfl, by simpa using eq⟩

theorem Ending.eq_withoutReturn {first line rest behind : List Char} (ends : Ending line behind)
    (h : '\n' ∉ first) (h' : '\n' ∉ line) (eq : first ++ '\n' :: rest = line ++ behind) :
    line = withoutReturn first := by
  cases ends with
  | newline behind kept =>
      obtain ⟨rfl, -⟩ := append_newline_inj h h' eq
      rw [withoutReturn, if_neg kept]
  | returned behind =>
      rw [List.append_cons line] at eq
      obtain ⟨rfl, -⟩ := append_newline_inj h (by simpa using h') eq
      exact (withoutReturn_append_return line).symm
  | last => exact absurd (eq ▸ by simp : '\n' ∈ line ++ []) (by simpa using h')

/-! ### The lines of a text -/

theorem isLine_of_not_mem {text : List Char} (h : '\n' ∉ text) {place : Nat} {line : List Char} :
    IsLine text place line ↔ place = 0 ∧ text ≠ [] ∧ line = text := by
  constructor
  · rintro ⟨before, behind, rfl, start, rfl, -, ends⟩
    have none : before = [] := start.resolve_right fun last =>
      h (List.mem_append_left _ (List.mem_append_left _ (List.mem_of_getLast? last)))
    subst none
    cases ends with
    | newline => simp at h
    | returned => simp at h
    | last filled => simpa using filled
  · rintro ⟨rfl, filled, rfl⟩
    exact ⟨[], [], by simp, .inl rfl, rfl, h, .last filled⟩

theorem isLine_append_newline {first : List Char} (h : '\n' ∉ first) {rest : List Char}
    {place : Nat} {line : List Char} :
    IsLine (first ++ '\n' :: rest) place line ↔
      (place = 0 ∧ line = withoutReturn first) ∨ ∃ n, place = n + 1 ∧ IsLine rest n line := by
  constructor
  · rintro ⟨before, behind, eq, rfl | last, rfl, fresh, ends⟩
    · exact .inl ⟨rfl, ends.eq_withoutReturn h fresh eq⟩
    · obtain ⟨before, rfl⟩ := List.getLast?_eq_some_iff.1 last
      refine .inr ⟨before.count '\n', by simp, ?_⟩
      simp only [List.append_assoc, List.singleton_append] at eq
      rcases List.append_eq_append_iff.1 eq with ⟨others, rfl, after⟩ | ⟨others, rfl, after⟩
      · cases others with
        | nil =>
            exact ⟨[], behind, by simpa using after, .inl rfl, by simp [List.count_eq_zero.2 h],
              fresh, ends⟩
        | cons c others =>
            obtain ⟨rfl, rfl⟩ := List.cons.inj after
            refine ⟨others ++ ['\n'], behind, by simp, .inr (by simp), ?_, fresh, ends⟩
            simp [List.count_eq_zero.2 h]
      · cases others with
        | nil =>
            rw [List.append_nil] at h
            exact ⟨[], behind, by simpa using after.symm, .inl rfl,
              by simp [List.count_eq_zero.2 h], fresh, ends⟩
        | cons c others =>
            obtain ⟨rfl, -⟩ := List.cons.inj after
            simp at h
  · rintro (⟨rfl, rfl⟩ | ⟨n, rfl, before, behind, rfl, start, rfl, fresh, ends⟩)
    · obtain ⟨behind, eq, ends⟩ := exists_ending first rest
      exact ⟨[], behind, eq, .inl rfl, rfl, not_mem_withoutReturn h, ends⟩
    · refine ⟨first ++ '\n' :: before, behind, by simp, .inr ?_, by simp [List.count_eq_zero.2 h],
        fresh, ends⟩
      rcases start with rfl | last
      · exact List.getLast?_concat
      · rw [List.getLast?_append, List.getLast?_cons, last]
        rfl

/-- The lines of a text are what stands at its places. -/
theorem getElem?_lines_iff {text : List Char} {place : Nat} {line : List Char} :
    (lines text)[place]? = some line ↔ IsLine text place line := by
  induction text using lines_induction generalizing place with
  | single text h =>
      rw [isLine_of_not_mem h]
      cases text with
      | nil => simp
      | cons c text =>
          rw [lines_of_all_inLine (all_inLine_iff.2 h) (List.cons_ne_nil c text)]
          cases place <;> simp [eq_comm]
  | more first rest h ih =>
      rw [isLine_append_newline h, lines_append_newline (all_inLine_iff.2 h)]
      cases place with
      | zero => simp [eq_comm]
      | succ n => simp [ih]

end FaceAnnotator.Text
