import FaceAnnotator.Text.Blank
import Mathlib.Data.List.TakeWhile
/-!
# FaceAnnotator.Proofs.Text.Trim

**Trimmed texts, alone and joined by spaces.**

A text is trimmed (`IsTrimmed`) if it has no blank at either end; trimming leads there, and only
a text of nothing but blanks is trimmed away. Trimmed texts that are joined by spaces make a
trimmed text again.

Words without blanks can be told from the text that they are joined to (`words_intercalate`). Only
no words and one empty word would look the same, so the empty text is said to have no words.
-/

namespace FaceAnnotator.Text

/-- No blank stands first or last. -/
structure IsTrimmed (text : List Char) : Prop where
  first : ∀ c ∈ text.head?, isBlank c = false
  last : ∀ c ∈ text.getLast?, isBlank c = false

theorem isTrimmed_nil : IsTrimmed [] := ⟨nofun, nofun⟩

theorem head?_trimStart (text : List Char) : ∀ c ∈ (trimStart text).head?, isBlank c = false := by
  intro c first
  have not_blank := List.head?_dropWhile_not isBlank text
  rw [trimStart] at first
  rwa [first] at not_blank

theorem trimEnd_prefix (text : List Char) : trimEnd text <+: text := by
  rw [trimEnd, ← List.reverse_suffix, List.reverse_reverse]
  exact List.dropWhile_suffix isBlank

theorem isTrimmed_trim (text : List Char) : IsTrimmed (trim text) where
  first := by
    intro c first
    -- Nothing is taken off before the first character.
    obtain ⟨behind, eq⟩ := trimEnd_prefix (trimStart text)
    refine head?_trimStart text c ?_
    rw [← eq, List.head?_append, ← trim, first]
    rfl
  last := by
    intro c last
    rw [trim, trimEnd, List.getLast?_reverse] at last
    exact head?_trimStart (trimStart text).reverse c last

theorem trim_eq_nil_iff {text : List Char} : trim text = [] ↔ ∀ c ∈ text, isBlank c := by
  rw [trim, trimEnd, List.reverse_eq_nil_iff, List.dropWhile_eq_nil_iff]
  constructor
  · intro blank
    rw [← List.dropWhile_eq_nil_iff, ← trimStart]
    cases start : trimStart text with
    | nil => rfl
    | cons c rest =>
        -- What is left at the start is not blank, so it is not trimmed away at the end either.
        have kept := head?_trimStart text c (by rw [start]; rfl)
        rw [blank c (by simp [start])] at kept
        contradiction
  · intro blank c mem
    exact blank c ((List.dropWhile_suffix isBlank).subset (List.mem_reverse.1 mem))

theorem trimStart_of_blankless {text : List Char} (h : ∀ c ∈ text, isBlank c = false) :
    trimStart text = text := by
  cases text with
  | nil => rfl
  | cons c text => rw [trimStart, List.dropWhile_cons_of_neg (by simp [h])]

/-- A text without blanks stays as it is. -/
theorem trim_of_blankless {text : List Char} (h : ∀ c ∈ text, isBlank c = false) :
    trim text = text := by
  have backwards : trimStart text.reverse = text.reverse :=
    trimStart_of_blankless fun c mem => h c (List.mem_reverse.1 mem)
  rw [trim, trimStart_of_blankless h, trimEnd, ← trimStart, backwards, List.reverse_reverse]

/-! ### Joined by spaces -/

theorem intercalate_eq_nil_iff {words : List (List Char)} (h : ∀ word ∈ words, word ≠ []) :
    [' '].intercalate words = [] ↔ words = [] := by
  match words with
  | [] => simp
  | [word] => simpa using h
  | word :: other :: rest => simp [List.intercalate_cons_cons]

theorem isTrimmed_intercalate {words : List (List Char)}
    (h : ∀ word ∈ words, word ≠ [] ∧ IsTrimmed word) :
    IsTrimmed ([' '].intercalate words) := by
  induction words with
  | nil => exact isTrimmed_nil
  | cons word words ih =>
      obtain ⟨nonempty, trimmed⟩ := h word List.mem_cons_self
      have later : ∀ other ∈ words, other ≠ [] ∧ IsTrimmed other :=
        fun other mem => h other (List.mem_cons_of_mem word mem)
      cases words with
      | nil => simpa using trimmed
      | cons other rest =>
          have rest_nonempty : [' '].intercalate (other :: rest) ≠ [] :=
            (intercalate_eq_nil_iff fun w mem => (later w mem).1).not.2
              (List.cons_ne_nil other rest)
          rw [List.intercalate_cons_cons]
          constructor
          · intro c first
            refine trimmed.first c ?_
            rwa [List.append_assoc, List.head?_append, List.head?_eq_some_head nonempty,
              Option.some_or, ← List.head?_eq_some_head nonempty] at first
          · intro c last
            refine (ih later).last c ?_
            rwa [List.getLast?_append, List.getLast?_eq_some_getLast rest_nonempty, Option.some_or,
              ← List.getLast?_eq_some_getLast rest_nonempty] at last

/-- The words that a text is joined of by single spaces. The empty text has none. -/
def words (text : List Char) : List (List Char) := if text = [] then [] else text.splitOn ' '

theorem words_intercalate {words : List (List Char)}
    (h : ∀ word ∈ words, word ≠ [] ∧ ∀ c ∈ word, isBlank c = false) :
    Text.words ([' '].intercalate words) = words := by
  have joined := intercalate_eq_nil_iff fun word mem => (h word mem).1
  unfold Text.words
  split
  · rename_i empty
    exact (joined.1 empty).symm
  · rename_i nonempty
    refine List.splitOn_intercalate ' ' (fun word mem space => ?_) (joined.not.1 nonempty)
    have blank := (h word mem).2 ' ' space
    exact absurd blank (by decide)

end FaceAnnotator.Text
