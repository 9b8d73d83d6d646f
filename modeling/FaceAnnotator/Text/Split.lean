/-!
# FaceAnnotator.Text.Split

**The parts of a text between separators.** There is always at least one part, and a part
may be empty.
-/

namespace FaceAnnotator.Text

/-- The parts of a text between separators. -/
def splitAt (separator : Char) : List Char → List (List Char)
  | [] => [[]]
  | c :: text =>
    if c = separator then [] :: splitAt separator text
    else
      match splitAt separator text with
      | [] => [[c]]
      | part :: parts => (c :: part) :: parts

/-- No part holds a separator. -/
theorem separator_not_mem_of_mem_splitAt {separator : Char} {text part : List Char}
    (h : part ∈ splitAt separator text) : separator ∉ part := by
  induction text generalizing part with
  | nil =>
    simp only [splitAt, List.mem_singleton] at h
    simp [h]
  | cons c text ih =>
    unfold splitAt at h
    split at h
    · cases List.mem_cons.1 h with
      | inl eq => simp [eq]
      | inr mem => exact ih mem
    · rename_i distinct
      split at h
      · simp only [List.mem_singleton] at h
        simp [h, Ne.symm distinct]
      · rename_i first parts eq
        cases List.mem_cons.1 h with
        | inl same =>
          rw [same, List.mem_cons, not_or]
          exact ⟨Ne.symm distinct, ih (by rw [eq]; exact List.mem_cons_self)⟩
        | inr mem => exact ih (by rw [eq]; exact List.mem_cons_of_mem _ mem)

end FaceAnnotator.Text
